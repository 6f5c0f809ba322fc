/-!
# Days and moments

A day is a date of the calendar that leaps every fourth year, except in the centuries that four
hundred does not divide. A moment is a time of a day, to the millionth of a second, with or without
an offset from universal time. Both are read from digits in a fixed order, the offset, the date and
the time are then checked in that order, and both are written with all their digits.
-/
namespace Lag.Calendar

/-- A day of the calendar. -/
structure Day where
  /-- The year. -/
  year : Nat
  /-- The month, from one. -/
  month : Nat
  /-- The day of the month, from one. -/
  day : Nat
  deriving DecidableEq, Repr, Inhabited

/-- A time of a day. -/
structure Moment where
  /-- The day. -/
  date : Day
  /-- The hour. -/
  hour : Nat
  /-- The minute. -/
  minute : Nat
  /-- The second. -/
  second : Nat
  /-- The millionths of a second. -/
  micro : Nat
  /-- The offset from universal time in minutes, if there is one. -/
  offset : Option Int
  deriving DecidableEq, Repr, Inhabited

/-- Whether a year has a leap day. -/
def isLeap (year : Nat) : Bool := year % 4 == 0 && (year % 100 != 0 || year % 400 == 0)

/-- The number of days of a month. -/
def monthLength (year month : Nat) : Nat :=
  if month = 2 then (if isLeap year then 29 else 28)
  else if month = 4 ∨ month = 6 ∨ month = 9 ∨ month = 11 then 30
  else 31

/-- Why numbers are no day or moment. -/
inductive Fault where
  /-- The year is zero. -/
  | year (given : Nat)
  /-- There is no such month. -/
  | month
  /-- The month has no such day. -/
  | day
  /-- There is no such hour. -/
  | hour
  /-- There is no such minute. -/
  | minute
  /-- There is no such second. -/
  | second
  /-- The offset is a day or more. -/
  | offset (minutes : Int)
  deriving DecidableEq, Repr

/-- A span of minutes as messages show it: in whole days, down to the day below, and seconds. -/
def spanDisplay (minutes : Int) : String :=
  let days := Int.fdiv minutes 1440
  let seconds := Int.fmod minutes 1440 * 60
  let parts := (if days = 0 then [] else ["days=" ++ toString days]) ++
    (if seconds = 0 then [] else ["seconds=" ++ toString seconds])
  "datetime.timedelta(" ++ (if parts.isEmpty then "0" else ", ".intercalate parts) ++ ")"

/-- The wording of a fault. -/
def Fault.message : Fault → String
  | .year given => "year " ++ toString given ++ " is out of range"
  | .month => "month must be in 1..12"
  | .day => "day is out of range for month"
  | .hour => "hour must be in 0..23"
  | .minute => "minute must be in 0..59"
  | .second => "second must be in 0..59"
  | .offset minutes =>
    "offset must be a timedelta strictly between -timedelta(hours=24) and timedelta(hours=24), " ++
      "not " ++ spanDisplay minutes ++ "."

/-- Refuse a day that the calendar does not have. -/
def Day.check (date : Day) : Except Fault Day :=
  if date.year = 0 then .error (.year date.year)
  else if date.month = 0 ∨ 12 < date.month then .error .month
  else if date.day = 0 ∨ monthLength date.year date.month < date.day then .error .day
  else .ok date

/-- Refuse an offset of a day or more. -/
def checkOffset (offset : Option Int) : Except Fault Unit :=
  match offset with
  | some minutes => if minutes.natAbs < 1440 then .ok () else .error (.offset minutes)
  | none => .ok ()

/-- Refuse a moment that does not exist. -/
def Moment.check (moment : Moment) : Except Fault Moment := do
  checkOffset moment.offset
  let _ ← moment.date.check
  if 23 < moment.hour then throw .hour
  if 59 < moment.minute then throw .minute
  if 59 < moment.second then throw .second
  return moment

/-! ## Writing -/

/-- A number in decimal digits, with zeros before it up to a width. -/
def padded (width number : Nat) : String :=
  let digits := toString number
  String.ofList (List.replicate (width - digits.length) '0') ++ digits

/-- A day in digits. -/
def Day.written (date : Day) : String :=
  padded 4 date.year ++ "-" ++ padded 2 date.month ++ "-" ++ padded 2 date.day

/-- An offset in digits. -/
def offsetWritten (minutes : Int) : String :=
  (if minutes < 0 then "-" else "+") ++ padded 2 (minutes.natAbs / 60) ++ ":" ++
    padded 2 (minutes.natAbs % 60)

/-- A moment in digits. -/
def Moment.written (moment : Moment) : String :=
  moment.date.written ++ " " ++ padded 2 moment.hour ++ ":" ++ padded 2 moment.minute ++ ":" ++
    padded 2 moment.second ++
    (if moment.micro = 0 then "" else "." ++ padded 6 moment.micro) ++
    (moment.offset.map offsetWritten).getD ""

/-- Numbers with commas between them. -/
def commaList (numbers : List Nat) : String := ", ".intercalate (numbers.map toString)

/-- A day as messages show it. -/
def Day.display (date : Day) : String :=
  "datetime.date(" ++ commaList [date.year, date.month, date.day] ++ ")"

/-- An offset as messages show it. -/
def offsetDisplay (minutes : Int) : String :=
  if minutes = 0 then "datetime.timezone.utc"
  else "datetime.timezone(" ++ spanDisplay minutes ++ ")"

/-- A moment as messages show it: seconds and their millionths only up to the last that is not
zero. -/
def Moment.display (moment : Moment) : String :=
  let date := moment.date
  let seconds :=
    if moment.micro ≠ 0 then [moment.second, moment.micro]
    else if moment.second ≠ 0 then [moment.second]
    else []
  "datetime.datetime(" ++
    commaList ([date.year, date.month, date.day, moment.hour, moment.minute] ++ seconds) ++
    (moment.offset.map fun minutes => ", tzinfo=" ++ offsetDisplay minutes).getD "" ++ ")"

/-! ## Reading -/

/-- What digits say about a day and a time, before they are checked. -/
inductive Stamp where
  /-- A day. The flag says that the month and the day of the month have two digits each. -/
  | day (date : Day) (isWide : Bool)
  /-- A moment. -/
  | moment (moment : Moment)
  deriving DecidableEq, Repr

/-- Between `least` and `most` digits at the front of a text: their number, how many there are, and
the rest. -/
def takeNumber? (least most : Nat) (text : List Char) : Option (Nat × Nat × List Char) :=
  let digits := (text.take most).takeWhile Char.isDigit
  if digits.length < least then none
  else
    let number := digits.foldl (fun number digit => number * 10 + (digit.toNat - 48)) 0
    some (number, digits.length, text.drop digits.length)

/-- What stands after a character at the front of a text. -/
def takeMark? (mark : Char) : List Char → Option (List Char)
  | [] => none
  | c :: rest => if c = mark then some rest else none

/-- Whether a character may stand between a day, a time and an offset. -/
def isGap (c : Char) : Bool := c == ' ' || c == '\t'

/-- The offset that ends a text; the outer option is none when the text ends in something else. -/
def readOffset? (text : List Char) : Option (Option Int) :=
  match text.dropWhile isGap with
  | [] => if text.isEmpty then some none else none
  | ['Z'] => some (some 0)
  | sign :: rest =>
    if sign = '+' ∨ sign = '-' then do
      let (hours, _, rest) ← takeNumber? 1 2 rest
      let (minutes, rest) ← match rest with
        | ':' :: rest => (takeNumber? 2 2 rest).map fun (minutes, _, rest) => (minutes, rest)
        | rest => some (0, rest)
      let size : Int := hours * 60 + minutes
      if rest.isEmpty then some (some (if sign = '-' then -size else size)) else none
    else none

/-- The millionths after a point, and the rest. Digits after the sixth are left out. -/
def takeFraction (text : List Char) : Nat × List Char :=
  match text with
  | '.' :: rest =>
    let digits := rest.takeWhile Char.isDigit
    let used := digits.take 6
    let number := used.foldl (fun number digit => number * 10 + (digit.toNat - 48)) 0
    (number * Nat.pow 10 (6 - used.length), rest.dropWhile Char.isDigit)
  | _ => (0, text)

/-- What stands after the gap between a day and a time, if there is one. -/
def takeGap? : List Char → Option (List Char)
  | [] => none
  | c :: rest =>
    if c = 'T' ∨ c = 't' then some rest
    else if isGap c then some (rest.dropWhile isGap)
    else none

/-- Read a day or a moment. -/
def Stamp.ofChars? (text : List Char) : Option Stamp := do
  let (year, _, rest) ← takeNumber? 4 4 text
  let (month, monthWidth, rest) ← takeNumber? 1 2 (← takeMark? '-' rest)
  let (number, dayWidth, rest) ← takeNumber? 1 2 (← takeMark? '-' rest)
  let date : Day := ⟨year, month, number⟩
  if rest.isEmpty then return .day date (monthWidth == 2 && dayWidth == 2)
  let (hour, _, rest) ← takeNumber? 1 2 (← takeGap? rest)
  let (minute, _, rest) ← takeNumber? 2 2 (← takeMark? ':' rest)
  let (second, _, rest) ← takeNumber? 2 2 (← takeMark? ':' rest)
  let (micro, rest) := takeFraction rest
  return .moment ⟨date, hour, minute, second, micro, ← readOffset? rest⟩

/-- Whether a stamp is written as one without being called one: a day needs all its digits. -/
def Stamp.isPlain : Stamp → Bool
  | .day _ isWide => isWide
  | .moment _ => true

/-- A day that was checked is that of the calendar. -/
theorem Day.check_eq_ok_iff (date checked : Day) :
    date.check = .ok checked ↔
      checked = date ∧ 1 ≤ date.year ∧ 1 ≤ date.month ∧ date.month ≤ 12 ∧ 1 ≤ date.day ∧
        date.day ≤ monthLength date.year date.month := by
  unfold Day.check
  grind

end Lag.Calendar
