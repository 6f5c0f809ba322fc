import Lag.Number.Places
import Lag.Run.Basic

/-!
# Texts that are filled in

A text may hold places, which a value fills in. A place starts with a percent sign and ends with a
letter that says how the value is written; between the two stand flags, the least width, the
precision after a point, and a letter of size, which says nothing. A star instead of the width or
the precision takes the value for it. There is one value, so at most one place can be filled in,
and one has to be. Two percent signs stand for one.
-/
namespace Lag.Run

/-- A place in a text. -/
structure Place where
  /-- Whether the value stands at the left of the place. -/
  left : Bool := false
  /-- Whether a number that is not negative is written with a sign. -/
  plus : Bool := false
  /-- Whether a number that is not negative is written with a blank. -/
  blank : Bool := false
  /-- Whether the other form of a number is written: an integer with its base, a float with a
  point. -/
  other : Bool := false
  /-- Whether a number is widened by zeros. -/
  zeros : Bool := false
  /-- The least width. -/
  width : Nat := 0
  /-- The precision. -/
  precision : Option Nat := none
  deriving DecidableEq, Repr, Inhabited

/-- What is left to be read of a place: the value, unless it is taken, and the characters. -/
structure Unread where
  /-- The value. -/
  value : Option Value
  /-- The characters. -/
  text : List Char

/-- Take a value. -/
def Unread.take (unread : Unread) : Outcome (Value × Unread) :=
  match unread.value with
  | some value => .ok (value, { unread with value := none })
  | none => .error (.fill .missing)

/-- Take an integer. -/
def Unread.takeInt (unread : Unread) : Outcome (Int × Unread) := do
  let (value, unread) ← unread.take
  match integer? value with
  | some number => .ok (number, unread)
  | none => .error (.fill .size)

/-- Add a flag to a place, if a character is one. -/
def Place.flag? (place : Place) : Char → Option Place
  | '-' => some { place with left := true }
  | '+' => some { place with plus := true }
  | ' ' => some { place with blank := true }
  | '#' => some { place with other := true }
  | '0' => some { place with zeros := true }
  | _ => none

/-- Read the flags of a place. -/
def Place.flags (place : Place) : List Char → Place × List Char
  | [] => (place, [])
  | c :: rest =>
    match place.flag? c with
    | some place => place.flags rest
    | none => (place, c :: rest)

/-- A number that digits write in ASCII. -/
def numberOf (digits : List Char) : Nat :=
  digits.foldl (fun number digit => 10 * number + (digit.toNat - 48)) 0

/-- The greatest width. -/
def widthLimit : Int := Int.pow 2 63 - 1

/-- The greatest precision. -/
def precisionLimit : Int := Int.pow 2 31 - 1

/-- The greatest precision of an integer. -/
def digitsLimit : Int := precisionLimit - 3

/-- Read the width of a place. A negative one means the left of the place. -/
def Place.readWidth (place : Place) (unread : Unread) : Outcome (Place × Unread) :=
  match unread.text with
  | '*' :: rest => do
    let (number, unread) ← ({ unread with text := rest } : Unread).takeInt
    if widthLimit < number ∨ number < -widthLimit - 1 then .error (.fill .givenWidth)
    else .ok ({ place with left := place.left || decide (number < 0), width := number.natAbs },
      unread)
  | text =>
    let width := numberOf (text.takeWhile Char.isDigit)
    if widthLimit < width then .error (.fill .width)
    else .ok ({ place with width := width }, { unread with text := text.dropWhile Char.isDigit })

/-- Read the precision of a place, if there is one. A negative one is zero. -/
def Place.readPrecision (place : Place) (unread : Unread) : Outcome (Place × Unread) :=
  match unread.text with
  | '.' :: '*' :: rest => do
    let (number, unread) ← ({ unread with text := rest } : Unread).takeInt
    if precisionLimit < number ∨ number < -precisionLimit - 1 then .error (.fill .givenPrecision)
    else .ok ({ place with precision := some number.toNat }, unread)
  | '.' :: text =>
    let precision := numberOf (text.takeWhile Char.isDigit)
    if precisionLimit < precision then .error (.fill .precision)
    else .ok ({ place with precision := some precision },
      { unread with text := text.dropWhile Char.isDigit })
  | _ => .ok (place, unread)

/-- Read a place up to its letter. -/
def Place.read (unread : Unread) : Outcome (Place × Char × Unread) := do
  let (place, text) := Place.flags {} unread.text
  let (place, unread) ← place.readWidth { unread with text := text }
  let (place, unread) ← place.readPrecision unread
  let text := match unread.text with
    | 'h' :: rest | 'l' :: rest | 'L' :: rest => rest
    | text => text
  match text with
  | letter :: rest => .ok (place, letter, { unread with text := rest })
  | [] => .error (.fill .incomplete)

/-- What fills in a place: a sign, what stands before the zeros that widen a number, and the
rest. -/
structure Filling where
  /-- Whether it is a number. -/
  isNumber : Bool
  /-- The sign of a number that has one. -/
  sign : Option Char
  /-- The mark of the base. -/
  base : List Char
  /-- The rest. -/
  body : List Char
  deriving DecidableEq, Repr

/-- A filling that is no number. -/
def Filling.plain (text : String) : Filling := ⟨false, none, [], text.toList⟩

/-- The sign of a number in a place. -/
def Place.sign (place : Place) (negative : Bool) : Option Char :=
  if negative then some '-'
  else if place.plus then some '+'
  else if place.blank then some ' '
  else none

/-- The characters that fill in a place. -/
def Place.lay (place : Place) (filling : Filling) : List Char :=
  let front := filling.sign.toList ++ filling.base
  let missing := place.width - (front.length + filling.body.length)
  if place.left then front ++ filling.body ++ List.replicate missing ' '
  else if filling.isNumber && place.zeros then
    front ++ List.replicate missing '0' ++ filling.body
  else List.replicate missing ' ' ++ front ++ filling.body

/-- The part of a text that a precision leaves. -/
def Place.cut (place : Place) (text : String) : Filling :=
  match place.precision with
  | some length => .plain (String.ofList (text.toList.take length))
  | none => .plain text

/-- The text of a value between quotation marks, if it is a text. -/
def quotedText : Value → Outcome String
  | .string text => .ok (Text.quoted text)
  | value => hostText value

/-- The filling of an integer with the digits of its size. -/
def Place.integer (place : Place) (base : List Char) (number : Int) (digits : List Char) :
    Outcome Filling :=
  let precision := place.precision.getD 0
  if digitsLimit < precision then .error (.fill .digits)
  else .ok ⟨true, place.sign (decide (number < 0)), if place.other then base else [],
    List.replicate (precision - digits.length) '0' ++ digits⟩

/-- The filling of an integer in decimal digits. -/
def Place.decimal (place : Place) (letter : Char) (value : Value) : Outcome Filling := do
  let number ← match numeric? value with
    | some (.int number) => .ok number
    | some (.float number) => wholeFloat number
    | none => .error (.fill (.real letter value))
  let digits ← hostText (.int number.natAbs)
  place.integer [] number digits.toList

/-- The filling of an integer in digits of another base, in small or in capital letters. -/
def Place.based (place : Place) (letter : Char) (value : Value) : Outcome Filling :=
  match integer? value with
  | none => .error (.fill (.integer letter value))
  | some number =>
    let digits := Nat.toDigits (if letter = 'o' then 8 else 16) number.natAbs
    place.integer ['0', letter] number (if letter = 'X' then digits.map Char.toUpper else digits)

/-- The text of a finite float of a size, as a letter in small type asks for it. -/
def finiteText (place : Place) (letter : Char) (significand : Nat) (exponent : Int) : String :=
  let number := significand * Nat.pow 2 exponent.toNat
  let divisor := Nat.pow 2 (-exponent).toNat
  let precision := place.precision.getD 6
  if letter = 'f' then (Number.fixed number divisor precision).toText place.other
  else if letter = 'e' then (Number.scientific number divisor precision).toText place.other
  else
    let written := Number.general number divisor (max precision 1)
    (if place.other then written else written.strip).toText place.other

/-- The filling of a float. A capital letter asks for capital letters. -/
def Place.real (place : Place) (letter : Char) (value : Value) : Outcome Filling :=
  match numeric? value with
  | none => .error (.real value)
  | some number => do
    let number ← number.toFloat
    let (negative, text) := match Number.partsOf number with
      | .nan => (false, "nan")
      | .infinite negative => (negative, "inf")
      | .finite negative significand exponent =>
        (negative, finiteText place letter.toLower significand exponent)
    .ok ⟨true, place.sign negative, [],
      if letter.isUpper then text.toList.map Char.toUpper else text.toList⟩

/-- The filling of a character. -/
def character (value : Value) : Outcome Filling :=
  match value, integer? value with
  | .string text, _ => if text.length = 1 then .ok (.plain text) else .error (.fill .character)
  | _, some number =>
    if number < 0 ∨ 0x110000 ≤ number then .error (.fill .codePoint)
    else .ok (.plain (Char.ofNat number.toNat).toString)
  | _, none => .error (.fill .character)

/-- The filling of a place that ends with a letter; the position is that of the letter. -/
def Place.filling (place : Place) (letter : Char) (position : Nat) (value : Value) :
    Outcome Filling :=
  match letter with
  | 's' => (hostText value).map place.cut
  | 'r' => (quotedText value).map place.cut
  | 'a' => (quotedText value).map (place.cut ∘ Text.toAscii)
  | 'd' | 'i' | 'u' => place.decimal letter value
  | 'o' | 'x' | 'X' => place.based letter value
  | 'e' | 'E' | 'f' | 'F' | 'g' | 'G' => place.real letter value
  | 'c' => character value
  | _ => .error (.fill (.letter letter position))

/-- Fill in a text that starts with a place, after its percent sign. The first argument is the
length of the whole text. -/
def fillPlace (length : Nat) (unread : Unread) : Outcome (List Char × Unread) := do
  let (place, letter, unread) ← Place.read unread
  let (value, unread) ← unread.take
  let filling ← place.filling letter (length - unread.text.length - 1) value
  if memoryLimit < place.width then .error .memory
  else .ok (place.lay filling, unread)

/-- Fill in the places of a text. The last argument bounds the number of steps; the length of the
text is enough. -/
def fillFrom (length : Nat) (unread : Unread) : Nat → Outcome (List Char)
  | 0 => if unread.value.isSome then .error (.fill .unused) else .ok []
  | steps + 1 =>
    match unread.text with
    | [] => if unread.value.isSome then .error (.fill .unused) else .ok []
    | '%' :: '%' :: rest =>
      (fillFrom length { unread with text := rest } steps).map ('%' :: ·)
    | '%' :: '(' :: _ => .error (.fill .mapping)
    | '%' :: rest => do
      let (filled, unread) ← fillPlace length { unread with text := rest }
      let others ← fillFrom length unread steps
      .ok (filled ++ others)
    | c :: rest => (fillFrom length { unread with text := rest } steps).map (c :: ·)

/-- Fill in the places of a text with a value. -/
def fill (text : String) (value : Value) : Outcome String :=
  let characters := text.toList
  (fillFrom characters.length ⟨some value, characters⟩ characters.length).map String.ofList

end Lag.Run
