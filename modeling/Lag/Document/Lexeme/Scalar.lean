import Lag.Document.Lexeme.Name

/-!
# Scalars

A scalar stands between quotation marks, or without them, or in indented rows after a bar or an
angle bracket. A line end inside of the first two is folded: it becomes a space, and of several the
first is left out. After a bar line ends are kept; after an angle bracket they are folded between
rows that do not start with a blank.
-/
namespace Lag.Document.Scan

/-- What stands in a scalar for a line end and the line ends of empty lines after it. -/
def folded (lineEnd empty : List Char) : List Char :=
  (if lineEnd != ['\n'] then lineEnd else if empty.isEmpty then [' '] else []) ++ empty

/-! ## Scalars between quotation marks -/

/-- The characters that stand for others after a backslash. -/
def escapes : List (Char × Char) :=
  [('0', '\x00'), ('a', '\x07'), ('b', '\x08'), ('t', '\t'), ('\t', '\t'), ('n', '\n'),
    ('v', '\x0b'), ('f', '\x0c'), ('r', '\r'), ('e', '\x1b'), (' ', ' '), ('\x22', '\x22'),
    ('\\', '\\'), ('/', '/'), ('N', '\x85'), ('_', '\xa0'), ('L', '\u2028'), ('P', '\u2029')]

/-- The number of digits in the code of a character after a letter. -/
def codeWidths : List (Char × Nat) := [('x', 2), ('u', 4), ('U', 8)]

/-- The activity of reading a text between double quotes. -/
def doubleActivity : Activity := .scanning "a double-quoted scalar"

/-- The activity of reading a text between quotation marks. -/
def quotedActivity : Activity := .scanning "a quoted scalar"

/-- The character with a code. -/
def charOfCode (code : Nat) : Scan Char :=
  if code < 0x110000 then return Char.ofNat code else throw (.charCode code)

/-- The line ends of empty lines in a text between quotation marks, with the blanks around them. -/
def takeQuotedBreaks (start : Mark) : Nat → Scan (List Char)
  | 0 => return []
  | fuel + 1 => do
    if (← get).atSeparator then fail quotedActivity start .separator
    skipWhile fun c => c == ' ' || c == '\t'
    if !isBreak (← look) then return []
    return (← takeBreak) ++ (← takeQuotedBreaks start fuel)

/-- What stands after a backslash. -/
def takeEscape (start : Mark) : Scan (List Char) := do
  let found ← look
  if isBreak found then
    discard takeBreak
    takeQuotedBreaks start (← get).rest.length
  else
    match escapes.lookup found, codeWidths.lookup found with
    | some c, _ =>
      move 1
      return [c]
    | none, some width =>
      move 1
      let wanted := "escape sequence of " ++ toString width ++ " hexadecimal numbers"
      return [← charOfCode (← takeHex doubleActivity start wanted width)]
    | none, none => fail doubleActivity start (.unknownEscape found)

/-- The characters of a text between quotation marks up to a gap or its end. -/
def takeQuotedWord (quote : Char) (start : Mark) : Nat → Scan (List Char)
  | 0 => return []
  | fuel + 1 => do
    let cursor ← get
    let found := cursor.look
    if isGap found then return []
    if found == quote then
      if quote == Text.apostrophe && cursor.lookAt 1 == quote then
        move 2
        return quote :: (← takeQuotedWord quote start fuel)
      return []
    move 1
    if quote == Text.doubleQuote && found == '\\' then
      let chars ← takeEscape start
      return chars ++ (← takeQuotedWord quote start fuel)
    return found :: (← takeQuotedWord quote start fuel)

/-- A gap in a text between quotation marks. -/
def takeQuotedGap (start : Mark) : Scan (List Char) := do
  let blanks ← takeWhile fun c => c == ' ' || c == '\t'
  let found ← look
  if found == endChar then fail quotedActivity start .openText
  if isBreak found then
    let lineEnd ← takeBreak
    return folded lineEnd (← takeQuotedBreaks start (← get).rest.length)
  return blanks

/-- The rest of a text between quotation marks, up to the one that closes it. -/
def takeQuoted (quote : Char) (start : Mark) : Nat → Scan (List Char)
  | 0 => return []
  | fuel + 1 => do
    let word ← takeQuotedWord quote start (← get).rest.length
    if (← look) == quote then return word
    let gap ← takeQuotedGap start
    return word ++ gap ++ (← takeQuoted quote start fuel)

/-- A text between quotation marks. -/
def scanQuoted : Scan Lexeme := do
  let start ← here
  let quote ← look
  move 1
  let chars ← takeQuoted quote start ((← get).rest.length + 1)
  move 1
  return ⟨.scalar (String.ofList chars) false, start, ← here⟩

/-! ## Plain scalars -/

/-- The characters that mean something in brackets. -/
def brackets : List Char := [',', '[', ']', '\x7b', '\x7d']

/-- The characters after a cursor up to where a plain scalar stops or has a gap. -/
def plainRun (inBrackets : Bool) : List Char → List Char
  | [] => []
  | c :: rest =>
    let next := rest.head?.getD endChar
    if isGap c || (c == ':' && (isGap next || (inBrackets && brackets.contains next))) ||
        (inBrackets && (c == '?' || brackets.contains c)) then []
    else c :: plainRun inBrackets rest

/-- The line ends of empty lines in a plain scalar, with the spaces around them; none where a mark
between documents follows one. -/
def takePlainBreaks : Nat → Scan (Option (List Char))
  | 0 => return some []
  | fuel + 1 => do
    if (← get).atSeparator then return none
    skipSpaces
    if !isBreak (← look) then return some []
    let lineEnd ← takeBreak
    return (← takePlainBreaks fuel).map (lineEnd ++ ·)

/-- A gap in a plain scalar, and whether a line ends in it. There is none where the scalar stops. -/
def takePlainGap : Scan (List Char × Bool) := do
  let spaces ← takeWhile (· == ' ')
  if !isBreak (← look) then return (spaces, false)
  let lineEnd ← takeBreak
  match ← takePlainBreaks ((← get).rest.length + 1) with
  | some empty => return (folded lineEnd empty, true)
  | none => return ([], true)

/-- What a scan of a plain scalar has found. -/
structure PlainRun where
  /-- The characters. -/
  chars : List Char
  /-- Where the last of them ends. -/
  stop : Mark
  /-- Whether a line ends after it. -/
  endsLine : Bool

/-- The words of a plain scalar and the gaps between them, inside a block at a column. The first
argument after the fuel is what has been found before a gap. -/
def takePlain (inBrackets : Bool) (column : Int) : Nat → PlainRun → List Char → Scan PlainRun
  | 0, found, _ => return found
  | fuel + 1, found, gap => do
    let cursor ← get
    let word := plainRun inBrackets cursor.rest
    if cursor.look == '#' || word.isEmpty then return found
    move word.length
    let stop ← here
    let (next, isOver) ← takePlainGap
    let found : PlainRun := ⟨found.chars ++ gap ++ word, stop, isOver⟩
    let cursor ← get
    if next.isEmpty || cursor.look == '#' || (!inBrackets && cursor.column < column) then
      return found
    takePlain inBrackets column fuel found next

/-- A plain scalar inside a block at a column, and whether a line ends after it. -/
def scanPlain (inBrackets : Bool) (column : Int) : Scan (Lexeme × Bool) := do
  let start ← here
  let fuel := (← get).rest.length + 1
  let found ← takePlain inBrackets column fuel ⟨[], start, false⟩ []
  return (⟨.scalar (String.ofList found.chars) true, start, found.stop⟩, found.endsLine)

/-! ## Scalars in rows -/

/-- What is done with the line ends at the end of a scalar in rows. -/
inductive Chomp where
  /-- The first is kept. -/
  | clip
  /-- None is kept. -/
  | strip
  /-- All are kept. -/
  | keep
  deriving DecidableEq, Repr

/-- The activity of reading a scalar in rows. -/
def blockActivity : Activity := .scanning "a block scalar"

/-- The sign for the line ends at the end of a scalar. -/
def takeChomp? : Scan (Option Chomp) := do
  let found ← look
  let chomp? : Option Chomp := [('+', .keep), ('-', .strip)].lookup found
  if chomp?.isSome then move 1
  return chomp?

/-- The digit for the indentation of a scalar. -/
def takeIndent? (start : Mark) : Scan (Option Nat) := do
  let found ← look
  if !found.isDigit then return none
  if found == '0' then fail blockActivity start .zeroIndent
  move 1
  return some (found.toNat - 48)

/-- The signs between the bar and the end of its line. -/
def takeHeader (start : Mark) : Scan (Chomp × Option Nat) := do
  let before ← takeChomp?
  let indent ← takeIndent? start
  let after ← if before.isNone && indent.isSome then takeChomp? else pure none
  expect blockActivity start "chomping or indentation indicators" endsWord
  skipLine blockActivity start
  return ((before.or after).getD .clip, indent)

/-- The line ends before the first row of a scalar, the place after the last of them, and the
column of the row that is indented most. -/
def takeLeading : Nat → Mark → Nat → Scan (List Char × Mark × Nat)
  | 0, stop, most => return ([], stop, most)
  | fuel + 1, stop, most => do
    skipSpaces
    let most := max most (← get).column
    if !isBreak (← look) then return ([], stop, most)
    let lineEnd ← takeBreak
    let (more, stop, most) ← takeLeading fuel (← here) most
    return (lineEnd ++ more, stop, most)

/-- Move over spaces up to a column. -/
def skipTo (column : Nat) : Scan Unit := do
  let cursor ← get
  move (min (cursor.run (· == ' ')).length (column - cursor.column))

/-- The line ends of empty lines between the rows of a scalar at a column, and the place after the
last of them. -/
def takeRowBreaks (column : Nat) : Nat → Mark → Scan (List Char × Mark)
  | 0, stop => return ([], stop)
  | fuel + 1, stop => do
    skipTo column
    if !isBreak (← look) then return ([], stop)
    let lineEnd ← takeBreak
    let (more, stop) ← takeRowBreaks column fuel (← here)
    return (lineEnd ++ more, stop)

/-- Whether a row of a scalar stands at a column. -/
def atRow (column : Nat) : Scan Bool := do
  let cursor ← get
  return cursor.column == column && cursor.look != endChar

/-- Whether a character is a blank in a row. -/
def isRowBlank (c : Char) : Bool := c == ' ' || c == '\t'

/-- The rows of a scalar at a column, from the first on; `empty` are the line ends before it. The
result is the scalar without its end, the line end of the last row, those of the empty lines after
it, and the place after them. -/
def takeRows (isFolded : Bool) (column : Nat) :
    Nat → List Char → Mark → Scan (List Char × List Char × List Char × Mark)
  | 0, empty, stop => return ([], [], empty, stop)
  | fuel + 1, empty, _ => do
    let startsBlank := isRowBlank (← look)
    let row ← takeWhile fun c => !Document.endsLine c
    let lineEnd ← takeBreak
    let (next, stop) ← takeRowBreaks column (← get).rest.length.succ (← here)
    if !(← atRow column) then return (empty ++ row, lineEnd, next, stop)
    let joint :=
      if isFolded && lineEnd == ['\n'] && !startsBlank && !isRowBlank (← look) then
        (if next.isEmpty then [' '] else [])
      else lineEnd
    let (more, rest) ← takeRows isFolded column fuel next stop
    return (empty ++ row ++ joint ++ more, rest)

/-- A scalar in rows, inside a block at a column. -/
def scanBlock (isFolded : Bool) (parent : Int) : Scan Lexeme := do
  let start ← here
  move 1
  let (chomp, indent) ← takeHeader start
  let least := (max 1 (parent + 1)).toNat
  let fuel := (← get).rest.length + 1
  let (empty, stop, column) ← match indent with
    | some indent => do
      let column := least + indent - 1
      let (empty, stop) ← takeRowBreaks column fuel (← here)
      pure (empty, stop, column)
    | none => do
      let (empty, stop, most) ← takeLeading fuel (← here) 0
      pure (empty, stop, max least most)
  let (chars, lineEnd, after, stop) ←
    if ← atRow column then takeRows isFolded column fuel empty stop else pure ([], [], empty, stop)
  let tail := match chomp with
    | .clip => lineEnd
    | .strip => []
    | .keep => lineEnd ++ after
  return ⟨.scalar (String.ofList (chars ++ tail)) false, start, stop⟩

end Lag.Document.Scan
