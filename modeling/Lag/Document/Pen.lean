import Lag.Document.Lexeme.Scalar

/-!
# Pens

A pen writes text in rows and knows its column. Rows end at 80 columns, at the first single space
after that, in a scalar that may be folded. A text stands without quotation marks where nothing in
it looks like a sign, else between apostrophes, and between double quotes when it has a character
that needs a code, or a space next to a line end.
-/
namespace Lag.Document

/-- A pen. -/
structure Pen where
  /-- The text so far. -/
  text : String := ""
  /-- The number of characters in the row so far. -/
  column : Nat := 0
  /-- Whether the last character is a blank that keeps signs apart. -/
  isSpaced : Bool := true
  /-- Whether the row so far has nothing but indentation and signs that indent. -/
  isIndented : Bool := true
  deriving Repr, Inhabited

/-- The column after which rows are folded. -/
def foldColumn : Nat := 80

namespace Pen

/-- Write characters. -/
def put (chars : List Char) (pen : Pen) : Pen :=
  { pen with text := pen.text ++ String.ofList chars, column := pen.column + chars.length }

/-- Write a sign after a space, where it needs one and there is none. -/
def sign (word : String) (needsSpace : Bool) (pen : Pen) : Pen :=
  let pen := pen.put ((if needsSpace && !pen.isSpaced then [' '] else []) ++ word.toList)
  { pen with isSpaced := false, isIndented := false }

/-- Write a sign that indents what follows it in the row. -/
def indentingSign (word : String) (pen : Pen) : Pen :=
  { pen.sign word true with isIndented := pen.isIndented }

/-- End the row. -/
def endRow (pen : Pen) : Pen := ⟨pen.text ++ "\n", 0, true, true⟩

/-- Go to an indentation, in a new row if this one says something already. -/
def startRow (indent : Nat) (pen : Pen) : Pen :=
  let isUsed := !pen.isIndented || indent < pen.column || (pen.column == indent && !pen.isSpaced)
  let pen := if isUsed then pen.endRow else pen
  if pen.column < indent then
    { pen.put (List.replicate (indent - pen.column) ' ') with isSpaced := true }
  else pen

/-- Go on in a new row inside of a scalar. -/
def foldRow (indent : Nat) (pen : Pen) : Pen :=
  { pen.startRow indent with isSpaced := false, isIndented := false }

/-- The column after a character is written. -/
theorem column_put (chars : List Char) (pen : Pen) :
    (pen.put chars).column = pen.column + chars.length := rfl

end Pen

/-! ## How a text is written -/

/-- Whether a text has several lines. -/
def isMultiline (text : List Char) : Bool := text.any isBreak

/-- Whether a character needs a code. -/
def needsCode (c : Char) : Bool := c != '\n' && (c.toNat < 0x20 || 0x7E < c.toNat)

/-- Whether a space stands next to a line end. -/
def hasSpacedBreak : List Char → Bool
  | first :: second :: rest =>
    (first == ' ' && isBreak second) || (isBreak first && second == ' ') ||
      hasSpacedBreak (second :: rest)
  | _ => false

/-- Whether a text may stand between apostrophes. -/
def allowsSingle (text : List Char) : Bool := !text.any needsCode && !hasSpacedBreak text

/-- Whether a character is over at the front of a text. -/
def isApart (rest : List Char) : Bool := isGap (rest.head?.getD endChar)

/-- Whether a text after a character has a colon before a gap, or a number sign after one. -/
def hasInnerSign : Char → List Char → Bool
  | _, [] => false
  | before, c :: rest =>
    (c == ':' && isApart rest) || (c == '#' && isGap before) || hasInnerSign c rest

/-- The characters that are signs at the front of a scalar, whatever follows. -/
def frontSigns : List Char :=
  ['#', ',', '[', ']', '\x7b', '\x7d', '&', '*', '!', '|', '>', '\x27', '\x22', '%', '@', '\x60']

/-- Whether a text looks like a sign or has one in it. -/
def hasSign : List Char → Bool
  | [] => false
  | c :: rest =>
    let front := (c :: rest).take 3
    front == ['-', '-', '-'] || front == ['.', '.', '.'] || frontSigns.contains c ||
      ((c == '?' || c == ':' || c == '-') && isApart rest) || hasInnerSign c rest

/-- Whether a text may stand without quotation marks. -/
def allowsBare (text : List Char) : Bool :=
  text.head? != some ' ' && text.getLast? != some ' ' && !isMultiline text && allowsSingle text &&
    !hasSign text

/-- How a text is written. -/
inductive Style where
  /-- Without quotation marks. -/
  | bare
  /-- Between apostrophes. -/
  | single
  /-- Between double quotes. -/
  | double
  deriving DecidableEq, Repr

/-- How a text is written. The flags say that it is a key in one row, and that without quotation
marks it would be read as what it is. -/
def Style.ofText (isKey isItself : Bool) (text : List Char) : Style :=
  if isItself && !(isKey && (text.isEmpty || isMultiline text)) && allowsBare text then .bare
  else if allowsSingle text && !(isKey && isMultiline text) then .single
  else .double

/-! ## Scalars -/

/-- Whether two characters go together in a run of spaces, of line ends, or of others. -/
def sameRun (first second : Char) : Bool :=
  (first == ' ') == (second == ' ') && (first == '\n') == (second == '\n')

namespace Pen

/-- Write a run of a scalar. The flag says that a single space may be written as a new row. -/
def putRun (indent : Nat) (mayFold : Bool) (run : List Char) (pen : Pen) : Pen :=
  if run == [' '] && mayFold && foldColumn < pen.column then pen.foldRow indent
  else if run.head? == some '\n' then
    (run.foldl (fun pen _ => pen.endRow) pen.endRow).startRow indent
  else pen.put run

/-- Write the runs of a scalar. The first and the last are not folded where `isClosed` is set. -/
def putRuns (indent : Nat) (mayFold isClosed : Bool) (runs : List (List Char)) (pen : Pen) : Pen :=
  runs.zipIdx.foldl (fun pen (run, index) =>
    let isInner := !isClosed || (index != 0 && index + 1 != runs.length)
    pen.putRun indent (mayFold && isInner) run) pen

/-- Write a text without quotation marks. -/
def bare (indent : Nat) (mayFold : Bool) (text : List Char) (pen : Pen) : Pen :=
  let pen := if pen.isSpaced then pen else pen.put [' ']
  { pen with isSpaced := false, isIndented := false }.putRuns indent mayFold false
    (text.splitBy sameRun)

/-- A text in which apostrophes are written twice. -/
def doubled (text : List Char) : List Char :=
  text.flatMap fun c => if c = Text.apostrophe then [c, c] else [c]

/-- Write a text between apostrophes. -/
def single (indent : Nat) (mayFold : Bool) (text : List Char) (pen : Pen) : Pen :=
  ((pen.sign "\x27" true).putRuns indent mayFold true ((text.splitBy sameRun).map doubled)).sign
    "\x27" false

/-- The letters for characters after a backslash that are written. A space, a slash and a tab may be
read as such after one. -/
def writtenEscapes : List (Char × Char) :=
  Scan.escapes.filter fun (letter, _) => !([' ', '/', '\t'].contains letter)

/-- The code of a character between double quotes, if it needs one there. -/
def code? (c : Char) : Option (List Char) :=
  match writtenEscapes.find? fun (_, coded) => coded == c with
  | some (letter, _) => some ['\\', letter]
  | none =>
    if !needsCode c then none
    else
      let (mark, width) :=
        if c.toNat < 0x100 then ('x', 2) else if c.toNat < 0x10000 then ('u', 4) else ('U', 8)
      some ('\\' :: mark :: (Text.hexDigits width c.toNat).map Char.toUpper)

/-- Break a row between double quotes after a backslash. A space at the front of the next row needs
one more. -/
def breakRow (indent : Nat) (next : Option Char) (pen : Pen) : Pen :=
  let pen := (pen.put ['\\']).foldRow indent
  if next = some ' ' then pen.put ['\\'] else pen

/-- Write the rest of a text between double quotes. The characters that wait have been read but not
written; a row is broken only inside of the text. -/
def putCoded (indent : Nat) (mayFold isFirst : Bool) (waiting : List Char) :
    List Char → Pen → Pen
  | [], pen => pen.put waiting
  | c :: rest, pen =>
    let mayBreak := mayFold && !isFirst && !rest.isEmpty
    match code? c with
    | some code =>
      let pen := (pen.put waiting).put code
      let pen :=
        if mayBreak && foldColumn < pen.column - 1 then pen.breakRow indent rest.head? else pen
      putCoded indent mayFold false [] rest pen
    | none =>
      if mayBreak && (c == ' ' || waiting.isEmpty) &&
          foldColumn < pen.column + waiting.length then
        putCoded indent mayFold false [c] rest ((pen.put waiting).breakRow indent (some c))
      else putCoded indent mayFold false (waiting ++ [c]) rest pen

/-- Write a text between double quotes. -/
def double (indent : Nat) (mayFold : Bool) (text : List Char) (pen : Pen) : Pen :=
  ((pen.sign "\x22" true).putCoded indent mayFold true [] text).sign "\x22" false

/-- Write rows that each end in a line feed, after a bar. -/
def rows (indent : Nat) (rows : List (List Char)) (pen : Pen) : Pen :=
  rows.foldl (fun pen row => ((pen.startRow indent).put row).endRow) (pen.sign "|" true).endRow

/-- Write a text in a style. -/
def styled (style : Style) (indent : Nat) (mayFold : Bool) (text : List Char) (pen : Pen) : Pen :=
  match style with
  | .bare => pen.bare indent mayFold text
  | .single => pen.single indent mayFold text
  | .double => pen.double indent mayFold text

end Pen

end Lag.Document
