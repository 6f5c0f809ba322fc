import Lag.Document.Fault

/-!
# Cursors

A cursor stands in the text of a document and knows its place. The end of the text reads as the
character zero, which no document holds. A scan moves the cursor and fails with a fault at its
place.
-/
namespace Lag.Document

/-- A place in a text, with the text after it. -/
structure Cursor where
  /-- The text after the place. -/
  rest : List Char
  /-- The number of characters before it. -/
  index : Nat := 0
  /-- The number of lines before it. -/
  line : Nat := 0
  /-- The number of characters before it in its line. -/
  column : Nat := 0
  deriving DecidableEq, Repr, Inhabited

/-- The character that the end of a text reads as. -/
def endChar : Char := '\x00'

/-- The byte order mark. -/
def byteOrderMark : Char := '\ufeff'

/-- Whether a character ends a line. -/
def isBreak (c : Char) : Bool := c == '\n' || c == '\x85' || c == '\u2028' || c == '\u2029'

/-- Whether a line is over at a character. -/
def endsLine (c : Char) : Bool := c == endChar || isBreak c

/-- Whether a word is over at a character, and a tab does not go on it. -/
def endsWord (c : Char) : Bool := c == ' ' || endsLine c

/-- Whether a character is a blank or ends a line. -/
def isGap (c : Char) : Bool := c == '\t' || endsWord c

/-- Whether a character may stand in a name. -/
def isNameChar (c : Char) : Bool := c.isAlphanum || c == '-' || c == '_'

namespace Cursor

/-- The character after the cursor. -/
def look (cursor : Cursor) : Char := cursor.rest.head?.getD endChar

/-- The character some characters after the cursor. -/
def lookAt (cursor : Cursor) (offset : Nat) : Char := cursor.rest[offset]?.getD endChar

/-- The place of a cursor. -/
def mark (cursor : Cursor) : Mark := ⟨cursor.line, cursor.column⟩

/-- Move over a character. The byte order mark takes no column. -/
def step (cursor : Cursor) : Cursor :=
  match cursor.rest with
  | [] => cursor
  | c :: rest =>
    if isBreak c then ⟨rest, cursor.index + 1, cursor.line + 1, 0⟩
    else
      ⟨rest, cursor.index + 1, cursor.line,
        if c = byteOrderMark then cursor.column else cursor.column + 1⟩

/-- Move over some characters. -/
def move : Nat → Cursor → Cursor
  | 0, cursor => cursor
  | count + 1, cursor => move count cursor.step

/-- The characters after the cursor up to one of another kind. -/
def run (kind : Char → Bool) (cursor : Cursor) : List Char := cursor.rest.takeWhile kind

/-- Whether a mark between documents stands after the cursor. -/
def atSeparator (cursor : Cursor) : Bool :=
  let front := cursor.rest.take 3
  (front == ['-', '-', '-'] || front == ['.', '.', '.']) && isGap (cursor.lookAt 3)

/-- The number of characters after the cursor falls with every step inside the text. -/
theorem length_step (cursor : Cursor) (inside : cursor.rest ≠ []) :
    cursor.step.rest.length + 1 = cursor.rest.length := by
  unfold step
  split
  · contradiction
  · rename_i found
    split <;> simp [found]

end Cursor

/-- A part of the work of reading a text. -/
abbrev Scan := StateT Cursor (Except Fault)

namespace Scan

/-- The character after the cursor. -/
def look : Scan Char := return (← get).look

/-- The place of the cursor. -/
def here : Scan Mark := return (← get).mark

/-- Move over some characters. -/
def move (count : Nat) : Scan Unit := modify (Cursor.move count)

/-- Take the characters up to one of another kind. -/
def takeWhile (kind : Char → Bool) : Scan (List Char) := do
  let taken := (← get).run kind
  move taken.length
  return taken

/-- Move over characters of a kind. -/
def skipWhile (kind : Char → Bool) : Scan Unit := discard (takeWhile kind)

/-- Move over spaces. -/
def skipSpaces : Scan Unit := skipWhile (· == ' ')

/-- Fail with a problem at the cursor. -/
def fail {α : Type} (activity : Activity) (start : Mark) (problem : Problem) : Scan α := do
  throw (.problem (some ⟨activity, some start⟩) problem (← here))

/-- Fail unless the character after the cursor is of a kind. -/
def expect (activity : Activity) (start : Mark) (wanted : String) (kind : Char → Bool) :
    Scan Unit := do
  let found ← look
  if !kind found then fail activity start (.expected wanted found)

/-- Move over the end of a line: what a text has in its place. -/
def takeBreak : Scan (List Char) := do
  let found ← look
  if !isBreak found then return []
  move 1
  return [if found == '\x85' then '\n' else found]

/-- Move over the rest of a line that says nothing, and its end. -/
def skipLine (activity : Activity) (start : Mark) : Scan Unit := do
  skipSpaces
  if (← look) == '#' then skipWhile fun c => !endsLine c
  expect activity start "a comment or a line break" endsLine
  discard takeBreak

end Scan

end Lag.Document
