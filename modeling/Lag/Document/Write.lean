import Lag.Document
import Lag.Document.Bytes
import Lag.Document.Pen
import Lag.Document.Tag

/-!
# Writing documents

A document is written in blocks: the entries of a mapping and the items of a list stand on rows of
their own, and empty ones in brackets. A key that is empty, has several lines, or is long stands
after a question mark, and its value in a row of its own after a colon.
-/
namespace Lag.Document

/-- A float as it is written: with a point before an exponent. -/
def floatWord (value : Float) : String :=
  if value.isNaN then ".nan"
  else if value == Number.infinity then ".inf"
  else if value == -Number.infinity then "-.inf"
  else
    let text := Number.floatText value
    if text.contains '.' then text else text.replace "e" ".0e"

/-- The tag and the word of a document that holds no others. -/
def word? : Document → Option (Tag × String)
  | .null => some (.null, "null")
  | .bool value => some (.bool, if value then "true" else "false")
  | .int value => some (.int, toString value)
  | .float value => some (.float, floatWord value)
  | .text value => some (.str, value)
  | .bytes value => some (.binary, String.ofList (letterRows (lettersOf value)))
  | .day value => some (.timestamp, value.written)
  | .moment value => some (.timestamp, value.written)
  | .list _ | .pair _ _ | .mapping _ | .set _ | .again _ => none

/-- A tag as it is written. -/
def tagSign (tag : Tag) : String := "!!" ++ tag.name

/-- The greatest length of a key with its tag that stands before its colon. -/
def keyLimit : Nat := 127

/-- Whether the key with a tag and a word stands before its colon. -/
def isShortKey (tag : Tag) (word : List Char) : Bool :=
  (tagSign tag).length + word.length ≤ keyLimit && !word.isEmpty && !isMultiline word

/-- Write a word with a tag. Bytes have their tag before them. -/
def putWord (isKey : Bool) (indent : Nat) (tag : Tag) (word : List Char) (pen : Pen) : Pen :=
  if tag = .binary then
    let pen := pen.sign (tagSign tag) true
    if word.isEmpty then pen.double indent true word
    else pen.rows indent ((word.splitOn '\n').dropLast)
  else
    let isItself := decide (Tag.ofScalar (String.ofList word) = tag)
    pen.styled (.ofText isKey isItself word) indent (!isKey) word

/-- The number of columns that a block is indented. -/
def indentWidth : Nat := 2

/-- Write the key of an entry and its colon. A key holds no other documents. -/
def putKey (indent : Nat) (key : Document) (pen : Pen) : Pen :=
  let pen := pen.startRow indent
  match word? key with
  | none => pen
  | some (tag, word) =>
    let chars := word.toList
    if isShortKey tag chars then
      (putWord true (indent + indentWidth) tag chars pen).sign ":" false
    else
      let pen := putWord false (indent + indentWidth) tag chars (pen.indentingSign "?")
      (pen.startRow indent).indentingSign ":"

mutual

/-- Write a document inside of a block at an indentation. The flag says that it is the key or the
value of an entry; the dashes of a list that starts in the row after the key are not indented. -/
def putDocument (inEntry : Bool) (indent : Nat) : Document → Pen → Pen
  | .list [], pen => (pen.sign "[" true).sign "]" false
  | .mapping [], pen => (pen.sign "\x7b" true).sign "\x7d" false
  | .set [], pen => ((pen.sign (tagSign .set) true).sign "\x7b" true).sign "\x7d" false
  | .list items, pen =>
    putItems (if inEntry && !pen.isIndented then indent else indent + indentWidth) items pen
  | .pair first second, pen =>
    let indent := if inEntry && !pen.isIndented then indent else indent + indentWidth
    let pen := putDocument false indent first ((pen.startRow indent).indentingSign "-")
    putDocument false indent second ((pen.startRow indent).indentingSign "-")
  | .mapping entries, pen => putEntries (indent + indentWidth) entries pen
  | .set items, pen => putMembers (indent + indentWidth) items (pen.sign (tagSign .set) true)
  | document, pen =>
    match word? document with
    | some (tag, word) => putWord false (indent + indentWidth) tag word.toList pen
    | none => pen

/-- Write the items of a list. -/
def putItems (indent : Nat) : List Document → Pen → Pen
  | [], pen => pen
  | item :: rest, pen =>
    putItems indent rest (putDocument false indent item ((pen.startRow indent).indentingSign "-"))

/-- Write the entries of a mapping. -/
def putEntries (indent : Nat) : List (Document × Document) → Pen → Pen
  | [], pen => pen
  | (key, value) :: rest, pen =>
    putEntries indent rest (putDocument true indent value (putKey indent key pen))

/-- Write the members of a set: as the keys of nothing. -/
def putMembers (indent : Nat) : List Document → Pen → Pen
  | [], pen => pen
  | item :: rest, pen =>
    putMembers indent rest
      (putWord false (indent + indentWidth) .null "null".toList (putKey indent item pen))

end

/-- The text of a mapping; none when it holds an integer that has too many digits. -/
def entriesText? (entries : List (Document × Document)) : Option String :=
  if (displayEntries? entries).isSome then
    some ((putEntries 0 entries {}).startRow 0).text
  else none

end Lag.Document
