import Lag.Calendar
import Lag.Number.Reading
import Lag.Number.Shortest
import Lag.Text.Quoted
import Lag.Text.Utf8

/-!
# Documents

A document is a value as it stands in a settings file: nothing, a truth value, a number, a text,
bytes, a day or moment, a list, a pair, a mapping, whose entries keep their order, or a set.
`display?` is how messages show a document. A value put into a mapping is found there
(`find?_putEntry`).
-/
namespace Lag

/-- A document. -/
inductive Document where
  /-- Nothing. -/
  | null
  /-- A truth value. -/
  | bool (value : Bool)
  /-- An integer. -/
  | int (value : Int)
  /-- A float. -/
  | float (value : Float)
  /-- A text. -/
  | text (value : String)
  /-- Bytes. -/
  | bytes (value : List UInt8)
  /-- A day. -/
  | day (value : Calendar.Day)
  /-- A moment. -/
  | moment (value : Calendar.Moment)
  /-- A list. -/
  | list (items : List Document)
  /-- A pair. -/
  | pair (first second : Document)
  /-- A mapping. -/
  | mapping (entries : List (Document × Document))
  /-- A set. -/
  | set (items : List Document)
  /-- The list or mapping that the document is a part of. -/
  | again (isList : Bool)
  deriving Repr, Inhabited

namespace Document

/-- Bytes as messages show them: as a quoted text in which only ASCII stands for itself. -/
def displayBytes (value : List UInt8) : String :=
  let chars := value.map fun byte => Char.ofNat byte.toNat
  let mark := Text.quotationMark chars
  String.ofList ('b' :: mark ::
    chars.flatMap (fun c => if c.toNat < 0x80 then Text.quotedChar mark c else Text.charCode c) ++
      [mark])

mutual

/-- A document as messages show it; none when it holds an integer that has too many digits. -/
def display? : Document → Option String
  | .null => some "None"
  | .bool true => some "True"
  | .bool false => some "False"
  | .int value => Number.intText? value
  | .float value => some (Number.floatText value)
  | .text value => some (Text.quoted value)
  | .bytes value => some (displayBytes value)
  | .day value => some value.display
  | .moment value => some value.display
  | .list items => (displayItems? items).map fun shown => "[" ++ ", ".intercalate shown ++ "]"
  | .pair first second => do
    let shown ← display? first
    return "(" ++ shown ++ ", " ++ (← display? second) ++ ")"
  | .mapping entries =>
    (displayEntries? entries).map fun shown => "\x7b" ++ ", ".intercalate shown ++ "\x7d"
  | .set [] => some "set()"
  | .set items =>
    (displayItems? items).map fun shown => "\x7b" ++ ", ".intercalate shown ++ "\x7d"
  | .again true => some "[...]"
  | .again false => some "\x7b...\x7d"

/-- The items of a list as messages show them. -/
def displayItems? : List Document → Option (List String)
  | [] => some []
  | item :: rest => do
    let shown ← display? item
    return shown :: (← displayItems? rest)

/-- The entries of a mapping as messages show them. -/
def displayEntries? : List (Document × Document) → Option (List String)
  | [] => some []
  | (key, value) :: rest => do
    let name ← display? key
    let shown ← display? value
    return (name ++ ": " ++ shown) :: (← displayEntries? rest)

end

/-- The name of the kind of a document. -/
def kindName : Document → String
  | .null => "NoneType"
  | .bool _ => "bool"
  | .int _ => "int"
  | .float _ => "float"
  | .text _ => "str"
  | .bytes _ => "bytes"
  | .day _ => "datetime.date"
  | .moment _ => "datetime.datetime"
  | .list _ | .again true => "list"
  | .pair _ _ => "tuple"
  | .mapping _ | .again false => "dict"
  | .set _ => "set"

/-- The last word of the name of the kind of a document. -/
def shortKindName : Document → String
  | .day _ => "date"
  | .moment _ => "datetime"
  | other => other.kindName

/-- Whether a document says nothing: nothing, no, zero, or empty. -/
def isEmpty : Document → Bool
  | .null => true
  | .bool value => !value
  | .int value => value == 0
  | .float value => value == 0.0
  | .text value => value == ""
  | .bytes value => value.isEmpty
  | .day _ | .moment _ | .pair _ _ | .again _ => false
  | .list items | .set items => items.isEmpty
  | .mapping entries => entries.isEmpty

/-- The text of a document that is a text. -/
def text? : Document → Option String
  | .text value => some value
  | _ => none

/-- The name of a file that a document gives: a text, or bytes of one. -/
def fileName? : Document → Option String
  | .text value => some value
  | .bytes value => some ((Text.decodeUtf8 ⟨value.toArray⟩).toOption.getD "")
  | _ => none

/-- The integer that a document stands for; a truth value stands for one or zero. -/
def integer? : Document → Option Int
  | .int value => some value
  | .bool value => some (if value then 1 else 0)
  | _ => none

/-- Whether two keys are the same number. A truth value is one or zero, and what is not a number is
the same as itself. -/
def sameNumber (first second : Document) : Bool :=
  match integer? first, integer? second with
  | some left, some right => left == right
  | some left, none =>
    match second with
    | .float right => Number.compareInt? left right == some .eq
    | _ => false
  | none, some right =>
    match first with
    | .float left => Number.compareInt? right left == some .eq
    | _ => false
  | none, none =>
    match first, second with
    | .float left, .float right => left == right || (left.isNaN && right.isNaN)
    | _, _ => false

/-- Whether two keys are the same key. -/
def sameKey : Document → Document → Bool
  | .text first, .text second => first == second
  | .null, .null => true
  | .bytes first, .bytes second => first == second
  | .day first, .day second => first == second
  | .moment first, .moment second => first == second
  | first, second => sameNumber first second

/-- Put an entry into a mapping. A key that is there keeps its place. -/
def putEntry (key value : Document) : List (Document × Document) → List (Document × Document)
  | [] => [(key, value)]
  | (other, old) :: rest =>
    if sameKey key other then (other, value) :: rest else (other, old) :: putEntry key value rest

/-- The entries of a mapping that is made of some in order, of which the last one of a key
counts. -/
def putAll (entries : List (Document × Document)) : List (Document × Document) :=
  entries.foldl (fun made (key, value) => putEntry key value made) []

/-- The value in a mapping under a text. -/
def find? (name : String) : List (Document × Document) → Option Document
  | [] => none
  | (key, value) :: rest => if sameKey (.text name) key then some value else find? name rest

/-- A text is the same key as itself. -/
theorem sameKey_text (name : String) : sameKey (.text name) (.text name) = true := by
  simp [sameKey]

/-- An entry that was put into a mapping is found there. -/
theorem find?_putEntry (name : String) (value : Document) (entries : List (Document × Document)) :
    find? name (putEntry (.text name) value entries) = some value := by
  induction entries with
  | nil => simp [putEntry, find?, sameKey_text]
  | cons entry rest ih =>
    obtain ⟨key, old⟩ := entry
    unfold putEntry
    split
    · rename_i same
      simp [find?, same]
    · rename_i different
      simp [find?, different, ih]

end Document

end Lag
