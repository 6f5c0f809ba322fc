import Lag.Document
import Lag.Document.Bytes
import Lag.Document.Node
import Lag.Text.Case

/-!
# The document of a node

A node stands for the document that its tag says. Nodes are looked at in rounds: first the outermost
one, then what is in it, and so on; scalars are read in the round in which they are met, and of the
faults of a round the first in the text counts. The entries of the mappings under the key for
merging come before those of a mapping itself, so its own take precedence.
-/
namespace Lag.Document

/-! ## Scalars -/

/-- A text without the line end after it. -/
def dropLineEnd (chars : List Char) : List Char :=
  if chars.getLast? = some '\n' then chars.dropLast else chars

/-- A number read by the rules for its text. -/
def ofNumber {α : Type} (read : Except Number.ReadFault α) : Except Fault α :=
  match read with
  | .ok value => .ok value
  | .error fault => .error (.number fault)

/-- The sign of a number and what follows it; underscores are left out. -/
def signedBody (text : String) : Except Fault (Bool × String) :=
  let (negative, body) := Number.takeSign (text.toList.filter (· != '_'))
  if text.toList.all (· == '_') then .error .noNumber
  else .ok (negative, String.ofList body)

/-- The parts of a text between colons. -/
def colonParts (text : String) : List String := (text.toList.splitOn ':').map String.ofList

/-- The integer without a sign that a text writes. -/
def readSize (text : String) : Except Fault Int :=
  match text.toList with
  | [] => .error .noNumber
  | ['0'] => .ok 0
  | '0' :: 'b' :: digits => ofNumber (Number.readIntIn 2 (String.ofList digits))
  | '0' :: 'x' :: digits => ofNumber (Number.readIntIn 16 (String.ofList digits))
  | '0' :: _ => ofNumber (Number.readIntIn 8 text)
  | _ => do
    let parts ← (colonParts text).mapM fun part => ofNumber (Number.readInt part)
    return parts.foldl (fun number part => number * 60 + part) 0

/-- The integer that a text writes. -/
def readInteger (text : String) : Except Fault Int := do
  let (negative, body) ← signedBody text
  let size ← readSize body
  return if negative then -size else size

/-- The sum of the parts of a float in base sixty, from the last on. -/
def sumSixtieths (parts : List Float) : Float :=
  let add (sum : Float × Int) (part : Float) : Float × Int :=
    (sum.1 + part * (Number.ofInt? sum.2).getD Number.infinity, sum.2 * 60)
  (parts.reverse.foldl add (0.0, 1)).1

/-- The float that a text writes. -/
def readFloat (text : String) : Except Fault Float := do
  let (negative, body) ← signedBody (Text.lowerText text)
  let signed (size : Float) : Float := if negative then -size else size
  if body = ".inf" then return signed Number.infinity
  if body = ".nan" then return 0.0 / 0.0
  match colonParts body with
  | [part] => return signed (← ofNumber (Number.readFloat part))
  | parts =>
    let parts ← parts.mapM fun part => ofNumber (Number.readFloat part)
    return signed (sumSixtieths parts)

/-- The truth value that a text writes, in any case. -/
def readFlag (text : String) : Except Fault Bool :=
  let word := Text.lowerText text
  if trueWords.contains word then .ok true
  else if falseWords.contains word then .ok false
  else .error (.noFlag word)

/-- The day or moment that a text writes. -/
def readTime (text : String) : Except Fault Document :=
  match Calendar.Stamp.ofChars? (dropLineEnd text.toList) with
  | none => .error .noTime
  | some (.day given _) =>
    match given.check with
    | .ok value => .ok (.day value)
    | .error fault => .error (.time fault)
  | some (.moment given) =>
    match given.check with
    | .ok value => .ok (.moment value)
    | .error fault => .error (.time fault)

/-- The document of a scalar with a tag, at a place. -/
def ofScalar (tag : Tag) (text : String) (mark : Mark) : Except Fault Document :=
  match tag with
  | .null => .ok .null
  | .bool => (readFlag text).map .bool
  | .int => (readInteger text).map .int
  | .float => (readFloat text).map .float
  | .binary =>
    match bytesOfText text with
    | .ok value => .ok (.bytes value)
    | .error fault => .error (.problem none (.bytes fault) mark)
  | .timestamp => readTime text
  | _ => .ok (.text text)

namespace Node

/-- The fault of a node that is not of the kind that its tag wants. -/
def wrongKind (wanted : String) (node : Node) : Fault :=
  .problem none (.expectedNode wanted node.kindName) node.start

mutual

/-- The text of a node. A mapping with a key for its value has the text of that. -/
def text : Node → Except Fault String
  | .scalar _ word _ => .ok word
  | .list tag items start => .error (wrongKind "a scalar node" (.list tag items start))
  | .mapping _ entries start => entriesText entries start
  | .again isList start => .error (wrongKind "a scalar node" (.again isList start))

/-- The text of the first value in some entries whose key is the one for it. -/
def entriesText : List (Node × Node) → Mark → Except Fault String
  | [], start => .error (wrongKind "a scalar node" (.mapping .map [] start))
  | (key, value) :: rest, start =>
    if key.tag = .value then value.text else entriesText rest start

end

/-! ## Merging -/

/-- A problem at a place in something that starts at another. -/
def inside (what : String) (start : Mark) (problem : Problem) (mark : Mark) : Fault :=
  .problem (some ⟨.constructing what, some start⟩) problem mark

/-- The fault of a node that cannot be merged into a mapping that starts at a place. -/
def noMerge (start : Mark) (wanted : String) (node : Node) : Fault :=
  inside "a mapping" start (.expectedNode wanted node.kindName) node.start

/-- The entries of a mapping, after those that are merged into it. The key for the value is a text
among them. -/
def entriesOf : Nat → List (Node × Node) → Mark → Except Fault (List (Node × Node))
  | 0, entries, _ => .ok entries
  | fuel + 1, entries, start => do
    let merged ← (entries.filter fun (key, _) => key.tag == .merge).mapM fun (_, value) =>
      match value with
      | .mapping _ inner mark => entriesOf fuel inner mark
      | .again false _ => return []
      | .list _ items _ => do
        let parts ← items.mapM fun item =>
          match item with
          | .mapping _ inner mark => entriesOf fuel inner mark
          | .again false _ => return []
          | other => throw (noMerge start "a mapping for merging" other)
        return parts.reverse.flatten
      | other => throw (noMerge start "a mapping or list of mappings for merging" other)
    let own := (entries.filter fun (key, _) => key.tag != .merge).map fun (key, value) =>
      (if key.tag = .value then key.withTag .str else key, value)
    return merged.flatten ++ own

end Node

/-! ## Rounds -/

/-- A document in the making, with the first fault of each round, if there is one. -/
structure Draft where
  /-- The document; without meaning where there is a fault. -/
  document : Document
  /-- The faults by rounds. -/
  faults : List (Option Fault)

/-- The first faults of each round of two parts of a text in order. -/
def joinRounds : List (Option Fault) → List (Option Fault) → List (Option Fault)
  | [], later => later
  | earlier, [] => earlier
  | first :: earlier, second :: later => first.or second :: joinRounds earlier later

namespace Draft

/-- What is known at once. -/
def now : Except Fault Document → Draft
  | .ok document => ⟨document, []⟩
  | .error fault => ⟨.null, [some fault]⟩

/-- What is known one round after. -/
def later (draft : Draft) : Draft := ⟨draft.document, none :: draft.faults⟩

/-- A document made of parts in order. -/
def combine (build : List Document → Document) (parts : List Draft) : Draft :=
  ⟨build (parts.map Draft.document),
    parts.foldl (fun faults part => joinRounds faults part.faults) []⟩

/-- The document, or the first fault of the first round that has one. -/
def toExcept (draft : Draft) : Except Fault Document :=
  match draft.faults.findSome? id with
  | some fault => .error fault
  | none => .ok draft.document

end Draft

/-- The entries in a list of keys and values by turns. -/
def byTurns : List Document → List (Document × Document)
  | key :: value :: rest => (key, value) :: byTurns rest
  | _ => []

namespace Node

/-- Whether the documents with a tag hold others. -/
def holdsOthers (tag : Tag) : Bool := [.seq, .map, .set, .omap, .pairs].contains tag

/-- What is known of the key of a mapping that starts at a place: what holds others is none. -/
def keyDraft (part : Node → Draft) (start : Mark) (key : Node) : Draft :=
  if holdsOthers key.tag then .now (.error (inside "a mapping" start .badKey key.start))
  else part key

/-- A mapping, by what is known of its parts. -/
def mappingDraft (part : Node → Draft) (build : List (Document × Document) → Document)
    (fuel : Nat) : Node → Draft
  | .mapping _ entries start =>
    match entriesOf fuel entries start with
    | .error fault => .now (.error fault)
    | .ok entries =>
      .combine (fun documents => build (putAll (byTurns documents)))
        (entries.flatMap fun (key, value) =>
          [keyDraft part start key, part value])
  | .again false _ => .now (.ok (.again false))
  | other => .now (.error (wrongKind "a mapping node" other))

/-- A pair in a list of pairs that is called `what` and starts at a place. -/
def pairDraft (part : Node → Draft) (what : String) (start : Mark) (item : Node) : Draft :=
  let refuse (problem : Problem) : Draft := .now (.error (inside what start problem item.start))
  match item with
  | .mapping _ [(key, value)] _ =>
    .combine (fun documents =>
      match documents with
      | [first, second] => .pair first second
      | _ => .null) [part key, part value]
  | .mapping _ entries _ => refuse (.expectedEntry entries.length)
  | other => refuse (.expectedNode "a mapping of length 1" other.kindName)

/-- A list of pairs. -/
def pairsDraft (part : Node → Draft) (what : String) : Node → Draft
  | .list _ items start => .combine .list (items.map (pairDraft part what start))
  | other =>
    .now (.error (inside what other.start (.expectedNode "a sequence" other.kindName) other.start))

/-- What is known of the document of a node. -/
def draft : Nat → Node → Draft
  | 0, _ => .now (.ok .null)
  | fuel + 1, node =>
    let part := draft fuel
    match node.tag with
    | .seq =>
      .later (match node with
        | .list _ items _ => .combine .list (items.map part)
        | .again true _ => .now (.ok (.again true))
        | other => .now (.error (wrongKind "a sequence node" other)))
    | .map => .later (mappingDraft part .mapping fuel node)
    | .set => .later (mappingDraft part (fun entries => .set (entries.map Prod.fst)) fuel node)
    | .omap => .later (pairsDraft part "an ordered map" node)
    | .pairs => .later (pairsDraft part "pairs" node)
    | .merge | .value | .other _ =>
      .now (.error (.problem none (.unknownTag node.tag.toText) node.start))
    | tag =>
      .now (do
        let text ← node.text
        ofScalar tag text node.start)

/-- The document of a node. -/
def document (node : Node) : Except Fault Document := (draft (node.depth + 1) node).toExcept

end Node

/-! ## Documents

A text is read in three steps: into lexemes, into nodes, and into a document. Before that, all its
characters are looked at: control characters are not allowed, and neither are the two code points
that are no characters. -/

/-- Whether a character may stand in the text of a document. -/
def isAllowed (c : Char) : Bool :=
  let code := c.toNat
  c == '\t' || c == '\n' || c == '\r' || (0x20 ≤ code && code ≤ 0x7E) || code == 0x85 ||
    (0xA0 ≤ code && code ≤ 0xFFFD) || 0x10000 ≤ code

/-- The first character of a text that is not allowed, as a fault. -/
def characterFault? (text : String) : Option Fault :=
  let chars := text.toList
  let before := chars.takeWhile isAllowed
  (chars.drop before.length).head?.map fun found => .character found before.length

/-- Read a document. A text that says nothing is an empty document. -/
def ofText (text : String) : Except Fault Document :=
  match characterFault? text with
  | some fault => .error fault
  | none => do
    match ← Node.ofText? text with
    | some node => node.document
    | none => return .null

/-- A text has a character fault exactly where not all its characters are allowed. -/
theorem characterFault?_eq_none_iff (text : String) :
    characterFault? text = none ↔ text.toList.all isAllowed = true := by
  unfold characterFault?
  generalize text.toList = chars
  induction chars with
  | nil => simp
  | cons c rest ih =>
    by_cases allowed : isAllowed c = true
    · simpa [allowed] using ih
    · simp [allowed]

end Lag.Document
