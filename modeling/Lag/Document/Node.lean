import Lag.Document.Lexeme.Scan
import Lag.Document.Tag

/-!
# Nodes

A node is a part of a text with its tag and its place: a scalar, a list or a mapping. The nodes are
read from the lexemes by recursive descent. A name that is given to a node stands for that node
wherever it is used after it, and inside of it for the node itself; a text holds one node at most.
-/
namespace Lag.Document

/-- A node. -/
inductive Node where
  /-- A scalar. -/
  | scalar (tag : Tag) (text : String) (start : Mark)
  /-- A list. -/
  | list (tag : Tag) (items : List Node) (start : Mark)
  /-- A mapping. -/
  | mapping (tag : Tag) (entries : List (Node × Node)) (start : Mark)
  /-- The list or mapping that the node is a part of. -/
  | again (isList : Bool) (start : Mark)
  deriving Repr, Inhabited

namespace Node

/-- The tag of a node. -/
def tag : Node → Tag
  | .scalar tag _ _ | .list tag _ _ | .mapping tag _ _ => tag
  | .again isList _ => if isList then .seq else .map

/-- The place where a node starts. -/
def start : Node → Mark
  | .scalar _ _ start | .list _ _ start | .mapping _ _ start | .again _ start => start

/-- A node with another tag. -/
def withTag (tag : Tag) : Node → Node
  | .scalar _ word start => .scalar tag word start
  | .list _ items start => .list tag items start
  | .mapping _ entries start => .mapping tag entries start
  | .again isList start => .again isList start

/-- How messages call the kind of a node. -/
def kindName : Node → String
  | .scalar _ _ _ => "scalar"
  | .list _ _ _ | .again true _ => "sequence"
  | .mapping _ _ _ | .again false _ => "mapping"

mutual

/-- The greatest number of nodes that lie in one another. -/
def depth : Node → Nat
  | .scalar _ _ _ | .again _ _ => 1
  | .list _ items _ => itemsDepth items + 1
  | .mapping _ entries _ => entriesDepth entries + 1

/-- The greatest depth of some nodes. -/
def itemsDepth : List Node → Nat
  | [] => 0
  | item :: rest => max item.depth (itemsDepth rest)

/-- The greatest depth of the nodes in some entries. -/
def entriesDepth : List (Node × Node) → Nat
  | [] => 0
  | (key, value) :: rest => max (max key.depth value.depth) (entriesDepth rest)

end

/-- Nothing, at a place. -/
def nothing (mark : Mark) : Node := .scalar .null "" mark

end Node

/-- The state of reading nodes. -/
structure Assembly where
  /-- The lexemes that are left. -/
  lexemes : Lexemes
  /-- What the handles of tags stand for. -/
  handles : List (String × String) := []
  /-- The names that have been given, with their nodes. -/
  names : List (String × Node) := []

/-- A part of the work of reading nodes. -/
abbrev Assemble := StateT Assembly (Except Fault)

namespace Assemble

/-- The fault at the end of lexemes that have no end, which those of a text have. -/
def endless : Fault := .problem none .openText default

/-- The next lexeme. -/
def peek : Assemble Lexeme := do
  let lexemes := (← get).lexemes
  match lexemes.list with
  | lexeme :: _ => return lexeme
  | [] => throw (lexemes.fault?.getD endless)

/-- What the next lexeme is. -/
def peekKind : Assemble Lexeme.Kind := return (← peek).kind

/-- Take the next lexeme. -/
def next : Assemble Lexeme := do
  let lexeme ← peek
  modify fun state =>
    { state with lexemes := { state.lexemes with list := state.lexemes.list.tail } }
  return lexeme

/-- Take the next lexeme if it is of a kind: whether it was. -/
def nextIf (kind : Lexeme.Kind) : Assemble Bool := do
  if (← peekKind) != kind then return false
  discard next
  return true

/-- Fail at a place. -/
def fail {α : Type} (activity : Activity) (start : Option Mark) (problem : Problem) (mark : Mark) :
    Assemble α :=
  throw (.problem (some ⟨activity, start⟩) problem mark)

/-! ## Names and tags -/

/-- The node that a name stands for. -/
def lookUp (name : String) (mark : Mark) : Assemble Node := do
  match (← get).names.lookup name with
  | none => throw (.problem none (.unknownName name) mark)
  | some node => return node

/-- Give a name to a node, which must not be that of another. -/
def announce (name : Option String) (node : Node) : Assemble Unit := do
  match name with
  | none => return
  | some name =>
    match (← get).names.lookup name with
    | some first => fail (.named name) (some first.start) .nameTwice node.start
    | none => modify fun state => { state with names := (name, node) :: state.names }

/-- Let a name stand for a node that has been read. -/
def settle (name : Option String) (node : Node) : Assemble Node := do
  match name with
  | none => return node
  | some name =>
    modify fun state => { state with names := (name, node) :: state.names }
    return node

/-- What stands before a node. -/
structure Properties where
  /-- The name that is given to it. -/
  name : Option String := none
  /-- Its tag, with the place of the tag. -/
  tag : Option (TagWord × Mark) := none
  /-- The place of the first of them. -/
  start : Option Mark := none

/-- Take what stands before a node: a name and a tag in any order, each once at most. -/
def takeProperties : Nat → Properties → Assemble Properties
  | 0, found => return found
  | fuel + 1, found => do
    let lexeme ← peek
    let start := found.start.getD lexeme.start
    match lexeme.kind, found.name, found.tag with
    | .anchor name, none, _ =>
      discard next
      takeProperties fuel ⟨some name, found.tag, some start⟩
    | .tag word, _, none =>
      discard next
      takeProperties fuel ⟨found.name, some (word, lexeme.start), some start⟩
    | _, _, _ => return found

/-- The text of the tag of a node, if it has one. -/
def tagText? (found : Properties) : Assemble (Option String) := do
  match found.tag with
  | none => return none
  | some (⟨none, suffix⟩, _) => return some suffix
  | some (⟨some handle, suffix⟩, mark) =>
    match (← get).handles.lookup handle with
    | some meaning => return some (meaning ++ suffix)
    | none => fail (.parsing "a node") found.start (.unknownHandle handle) mark

/-- The tag with a text; without one, or with a sign only, that of the kind of the node. -/
def tagOr (standard : Tag) : Option String → Tag
  | none | some "!" => standard
  | some given => Tag.ofText given

/-- The tag of a scalar. -/
def scalarTag (text : String) (isPlain : Bool) : Option String → Tag
  | none => if isPlain then Tag.ofScalar text else .str
  | some "!" => Tag.ofScalar text
  | some tag => Tag.ofText tag

/-! ## Nodes -/

mutual

/-- A node. Outside of brackets it may be a block; where `mayDash` is set, also a list whose dashes
are not indented. -/
def node : Nat → Bool → Bool → Assemble Node
  | 0, _, _ => throw endless
  | fuel + 1, isBlock, mayDash => do
    let first ← peek
    if let .alias name := first.kind then
      discard next
      return ← lookUp name first.start
    let found ← takeProperties 2 {}
    let tag ← tagText? found
    let lexeme ← peek
    let start := found.start.getD lexeme.start
    match lexeme.kind, isBlock, mayDash with
    | .dash, _, true =>
      announce found.name (.again true start)
      settle found.name (.list (tagOr .seq tag) (← dashItems fuel) start)
    | .scalar word isPlain, _, _ =>
      discard next
      let node := .scalar (scalarTag word isPlain tag) word start
      announce found.name node
      return node
    | .openBracket, _, _ =>
      announce found.name (.again true start)
      discard next
      settle found.name (.list (tagOr .seq tag) (← bracketItems fuel lexeme.start true) start)
    | .openBrace, _, _ =>
      announce found.name (.again false start)
      discard next
      settle found.name (.mapping (tagOr .map tag) (← braceEntries fuel lexeme.start true) start)
    | .listStart, true, _ =>
      announce found.name (.again true start)
      discard next
      settle found.name (.list (tagOr .seq tag) (← blockItems fuel lexeme.start) start)
    | .mappingStart, true, _ =>
      announce found.name (.again false start)
      discard next
      settle found.name (.mapping (tagOr .map tag) (← blockEntries fuel lexeme.start) start)
    | kind, _, _ =>
      if found.start.isNone then
        let what := if isBlock then "a block node" else "a flow node"
        fail (.parsing what) (some start) (.expectedPart "the node content" kind.name) lexeme.start
      let node := .scalar (scalarTag "" tag.isNone tag) "" start
      announce found.name node
      return node

/-- A node, or nothing where one of some lexemes follows. -/
def nodeUnless : Nat → Bool → Bool → List Lexeme.Kind → Mark → Assemble Node
  | 0, _, _, _, _ => throw endless
  | fuel + 1, isBlock, mayDash, stops, mark => do
    if stops.contains (← peekKind) then return .nothing mark
    node fuel isBlock mayDash

/-- The value after a key, or nothing where none follows. -/
def valueUnless : Nat → Bool → List Lexeme.Kind → Assemble Node
  | 0, _, _ => throw endless
  | fuel + 1, isBlock, stops => do
    let lexeme ← peek
    if ← nextIf .value then nodeUnless fuel isBlock isBlock stops lexeme.stop
    else return .nothing lexeme.start

/-- The items of a list whose dashes are not indented. -/
def dashItems : Nat → Assemble (List Node)
  | 0 => throw endless
  | fuel + 1 => do
    let lexeme ← peek
    if !(← nextIf .dash) then return []
    let item ← nodeUnless fuel true false [.dash, .key, .value, .blockEnd] lexeme.stop
    return item :: (← dashItems fuel)

/-- The items of a list in rows. -/
def blockItems : Nat → Mark → Assemble (List Node)
  | 0, _ => throw endless
  | fuel + 1, start => do
    let lexeme ← next
    match lexeme.kind with
    | .dash =>
      let item ← nodeUnless fuel true false [.dash, .blockEnd] lexeme.stop
      return item :: (← blockItems fuel start)
    | .blockEnd => return []
    | kind =>
      fail (.parsing "a block collection") (some start) (.expectedPart "<block end>" kind.name)
        lexeme.start

/-- The entries of a mapping in rows. -/
def blockEntries : Nat → Mark → Assemble (List (Node × Node))
  | 0, _ => throw endless
  | fuel + 1, start => do
    let lexeme ← next
    match lexeme.kind with
    | .key =>
      let stops := [.key, .value, .blockEnd]
      let key ← nodeUnless fuel true true stops lexeme.stop
      let value ← valueUnless fuel true stops
      return (key, value) :: (← blockEntries fuel start)
    | .blockEnd => return []
    | kind =>
      fail (.parsing "a block mapping") (some start) (.expectedPart "<block end>" kind.name)
        lexeme.start

/-- The items of a list in brackets. Before all but the first there is a comma. -/
def bracketItems : Nat → Mark → Bool → Assemble (List Node)
  | 0, _, _ => throw endless
  | fuel + 1, start, isFirst => do
    if ← nextIf .closeBracket then return []
    if !isFirst then
      let lexeme ← peek
      if !(← nextIf .comma) then
        fail (.parsing "a flow sequence") (some start)
          (.expectedNext "',' or ']'" lexeme.kind.name) lexeme.start
      if ← nextIf .closeBracket then return []
    let lexeme ← peek
    let item ←
      if ← nextIf .key then
        let stops := [.comma, .closeBracket]
        let key ← nodeUnless fuel false false (.value :: stops) lexeme.stop
        let value ← valueUnless fuel false stops
        pure (.mapping .map [(key, value)] lexeme.start)
      else node fuel false false
    return item :: (← bracketItems fuel start false)

/-- The entries of a mapping in braces. Before all but the first there is a comma. -/
def braceEntries : Nat → Mark → Bool → Assemble (List (Node × Node))
  | 0, _, _ => throw endless
  | fuel + 1, start, isFirst => do
    if ← nextIf .closeBrace then return []
    if !isFirst then
      let lexeme ← peek
      if !(← nextIf .comma) then
        fail (.parsing "a flow mapping") (some start)
          (.expectedNext "',' or '\x7d'" lexeme.kind.name) lexeme.start
      if ← nextIf .closeBrace then return []
    let lexeme ← peek
    let entry ←
      if ← nextIf .key then
        let stops := [.comma, .closeBrace]
        let key ← nodeUnless fuel false false (.value :: stops) lexeme.stop
        let value ← valueUnless fuel false stops
        pure (key, value)
      else
        let key ← node fuel false false
        pure (key, .nothing (← peek).start)
    return entry :: (← braceEntries fuel start false)

end

/-! ## Texts -/

/-- What the handles of tags stand for where nothing else is said. -/
def standardHandles : List (String × String) := [("!", "!"), ("!!", Tag.standard)]

/-- Take the lines before a document: what the handles stand for. -/
def takeDirectives :
    Nat → Bool → List (String × String) → Assemble (List (String × String))
  | 0, _, handles => return handles
  | fuel + 1, hasVersion, handles => do
    let lexeme ← peek
    let refuse (problem : Problem) : Assemble Unit := throw (.problem none problem lexeme.start)
    match lexeme.kind with
    | .directive value =>
      discard next
      match value with
      | .version major _ =>
        if hasVersion then refuse .versionTwice
        if major ≠ 1 then refuse .version
        takeDirectives fuel true handles
      | .handle handle meaning =>
        if (handles.lookup handle).isSome then refuse (.handleTwice handle)
        takeDirectives fuel hasVersion (handles ++ [(handle, meaning)])
      | .other => takeDirectives fuel hasVersion handles
    | _ => return handles

/-- Take the marks after a document. -/
def skipEnds : Nat → Assemble Unit
  | 0 => return
  | fuel + 1 => do
    if ← nextIf .documentEnd then skipEnds fuel

/-- Take all up to the node of a document that starts with a mark: its place, or none at the end of
the text. -/
def takeStart (fuel : Nat) : Assemble (Option Mark) := do
  skipEnds fuel
  let first ← peek
  if first.kind = .textEnd then return none
  let handles ← takeDirectives fuel false []
  let lexeme ← peek
  if !(← nextIf .documentStart) then
    throw (.problem none (.expectedPart "'<document start>'" lexeme.kind.name) lexeme.start)
  modify fun state => { state with handles := handles ++ standardHandles }
  return some first.start

/-- Whether a document may start without a mark at a lexeme. -/
def startsBare : Lexeme.Kind → Bool
  | .directive _ | .documentStart | .textEnd => false
  | _ => true

/-- Whether a document has no content at a lexeme. -/
def isOver : Lexeme.Kind → Bool
  | .directive _ | .documentStart | .documentEnd | .textEnd => true
  | _ => false

/-- The first document of a text, if there is one. -/
def firstNode (fuel : Nat) : Assemble (Option Node) := do
  if startsBare (← peekKind) then
    modify fun state => { state with handles := standardHandles }
    return some (← node fuel true false)
  match ← takeStart fuel with
  | none => return none
  | some _ =>
    let lexeme ← peek
    if isOver lexeme.kind then return some (.nothing lexeme.start)
    return some (← node fuel true false)

/-- The only document of a text, if there is one. -/
def onlyNode (fuel : Nat) : Assemble (Option Node) := do
  match ← firstNode fuel with
  | none => return none
  | some first =>
    discard (nextIf .documentEnd)
    match ← takeStart fuel with
    | none => return some first
    | some mark => fail .singleDocument (some first.start) .secondDocument mark

end Assemble

/-- The node in a text, if there is one. No part of a text takes more steps than three for each
lexeme. -/
def Node.ofText? (text : String) : Except Fault (Option Node) :=
  let lexemes := Lexemes.ofText text
  ((Assemble.onlyNode (3 * lexemes.list.length + 8)).run { lexemes }).map Prod.fst

end Lag.Document
