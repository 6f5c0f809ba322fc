import Lag.Document.Lexeme.Scalar

/-!
# From text to lexemes

The lexemes of a text are scanned one after another. The indentation of the lines opens and closes
blocks. Whether a scalar is a key is known only at the colon after it: a lexeme that may be one is
held back, together with all after it, until a colon follows, its line ends, or 1024 characters have
passed; at the colon the start of a key is put in front of it. A text with a fault gives the lexemes
that could be let go before.
-/
namespace Lag.Document

/-- A lexeme that may be the start of a key. -/
structure KeyStart where
  /-- The number of lexemes before it. -/
  number : Nat
  /-- Whether nothing but a key may stand there. -/
  isRequired : Bool
  /-- The number of characters before it. -/
  index : Nat
  /-- Its place. -/
  mark : Mark
  deriving DecidableEq, Repr

/-- The state of a scan. -/
structure Scanner where
  /-- The place in the text. -/
  cursor : Cursor
  /-- The number of open brackets. -/
  depth : Nat := 0
  /-- The column of the innermost block, below zero outside of all. -/
  indent : Int := -1
  /-- The columns of the blocks around it. -/
  outer : List Int := []
  /-- Whether a key may start here. -/
  keyAllowed : Bool := true
  /-- The lexemes that may be keys, by the number of open brackets around them. -/
  keys : List (Nat × KeyStart) := []
  /-- The number of lexemes that have been let go. -/
  released : Nat := 0
  /-- The lexemes that are held back. -/
  held : List Lexeme := []
  deriving Inhabited

/-- A part of the scan of a text. -/
abbrev Scanning := StateT Scanner (Except Fault)

namespace Scanning

/-- Scan with the cursor. -/
def scan {α : Type} (part : Scan α) : Scanning α := do
  let (result, cursor) ← part.run (← get).cursor
  modify fun state => { state with cursor }
  return result

/-- The place of the cursor. -/
def here : Scanning Mark := scan Scan.here

/-- Add a lexeme. -/
def put (lexeme : Lexeme) : Scanning Unit :=
  modify fun state => { state with held := state.held ++ [lexeme] }

/-- Add a lexeme without characters at the cursor. -/
def putHere (kind : Lexeme.Kind) : Scanning Unit := do
  let mark ← here
  put ⟨kind, mark, mark⟩

/-- Add a lexeme of some characters. -/
def putSign (kind : Lexeme.Kind) (length : Nat) : Scanning Unit := do
  let start ← here
  scan (Scan.move length)
  put ⟨kind, start, ← here⟩

/-- Say whether a key may start here. -/
def allowKey (isAllowed : Bool) : Scanning Unit :=
  modify fun state => { state with keyAllowed := isAllowed }

/-- Fail at the cursor because something may not stand there. -/
def refuse {α : Type} (what : String) : Scanning α := do
  throw (.problem none (.notAllowed what) (← here))

/-! ## Keys -/

/-- Fail because a key that is required has no colon. -/
def checkDropped (key : KeyStart) : Scanning Unit := do
  if key.isRequired then
    throw (.problem (some ⟨.scanning "a simple key", some key.mark⟩) .noColon (← here))

/-- Forget the lexemes that are too far back to be keys. -/
def dropOldKeys : Scanning Unit := do
  let state ← get
  let isOld (key : KeyStart) : Bool :=
    key.mark.line != state.cursor.line || 1024 < state.cursor.index - key.index
  match state.keys.find? fun (_, key) => isOld key && key.isRequired with
  | some (_, key) => checkDropped key
  | none =>
    modify fun state => { state with keys := state.keys.filter fun (_, key) => !isOld key }

/-- Forget the lexeme that may be a key between the same brackets. -/
def dropKey : Scanning Unit := do
  let state ← get
  match state.keys.lookup state.depth with
  | some key =>
    checkDropped key
    modify fun state =>
      { state with keys := state.keys.filter fun (depth, _) => depth != state.depth }
  | none => return

/-- Remember that the next lexeme may be a key. -/
def saveKey : Scanning Unit := do
  if (← get).keyAllowed then
    dropKey
    let state ← get
    let cursor := state.cursor
    let isRequired := state.depth == 0 && state.indent == cursor.column
    let number := state.released + state.held.length
    let key : KeyStart := ⟨number, isRequired, cursor.index, cursor.mark⟩
    modify fun state => { state with keys := state.keys ++ [(state.depth, key)] }

/-! ## Blocks -/

/-- Close the blocks that are indented more than a column. -/
def closeBlocks (column : Int) : Scanning Unit := do
  let state ← get
  if state.depth == 0 then
    let columns := state.indent :: state.outer
    for _ in columns.takeWhile (column < ·) do
      putHere .blockEnd
    match columns.dropWhile (column < ·) with
    | indent :: outer => modify fun state => { state with indent, outer }
    | [] => return

/-- Open a block at a column, if none is open there: whether it was. -/
def openBlock (column : Int) : Scanning Bool := do
  let state ← get
  if state.indent < column then
    modify fun state => { state with indent := column, outer := state.indent :: state.outer }
    return true
  return false

/-- Open a block at the cursor, outside of brackets, where a key may start. -/
def openHere (what : String) (kind : Lexeme.Kind) : Scanning Unit := do
  let state ← get
  if state.depth == 0 then
    if !state.keyAllowed then refuse what
    if ← openBlock state.cursor.column then putHere kind

/-! ## Lexemes -/

/-- A mark between documents, or the end of all. -/
def leaveBlocks : Scanning Unit := do
  closeBlocks (-1)
  dropKey
  allowKey false

/-- The end of the text. -/
def takeEnd : Scanning Unit := do
  leaveBlocks
  modify fun state => { state with keys := [] }
  putHere .textEnd

/-- A sign that opens a list or a mapping in brackets. -/
def takeOpen (kind : Lexeme.Kind) : Scanning Unit := do
  saveKey
  modify fun state => { state with depth := state.depth + 1, keyAllowed := true }
  putSign kind 1

/-- A sign that closes a list or a mapping in brackets. -/
def takeClose (kind : Lexeme.Kind) : Scanning Unit := do
  dropKey
  modify fun state => { state with depth := state.depth - 1, keyAllowed := false }
  putSign kind 1

/-- A comma. -/
def takeComma : Scanning Unit := do
  allowKey true
  dropKey
  putSign .comma 1

/-- A dash before an item. -/
def takeDash : Scanning Unit := do
  openHere "sequence entries" .listStart
  allowKey true
  dropKey
  putSign .dash 1

/-- A question mark before a key. -/
def takeKey : Scanning Unit := do
  openHere "mapping keys" .mappingStart
  allowKey ((← get).depth == 0)
  dropKey
  putSign .key 1

/-- Put the start of a key in front of a lexeme that is one. -/
def startKey (key : KeyStart) : Scanning Unit := do
  let state ← get
  let opened ← if state.depth == 0 then openBlock key.mark.column else pure false
  let kinds : List Lexeme.Kind := if opened then [.mappingStart, .key] else [.key]
  let (before, after) := state.held.splitAt (key.number - state.released)
  let starts := kinds.map fun kind => (⟨kind, key.mark, key.mark⟩ : Lexeme)
  modify fun state =>
    { state with
      held := before ++ starts ++ after
      keys := state.keys.filter fun (depth, _) => depth != state.depth
      keyAllowed := false }

/-- A colon before a value. -/
def takeValue : Scanning Unit := do
  let state ← get
  match state.keys.lookup state.depth with
  | some key => startKey key
  | none =>
    openHere "mapping values" .mappingStart
    allowKey (state.depth == 0)
    dropKey
  putSign .value 1

/-- A lexeme that may be a key. -/
def takeNode (part : Scan Lexeme) : Scanning Unit := do
  saveKey
  allowKey false
  put (← scan part)

/-- A plain scalar. A key may start after it if its line has ended. -/
def takePlain : Scanning Unit := do
  saveKey
  let state ← get
  let (lexeme, isOver) ← scan (Scan.scanPlain (state.depth != 0) (state.indent + 1))
  allowKey isOver
  put lexeme

/-- A scalar in rows. -/
def takeBlock (isFolded : Bool) : Scanning Unit := do
  allowKey true
  dropKey
  put (← scan (Scan.scanBlock isFolded (← get).indent))

/-- The gap before a lexeme: blanks, comments and line ends. -/
def skipGap : Nat → Scanning Unit
  | 0 => return
  | fuel + 1 => do
    scan Scan.skipSpaces
    if (← get).cursor.look == '#' then scan (Scan.skipWhile fun c => !endsLine c)
    if !isBreak (← get).cursor.look then return
    scan (discard Scan.takeBreak)
    if (← get).depth == 0 then allowKey true
    skipGap fuel

/-- The characters that no plain scalar starts with. -/
def indicators : List Char :=
  ['-', '?', ':', ',', '[', ']', '\x7b', '\x7d', '#', '&', '*', '!', '|', '>', '\x27', '\x22',
    '%', '@', '\x60']

/-- Whether a plain scalar starts at a cursor. -/
def startsPlain (cursor : Cursor) (inBrackets : Bool) : Bool :=
  let found := cursor.look
  (!isGap found && !indicators.contains found) ||
    (!isGap (cursor.lookAt 1) &&
      (found == '-' || (!inBrackets && (found == '?' || found == ':'))))

/-- The lexeme at the cursor: whether it is the last one. -/
def takeLexeme : Scanning Bool := do
  let state ← get
  let cursor := state.cursor
  let inBrackets := state.depth != 0
  let found := cursor.look
  let isApart := isGap (cursor.lookAt 1)
  if found == endChar then
    takeEnd
    return true
  if cursor.column == 0 && found == '%' then
    leaveBlocks
    put (← scan Scan.scanDirective)
  else if cursor.column == 0 && cursor.atSeparator then
    leaveBlocks
    putSign (if found == '-' then .documentStart else .documentEnd) 3
  else if found == '[' then takeOpen .openBracket
  else if found == '\x7b' then takeOpen .openBrace
  else if found == ']' then takeClose .closeBracket
  else if found == '\x7d' then takeClose .closeBrace
  else if found == ',' then takeComma
  else if found == '-' && isApart then takeDash
  else if found == '?' && (inBrackets || isApart) then takeKey
  else if found == ':' && (inBrackets || isApart) then takeValue
  else if found == '*' then takeNode (Scan.scanName "an alias" .alias)
  else if found == '&' then takeNode (Scan.scanName "an anchor" .anchor)
  else if found == '!' then takeNode Scan.scanTag
  else if found == '|' && !inBrackets then takeBlock false
  else if found == '>' && !inBrackets then takeBlock true
  else if found == Text.apostrophe || found == Text.doubleQuote then takeNode Scan.scanQuoted
  else if startsPlain cursor inBrackets then takePlain
  else
    throw (.problem (some ⟨.scanning "for the next token", none⟩) (.noStart found) cursor.mark)
  return false

/-- The next lexeme after the gap before it: whether it is the last one. -/
def next : Scanning Bool := do
  let cursor := (← get).cursor
  if cursor.index == 0 && cursor.look == byteOrderMark then scan (Scan.move 1)
  skipGap (cursor.rest.length + 1)
  dropOldKeys
  closeBlocks (← get).cursor.column
  if ← takeLexeme then return true
  dropOldKeys
  return false

end Scanning

/-- Let go the lexemes in front of the first that may be a key. -/
def Scanner.release (state : Scanner) : List Lexeme × Scanner :=
  let count := match (state.keys.map fun (_, key) => key.number).min? with
    | some number => number - state.released
    | none => state.held.length
  (state.held.take count,
    { state with released := state.released + count, held := state.held.drop count })

/-- The lexemes of a text, with the fault behind them, if there is one. -/
structure Lexemes where
  /-- The lexemes. -/
  list : List Lexeme
  /-- Why there are no more. -/
  fault? : Option Fault
  deriving Inhabited

/-- The lexemes from a state of a scan on. -/
def Lexemes.ofScanner : Nat → Scanner → Lexemes
  | 0, _ => ⟨[], none⟩
  | fuel + 1, state =>
    match Scanning.next.run state with
    | .error fault => ⟨[], some fault⟩
    | .ok (true, state) => ⟨state.held, none⟩
    | .ok (false, state) =>
      let (ready, state) := state.release
      let more := Lexemes.ofScanner fuel state
      ⟨ready ++ more.list, more.fault?⟩

/-- The lexemes of a text. Each takes a character at least, but for the last. -/
def Lexemes.ofText (text : String) : Lexemes :=
  let chars := text.toList
  Lexemes.ofScanner (chars.length + 1) { cursor := { rest := chars } }

end Lag.Document
