import Lag.Proofs.Reading.Grammar

/-!
# Reading the layout of host modules

The host reads a module by its lines. Blank lines and comments are left out. A line that ends in a
colon owns the run of more deeply indented lines after it, which are its body, and a line that ends
in an open brace owns such a run up to the closing brace. All other lines of a body stand at the
indentation of its first line.

What is read so is an outline. The statements are read from it: a conditional takes up the further
tests and the last body that follow it, and the lines of a table are its entries. Expressions stay
texts.
-/
namespace Lag.Host

/-! ## Rows -/

/-- A line with something on it. -/
structure Row where
  /-- The number of blanks in front. -/
  indentation : Nat
  /-- What follows them. -/
  text : String
  deriving DecidableEq, Repr

/-- The row on a line; none if the line is blank or a comment. -/
def Row.ofChars? (line : List Char) : Option Row :=
  match line.dropWhile (· == ' ') with
  | [] => none
  | '#' :: _ => none
  | text => some ⟨(line.takeWhile (· == ' ')).length, String.ofList text⟩

/-- The rows of a text. -/
def rowsOf (text : String) : List Row := (text.toList.splitOn '\n').filterMap Row.ofChars?

/-! ## Outlines -/

/-- What the indentation of lines says. -/
inductive Outline where
  /-- A line. -/
  | line (text : String)
  /-- A line that ends in a colon, without the colon, and the lines that it owns. -/
  | suite (header : String) (body : List Outline)
  /-- A line that ends in an open brace and the lines up to the closing one. -/
  | table (header : String) (entries : List String)
  deriving Repr

/-- Whether a row is indented more deeply than a level. -/
def Row.isDeeper (level : Nat) (row : Row) : Bool := level < row.indentation

/-- The outline of rows at an indentation. -/
def outline (level : Nat) : List Row → Option (List Outline)
  | [] => some []
  | row :: rest =>
    if row.indentation = level then
      match row.text.toList.getLast? with
      | some ':' =>
        match (rest.takeWhile (Row.isDeeper level)).head? with
        | none => none
        | some first => do
          let body ← outline first.indentation (rest.takeWhile (Row.isDeeper level))
          let others ← outline level (rest.dropWhile (Row.isDeeper level))
          return .suite (String.ofList row.text.toList.dropLast) body :: others
      | some '\x7b' =>
        if (rest.dropWhile (Row.isDeeper level)).head? = some ⟨level, "\x7d"⟩ then do
          let others ← outline level (rest.dropWhile (Row.isDeeper level)).tail
          return .table row.text ((rest.takeWhile (Row.isDeeper level)).map (·.text)) :: others
        else none
      | _ => do
        let others ← outline level rest
        return .line row.text :: others
    else none
  termination_by rows => rows.length
  decreasing_by
    all_goals simp only [List.length_cons]
    · exact Nat.lt_succ_of_le (List.takeWhile_sublist _).length_le
    · exact Nat.lt_succ_of_le (List.dropWhile_sublist _).length_le
    · have fewer := (List.dropWhile_sublist (Row.isDeeper level) (l := rest)).length_le
      rw [List.length_tail]
      omega
    · omega

/-! ## Statements -/

/-- A statement that is read. -/
inductive Item where
  /-- Nothing. -/
  | pass
  /-- An import. -/
  | imports (what : String)
  /-- Names of the module that a function changes. -/
  | listed (names : List String)
  /-- A value for a name. -/
  | assign (name value : String)
  /-- An expression. -/
  | evaluate (value : String)
  /-- A return, with or without a value. -/
  | leave (value : Option String)
  /-- A conditional: its tests with their bodies, and its last body, which is empty if there is
  none. -/
  | conditional (arms : List (String × List Item)) (otherwise : List Item)
  /-- A loop with a test. -/
  | whileLoop (test : String) (body : List Item)
  /-- A loop over a range of integers. -/
  | forLoop (counter range : String) (body : List Item)
  /-- A function. -/
  | define (name : String) (params : List String) (body : List Item)
  /-- A table with its keys and values. -/
  | table (name : String) (entries : List (String × String))
  deriving Repr

/-- The first word of a text, and what follows it. -/
def firstWord (text : List Char) : String × List Char :=
  (String.ofList (text.takeWhile isWordChar), text.dropWhile isWordChar)

/-- The names that are separated by commas. -/
def separateNames (text : List Char) : List String :=
  if text.isEmpty then []
  else (text.splitOn ',').map fun name => String.ofList (name.dropWhile (· == ' '))

/-- The text between an opening and a closing parenthesis. -/
def enclosed? (opening : String) (text : List Char) : Option (List Char) :=
  if opening.toList.isPrefixOf text && text.getLast? == some ')' then
    some (text.drop opening.toList.length).dropLast
  else none

/-- The words that start bodies. -/
def headerWords : List String := ["if", "elif", "else", "while", "for", "def"]

/-- The statement on a line that starts with the word of none: a value for a name, or an
expression. -/
def Item.ofPlain (text word : String) (rest : List Char) : Item :=
  match rest with
  | ' ' :: '=' :: ' ' :: value =>
    if value = "\x7b\x7d".toList then .table word [] else .assign word (String.ofList value)
  | _ => .evaluate text

/-- What follows a blank. -/
def afterBlank? : List Char → Option (List Char)
  | ' ' :: text => some text
  | _ => none

/-- The return with what follows its word. -/
def leaveOf? (rest : List Char) : Option Item :=
  if rest.isEmpty then some (.leave none)
  else (afterBlank? rest).map fun value => .leave (some (String.ofList value))

/-- The statement on a line with a first word. -/
def Item.ofWord? (text word : String) (rest : List Char) : Option Item :=
  if word = "pass" then
    if rest.isEmpty then some .pass else none
  else if word = "return" then leaveOf? rest
  else if word = "global" then (afterBlank? rest).map fun names => .listed (separateNames names)
  else if word = "import" then (afterBlank? rest).map fun what => .imports (String.ofList what)
  else if headerWords.contains word then none
  else some (.ofPlain text word rest)

/-- The statement on a line. -/
def Item.ofText? (text : String) : Option Item :=
  Item.ofWord? text (firstWord text.toList).1 (firstWord text.toList).2

/-- The value on a line of a table, after its key. -/
def valueOf? (key : String) : List Char → Option (String × String)
  | ':' :: ' ' :: value =>
    if value.getLast? = some ',' then some (key, String.ofList value.dropLast) else none
  | _ => none

/-- The key and the value on a line of a table. -/
def entryOf? (text : String) : Option (String × String) :=
  match text.toList with
  | [] => none
  | mark :: inside =>
    (readQuoted mark (inside.length + 1) inside).bind fun (key, rest) =>
      valueOf? (String.ofList key) rest

/-- The name of a table on its first line. -/
def tableName? (header : String) : Option String :=
  if (firstWord header.toList).2 = " = \x7b".toList then some (firstWord header.toList).1 else none

/-- What an outline is by itself: a statement, or a part of a conditional. -/
inductive Part where
  /-- A statement. -/
  | item (item : Item)
  /-- The first test of a conditional. -/
  | first (test : String) (body : List Item)
  /-- A further test. -/
  | further (test : String) (body : List Item)
  /-- The body after all tests. -/
  | last (body : List Item)

/-- The part that a line which owns a body starts, with its first word and what follows it after a
blank. -/
def Part.ofTest? (body : List Item) (word : String) (rest : List Char) : Option Part :=
  if word = "if" then some (.first (String.ofList rest) body)
  else if word = "elif" then some (.further (String.ofList rest) body)
  else if word = "while" then some (.item (.whileLoop (String.ofList rest) body))
  else if word = "for" then
    (enclosed? " in range(" (firstWord rest).2).map fun range =>
      .item (.forLoop (firstWord rest).1 (String.ofList range) body)
  else if word = "def" then
    (enclosed? "(" (firstWord rest).2).map fun params =>
      .item (.define (firstWord rest).1 (separateNames params) body)
  else none

/-- The part that a line which owns a body starts, with its first word. -/
def Part.ofWord? (body : List Item) (word : String) (rest : List Char) : Option Part :=
  if word = "else" then
    if rest.isEmpty then some (.last body) else none
  else (afterBlank? rest).bind (Part.ofTest? body word)

/-- The part that a line which owns a body starts. -/
def Part.ofHeader? (header : String) (body : List Item) : Option Part :=
  Part.ofWord? body (firstWord header.toList).1 (firstWord header.toList).2

/-- What is read from the end up to some outline: the statements, and in front of them the further
tests and the last body of a conditional whose first test is still to come. -/
structure Pending where
  /-- The further tests. -/
  arms : List (String × List Item) := []
  /-- The last body. -/
  otherwise : List Item := []
  /-- The statements. -/
  items : List Item := []

/-- Take up the part in front. -/
def Pending.add (pending : Pending) : Part → Option Pending
  | .first test body => some
      { items := .conditional ((test, body) :: pending.arms) pending.otherwise :: pending.items }
  | .further test body => some { pending with arms := (test, body) :: pending.arms }
  | .last body =>
    if pending.arms.isEmpty && pending.otherwise.isEmpty then
      some { pending with otherwise := body }
    else none
  | .item item =>
    if pending.arms.isEmpty && pending.otherwise.isEmpty then
      some { items := item :: pending.items }
    else none

/-- The statements, if none is still to come for a test or a last body. -/
def Pending.items? (pending : Pending) : Option (List Item) :=
  if pending.arms.isEmpty && pending.otherwise.isEmpty then some pending.items else none

mutual

/-- The part that an outline is. -/
def Outline.part? : Outline → Option Part
  | .line text => (Item.ofText? text).map .item
  | .suite header body => do
    let inside ← Outline.pending? body
    let items ← inside.items?
    Part.ofHeader? header items
  | .table header entries => do
    let name ← tableName? header
    let pairs ← entries.mapM entryOf?
    return .item (.table name pairs)

/-- What is read of outlines from the end. -/
def Outline.pending? : List Outline → Option Pending
  | [] => some {}
  | first :: rest => do
    let part ← first.part?
    let pending ← Outline.pending? rest
    pending.add part

end

/-- The statements of a module. -/
def readItems (text : String) : Option (List Item) := do
  let outlines ← outline 0 (rowsOf text)
  let pending ← Outline.pending? outlines
  pending.items?

end Lag.Host
