import Lag.Host.Stack
import Lag.Source.Diagnostic
import Lag.Text.Compatibility
import Lag.Text.Word

/-!
# What the host accepts

The host reads the text of a module from its first line to its last. It refuses a line that is
indented too far, a name with a character that no host name may have, and parentheses that are
nested too deeply, and it runs out of memory where too many rules of its grammar are under way; the
first of these in the text is the one that counts. Then it refuses an expression whose tree is too
deep, then parameters whose names cannot be told apart, and then loops that are nested too deeply.

Names are compared by their compatibility form, so an accepted module is linked by writing every
name in that form.
-/
namespace Lag.Host

/-- The level of indentation that is too far. -/
def indentationLimit : Nat := 100

/-- The greatest number of open parentheses. -/
def parenthesesLimit : Nat := 200

/-- The greatest number of loops inside each other. -/
def loopLimit : Nat := 20

/-- The greatest depth of a tree. -/
def treeLimit : Nat := 2964

/-- Why the host refuses a module. -/
inductive Refusal where
  /-- A line is indented too far. -/
  | indentation
  /-- A character may not stand in a name. -/
  | character (c : Char)
  /-- Parentheses are nested too deeply. -/
  | parentheses
  /-- The reader is out of memory. -/
  | memory
  /-- The tree is too deep. -/
  | tree
  /-- Two parameters have one name. -/
  | duplicate (name : String)
  /-- A parameter has the name of a variable of the module that the function assigns to. -/
  | shared (name : String)
  /-- Loops are nested too deeply. -/
  | loops
  deriving DecidableEq, Repr

/-- The code point of a character in four hexadecimal digits or more. -/
def codePointText (c : Char) : String :=
  let digits := (Nat.toDigits 16 c.toNat).map Char.toUpper
  "U+" ++ String.ofList (List.replicate (4 - digits.length) '0' ++ digits)

/-- The wording of a refusal, which is empty for a reader that is out of memory. -/
def Refusal.message : Refusal → String
  | .indentation => "too many levels of indentation"
  | .character c => "invalid character '" ++ c.toString ++ "' (" ++ codePointText c ++ ")"
  | .parentheses => "too many nested parentheses"
  | .memory => ""
  | .tree => "maximum recursion depth exceeded during compilation"
  | .duplicate name => "duplicate argument '" ++ name ++ "' in function definition"
  | .shared name => "name '" ++ name ++ "' is parameter and global"
  | .loops => "too many statically nested blocks"

/-- A refusal with its place: a line, from one, and a column, from one. The line is zero when the
refusal has no place. -/
structure Refused where
  /-- The refusal. -/
  refusal : Refusal
  /-- The line. -/
  line : Nat
  /-- The column. -/
  column : Nat
  deriving DecidableEq, Repr

/-- Whether a character belongs to a word of the text: a letter, a digit, an underscore, or any
character beyond ASCII. -/
def isWordChar (c : Char) : Bool := c.isAlphanum || c == '_' || decide (0x80 ≤ c.toNat)

/-- The number of characters of a quoted text from inside it, with its closing mark. -/
def quotedLength (mark : Char) : List Char → Nat
  | [] => 0
  | '\\' :: _ :: rest => 2 + quotedLength mark rest
  | c :: rest => if c = mark then 1 else 1 + quotedLength mark rest

/-- The first refusal in a text, with its position; the arguments are the number of open
parentheses and the position of the text. -/
def scanText (opened position : Nat) : List Char → Option (Refusal × Nat)
  | [] => none
  | c :: rest =>
    if c = Text.apostrophe ∨ c = Text.doubleQuote then
      let length := quotedLength c rest
      scanText opened (position + 1 + length) (rest.drop length)
    else if c = '(' then
      if parenthesesLimit ≤ opened then some (.parentheses, position)
      else scanText (opened + 1) (position + 1) rest
    else if c = ')' then scanText (opened - 1) (position + 1) rest
    else if isWordChar c && !c.isDigit then
      let word := c :: rest.takeWhile isWordChar
      match Text.firstUnfit? word with
      | some (before, unfit) => some (.character unfit, position + before)
      | none => scanText opened (position + word.length) (rest.drop (word.length - 1))
    else scanText opened (position + 1) rest
  termination_by text => text.length
  decreasing_by all_goals (try simp only [List.length_drop, List.length_cons]); omega

/-- The first of two things that are wrong with a line: what its text is refused for, with its
column, and the column where the reader runs out of memory. A word is looked at before the rules
that it starts. -/
def earlier? (refusal : Option (Refusal × Nat)) (overflow : Option Nat) : Option (Refusal × Nat) :=
  match refusal, overflow with
  | some (refusal, column), some place =>
    if place < column then some (.memory, place) else some (refusal, column)
  | some found, none => some found
  | none, some place => some (.memory, place)
  | none, none => none

/-- The refusal of a line by its own text, and by the pieces of that. -/
def Line.refused? (number : Nat) (line : Line) (pieces : List Piece) : Option Refused :=
  if indentationLimit ≤ line.level then some ⟨.indentation, number, 1⟩
  else
    let start := line.indentation + 1
    let refusal := if line.text.startsWith "#" then none else scanText 0 start line.text.toList
    (earlier? refusal (overflow? start pieces)).map fun (refusal, column) =>
      ⟨refusal, number, column⟩

/-- The refusal of a line by the loops around it. -/
def Line.nested? (number : Nat) (line : Line) : Option Refused :=
  if loopLimit < line.loops then some ⟨.loops, number, line.indentation + 1⟩ else none

/-- The first line that a test refuses; the first argument is the number of the first line. -/
def firstRefused? {α : Type} (test : Nat → α → Option Refused) : Nat → List α → Option Refused
  | _, [] => none
  | number, line :: rest =>
    match test number line with
    | some refused => some refused
    | none => firstRefused? test (number + 1) rest

/-- Whether an operand joins the operator around it: only a chain of one logical operator does. -/
def Expr.joins (op : Operator) : Expr → Bool
  | .binary inner _ _ => inner == op && (op == .and || op == .or)
  | _ => false

mutual

/-- The depth of an expression. A chain of one logical operator is one level deep. -/
def Expr.depth : Expr → Nat
  | .int _ | .float _ | .text _ | .truth _ | .read _ => 1
  | .not operand => operand.depth + 1
  | .negate operand => operand.depth + 1
  | .binary op left right =>
    max (left.depth + if left.joins op then 0 else 1) (right.depth + 1)
  | .call _ arguments => Expr.depthAll arguments + 1
  | .builtin _ arguments => Expr.depthAll arguments + 1
  | .toFloat value => value.depth + 1

/-- The depth of the deepest of some expressions. -/
def Expr.depthAll : List Expr → Nat
  | [] => 0
  | expr :: rest => max expr.depth (Expr.depthAll rest)

end

mutual

/-- The depth of a statement. -/
def Stmt.depth : Stmt → Nat
  | .assign _ value => value.depth + 1
  | .evaluate value => value.depth + 1
  | .leave none => 1
  | .leave (some value) => value.depth + 1
  | .ifThen test body => max test.depth (Stmt.depthAll body) + 1
  | .ifElse test body otherwise =>
    max (max test.depth (Stmt.depthAll body)) (Stmt.depthAll otherwise) + 1
  | .ifElif test body otherwise =>
    max (max test.depth (Stmt.depthAll body)) otherwise.depth + 1
  | .whileLoop test body => max test.depth (Stmt.depthAll body) + 1
  | .forLoop _ first bound body =>
    max (max first.depth bound.depth + 1) (Stmt.depthAll body) + 1

/-- The depth of the deepest of some statements. -/
def Stmt.depthAll : List Stmt → Nat
  | [] => 0
  | stmt :: rest => max stmt.depth (Stmt.depthAll rest)

end

/-- The depth of a module. -/
def Module.depth (program : Module) : Nat :=
  (program.functions.map fun (_, function) => Stmt.depthAll function.body + 1).foldl max
    ((program.firsts.map fun (_, value) => value.depth + 2).foldl max 0)

/-- The first parameter whose name is among earlier ones, with its column, which here counts bytes;
the first argument is the column of the first parameter. -/
def duplicate? : Nat → List String → List String → Option (String × Nat)
  | _, _, [] => none
  | column, earlier, name :: rest =>
    let folded := Text.foldText name
    if earlier.contains folded then some (folded, column)
    else duplicate? (column + name.utf8ByteSize + 2) (folded :: earlier) rest

/-- The refusal of the names of a function that starts in a line. -/
def Function.refused? (line : Nat) (function : Function) : Option Refused :=
  match duplicate? (function.name.utf8ByteSize + 6) [] function.params with
  | some (name, column) => some ⟨.duplicate name, line, column⟩
  | none =>
    let params := function.params.map Text.foldText
    ((function.globals.map Text.foldText).find? params.contains).map fun name =>
      ⟨.shared name, line + 1, 5⟩

/-- The refusal of the names of the first function that is at fault. -/
def Module.namesRefused? (program : Module) : Option Refused :=
  let lines := program.lines
  program.functions.findSome? fun (_, function) =>
    match function.lines.head? with
    | some first => function.refused? (lines.idxOf first + 1)
    | none => none

/-- Why the host refuses a module, none when it accepts it. -/
def Module.refused? (program : Module) : Option Refused :=
  let lines := program.lines
  match firstRefused? (fun number entry => entry.1.refused? number entry.2) 1
      (lines.zip program.pieces) with
  | some refused => some refused
  | none =>
    if treeLimit < program.depth then some ⟨.tree, 0, 1⟩
    else program.namesRefused?.or (firstRefused? Line.nested? 1 lines)

/-- The label of the file that a module with an identifier counts as. -/
def fileOf (id : String) : String := "<lag:" ++ id ++ ">"

/-- The diagnostic of a refusal of a module with an identifier. -/
def Refused.diagnostic (id : String) (program : Module) (refused : Refused) :
    Source.Diagnostic where
  code := "E401"
  message := refused.refusal.message
  span :=
    let place : Source.Location := ⟨refused.line, refused.column, 0⟩
    some ⟨some (fileOf id), place, place⟩
  sourceLine :=
    if refused.line = 0 then none else (program.lines[refused.line - 1]?).map Line.toText

mutual

/-- Write every name of an expression in its compatibility form. -/
def Expr.link : Expr → Expr
  | .read name => .read (Text.foldText name)
  | .not operand => .not operand.link
  | .negate operand => .negate operand.link
  | .binary op left right => .binary op left.link right.link
  | .call function arguments => .call (Text.foldText function) (Expr.linkAll arguments)
  | .builtin function arguments => .builtin function (Expr.linkAll arguments)
  | .toFloat value => .toFloat value.link
  | .int value => .int value
  | .float value => .float value
  | .text value => .text value
  | .truth value => .truth value

/-- Write every name of some expressions in its compatibility form. -/
def Expr.linkAll : List Expr → List Expr
  | [] => []
  | expr :: rest => expr.link :: Expr.linkAll rest

end

mutual

/-- Write every name of a statement in its compatibility form. -/
def Stmt.link : Stmt → Stmt
  | .assign name value => .assign (Text.foldText name) value.link
  | .evaluate value => .evaluate value.link
  | .leave value => .leave (value.map Expr.link)
  | .ifThen test body => .ifThen test.link (Stmt.linkAll body)
  | .ifElse test body otherwise => .ifElse test.link (Stmt.linkAll body) (Stmt.linkAll otherwise)
  | .ifElif test body otherwise => .ifElif test.link (Stmt.linkAll body) otherwise.link
  | .whileLoop test body => .whileLoop test.link (Stmt.linkAll body)
  | .forLoop counter first bound body =>
    .forLoop (Text.foldText counter) first.link bound.link (Stmt.linkAll body)

/-- Write every name of some statements in its compatibility form. -/
def Stmt.linkAll : List Stmt → List Stmt
  | [] => []
  | stmt :: rest => stmt.link :: Stmt.linkAll rest

end

/-- Write every name of a function in its compatibility form. -/
def Function.link (function : Function) : Function where
  name := Text.foldText function.name
  params := function.params.map Text.foldText
  globals := function.globals.map Text.foldText
  body := Stmt.linkAll function.body

/-- Write every name of a module in its compatibility form. The names of exports are texts and
stay. -/
def Module.link (program : Module) : Module where
  title := program.title
  functions := program.functions.map fun (name, function) => (name, function.link)
  firsts := program.firsts.map fun (name, value) => (Text.foldText name, value.link)

end Lag.Host
