import Lag.Host.Tree
import Lag.Number.Shortest
import Lag.Text.Quoted

/-!
# The text of host modules

A module is written as lines, each with a level of indentation. An operand stands in parentheses
exactly when its text binds less strongly than its place asks for; operators that lean to the left
are written in a loop, from the leftmost operand on.
-/
namespace Lag.Host

/-- How strongly the text of an expression binds. -/
def Expr.level : Expr → Level
  | .not _ => notLevel
  | .negate _ => negateLevel
  | .binary op _ _ => op.level
  | _ => atomLevel

/-- A text for a place of a level. -/
def atLevel (minimum level : Level) (text : String) : String :=
  if level < minimum then "(" ++ text ++ ")" else text

/-- Write operators and their right operands after a left operand of a level. -/
def continueText : List (Operator × String) → Level → String → String
  | [], _, left => left
  | (op, right) :: rest, level, left =>
    continueText rest op.level
      (atLevel op.leftLevel level left ++ " " ++ op.spelling ++ " " ++ right)

/-- The call of a built-in function on the texts of its arguments. -/
def builtinText (function : Builtin) (arguments : List String) : String :=
  let argument := arguments.headD ""
  match function with
  | .print => "_lag_logger.info('%s', _lag_str(" ++ argument ++ "))"
  | .str => "_lag_str(" ++ argument ++ ")"
  | .len => "len(" ++ argument ++ ")"
  | .sqrt => "_lag_math.sqrt(" ++ argument ++ ")"
  | .floor => "_lag_math.floor(" ++ argument ++ ")"

mutual

/-- The text of an expression that is followed by operators and their right operands. -/
def Expr.spine (rest : List (Operator × String)) : Expr → String
  | .int value => continueText rest atomLevel (toString value)
  | .float value => continueText rest atomLevel (Number.floatText value)
  | .text value => continueText rest atomLevel (Text.quoted value)
  | .truth value => continueText rest atomLevel (if value then "True" else "False")
  | .read name => continueText rest atomLevel name
  | .not operand =>
    continueText rest notLevel ("not " ++ atLevel notLevel operand.level (operand.spine []))
  | .negate operand =>
    continueText rest negateLevel ("-" ++ atLevel negateLevel operand.level (operand.spine []))
  | .binary op left right =>
    left.spine ((op, atLevel op.rightLevel right.level (right.spine [])) :: rest)
  | .call function arguments =>
    continueText rest atomLevel (function ++ "(" ++ ", ".intercalate (Expr.texts arguments) ++ ")")
  | .builtin function arguments =>
    continueText rest atomLevel (builtinText function (Expr.texts arguments))
  | .toFloat value => continueText rest atomLevel ("float(" ++ value.spine [] ++ ")")

/-- The texts of expressions. -/
def Expr.texts : List Expr → List String
  | [] => []
  | expr :: rest => expr.spine [] :: Expr.texts rest

end

/-- The text of an expression. -/
def Expr.toText (expr : Expr) : String := expr.spine []

/-- A line of a module. -/
structure Line where
  /-- The level of indentation. -/
  level : Nat
  /-- The text after the indentation. -/
  text : String
  /-- For a line that starts a loop, the number of loops that it is in, with itself. -/
  loops : Nat := 0
  deriving DecidableEq, Repr, Inhabited

/-- The characters of the indentation. -/
def Line.indentation (line : Line) : Nat := 4 * line.level

/-- The whole line. -/
def Line.toText (line : Line) : String :=
  if line.text.isEmpty then ""
  else String.ofList (List.replicate line.indentation ' ') ++ line.text

/-- The lines of a body, which is never empty. -/
def suite (level : Nat) (lines : List Line) : List Line :=
  if lines.isEmpty then [⟨level, "pass", 0⟩] else lines

mutual

/-- The lines of a statement at a level, inside a number of loops; a conditional starts with a
word. -/
def Stmt.lines (word : String) (level loops : Nat) : Stmt → List Line
  | .assign name value => [⟨level, name ++ " = " ++ value.toText, 0⟩]
  | .evaluate value => [⟨level, value.toText, 0⟩]
  | .leave none => [⟨level, "return", 0⟩]
  | .leave (some value) => [⟨level, "return " ++ value.toText, 0⟩]
  | .ifThen test body =>
    ⟨level, word ++ " " ++ test.toText ++ ":", 0⟩ ::
      suite (level + 1) (Stmt.linesAll (level + 1) loops body)
  | .ifElse test body otherwise =>
    ⟨level, word ++ " " ++ test.toText ++ ":", 0⟩ ::
      suite (level + 1) (Stmt.linesAll (level + 1) loops body) ++
      ⟨level, "else:", 0⟩ :: suite (level + 1) (Stmt.linesAll (level + 1) loops otherwise)
  | .ifElif test body otherwise =>
    ⟨level, word ++ " " ++ test.toText ++ ":", 0⟩ ::
      suite (level + 1) (Stmt.linesAll (level + 1) loops body) ++
      Stmt.lines "elif" level loops otherwise
  | .whileLoop test body =>
    ⟨level, "while " ++ test.toText ++ ":", loops + 1⟩ ::
      suite (level + 1) (Stmt.linesAll (level + 1) (loops + 1) body)
  | .forLoop counter first bound body =>
    ⟨level, "for " ++ counter ++ " in range(" ++ first.toText ++ ", " ++ bound.toText ++ "):",
        loops + 1⟩ ::
      suite (level + 1) (Stmt.linesAll (level + 1) (loops + 1) body)

/-- The lines of statements. -/
def Stmt.linesAll (level loops : Nat) : List Stmt → List Line
  | [] => []
  | stmt :: rest => stmt.lines "if" level loops ++ Stmt.linesAll level loops rest

end

/-- The line that lists names of the module, none for no names. -/
def globalLine (names : List String) : List Line :=
  if names.isEmpty then [] else [⟨1, "global " ++ ", ".intercalate names, 0⟩]

/-- The lines of a function. -/
def Function.lines (function : Function) : List Line :=
  ⟨0, "def " ++ function.name ++ "(" ++ ", ".intercalate function.params ++ "):", 0⟩ ::
    globalLine function.globals ++ suite 1 (Stmt.linesAll 1 0 function.body)

/-- An empty line. -/
def blank : Line := ⟨0, "", 0⟩

/-- The name of the journal of a module. -/
def journalName (title : String) : String := "lagscript.scripts." ++ title

/-- The lines that every module starts with. -/
def prelude (title : String) : List Line :=
  [⟨0, "# Generated from Lag module " ++ Text.quoted title ++ ". Do not edit.", 0⟩,
    ⟨0, "import logging as _lag_logging", 0⟩,
    ⟨0, "import math as _lag_math", 0⟩,
    blank,
    ⟨0, "_lag_logger = _lag_logging.getLogger(" ++ Text.quoted (journalName title) ++ ")", 0⟩,
    blank,
    blank,
    ⟨0, "def _lag_str(value):", 0⟩,
    ⟨1, "if isinstance(value, bool):", 0⟩,
    ⟨2, "return 'true' if value else 'false'", 0⟩,
    ⟨1, "return str(value)", 0⟩]

/-- The lines that give the variables of a module their first values. -/
def initialLines (firsts : List (String × Expr)) : List Line :=
  ⟨0, "def __lag_init__():", 0⟩ :: globalLine (firsts.map (·.1)) ++
    suite 1 (firsts.map fun (name, value) => ⟨1, name ++ " = " ++ value.toText, 0⟩)

/-- The lines of the table of exports. -/
def exportLines (functions : List (String × Function)) : List Line :=
  if functions.isEmpty then [⟨0, "__lag_exports__ = \x7b\x7d", 0⟩]
  else
    ⟨0, "__lag_exports__ = \x7b", 0⟩ ::
      functions.map (fun (name, function) =>
        ⟨1, Text.quoted name ++ ": " ++ function.name ++ ",", 0⟩) ++
      [⟨0, "\x7d", 0⟩]

/-- The lines of a module. -/
def Module.lines (program : Module) : List Line :=
  prelude program.title ++
    program.functions.flatMap (fun (_, function) => blank :: blank :: function.lines) ++
    blank :: blank :: initialLines program.firsts ++
    blank :: blank :: exportLines program.functions

/-- The text of a module. -/
def Module.toText (program : Module) : String :=
  "\n".intercalate (program.lines.map Line.toText) ++ "\n"

end Lag.Host
