import Lag.Host.Name
import Lag.Host.Tree
import Lag.Tree.Parse

/-!
# Lowering programs

A checked program is lowered to a host module: names become host names, blocks dissolve into the
bodies around them, an integer in the place of a float is converted, and a quotient of two
integers is a whole number.

Lowering goes down the tree step by step, and the number of steps is limited. `Expr.steps` and its
companions count the steps that a construct takes; a program that takes more than `stepLimit` is
not lowered.
-/
namespace Lag

/-- The host operator for an operator, whose operands may both be integers. -/
def BinaryOp.lower (integers : Bool) : BinaryOp → Host.Operator
  | .add => .add
  | .subtract => .subtract
  | .multiply => .multiply
  | .divide => if integers then .floorDivide else .divide
  | .remainder => .remainder
  | .less => .less
  | .greater => .greater
  | .lessEqual => .lessEqual
  | .greaterEqual => .greaterEqual
  | .equal => .equal
  | .notEqual => .notEqual
  | .and => .and
  | .or => .or

/-- The host expression for a literal. The infinity has no literal: it is read from a word. -/
def Literal.lower : Literal → Host.Expr
  | .int value => .int value
  | .float value => if value == Number.infinity then .toFloat (.text "inf") else .float value
  | .string value => .text value
  | .bool value => .truth value

/-- The host name of a name. -/
def Ident.lower (names : Host.Names) (ident : Ident Mark) : String :=
  match ident.note.symbol with
  | some symbol => names.find symbol
  | none => ident.name

/-- The host name of a declared name. -/
def Mark.lower (names : Host.Names) (mark : Mark) (name : String) : String :=
  Ident.lower names ⟨mark, name⟩

/-- Convert an expression to a float if it is noted. -/
def Mark.convert (mark : Mark) (expr : Host.Expr) : Host.Expr :=
  if mark.widened then .toFloat expr else expr

/-- Whether an expression is an integer. -/
def Expr.isInt (expr : Expr Mark) : Bool := expr.note.type == some .int

/-- The host call of a function. -/
def Ident.lowerCall (names : Host.Names) (callee : Ident Mark) (arguments : List Host.Expr) :
    Host.Expr :=
  match callee.note.symbol with
  | some symbol =>
    match symbol.kind, Builtin.ofName? symbol.name with
    | .builtin, some builtin => .builtin builtin arguments
    | _, _ => .call (callee.lower names) arguments
  | none => .call (callee.lower names) arguments

mutual

/-- The host expression for an expression. -/
def Expr.lower (names : Host.Names) : Expr Mark → Host.Expr
  | .literal mark value _ => mark.convert value.lower
  | .read ident => ident.note.convert (.read (ident.lower names))
  | .unary mark .not operand => mark.convert (.not (operand.lower names))
  | .unary mark .negate operand => mark.convert (.negate (operand.lower names))
  | .binary mark op left right =>
    mark.convert
      (.binary (op.lower (left.isInt && right.isInt)) (left.lower names) (right.lower names))
  | .call mark callee arguments =>
    mark.convert (callee.lowerCall names (Expr.lowerAll names arguments))

/-- The host expressions for expressions. -/
def Expr.lowerAll (names : Host.Names) : List (Expr Mark) → List Host.Expr
  | [] => []
  | expr :: rest => expr.lower names :: Expr.lowerAll names rest

end

mutual

/-- The host statements for a statement. -/
def Stmt.lower (names : Host.Names) : Stmt Mark → List Host.Stmt
  | .declare binding =>
    [.assign (binding.note.lower names binding.name) (binding.value.lower names)]
  | .assign _ target value => [.assign (target.lower names) (value.lower names)]
  | .leave _ value => [.leave (value.map (Expr.lower names))]
  | .evaluate _ value => [.evaluate (value.lower names)]
  | .block _ body => Stmt.lowerAll names body
  | .ifThen _ test _ body => [.ifThen (test.lower names) (Stmt.lowerAll names body)]
  | .ifElse _ test _ body (.block _ other) =>
    [.ifElse (test.lower names) (Stmt.lowerAll names body) (Stmt.lowerAll names other)]
  | .ifElse _ test _ body otherwise =>
    match Stmt.lower names otherwise with
    | [next] => [.ifElif (test.lower names) (Stmt.lowerAll names body) next]
    | other => [.ifElse (test.lower names) (Stmt.lowerAll names body) other]
  | .whileLoop _ test _ body => [.whileLoop (test.lower names) (Stmt.lowerAll names body)]
  | .forLoop mark counter first bound _ body =>
    [.forLoop (mark.lower names counter) (first.lower names) (bound.lower names)
      (Stmt.lowerAll names body)]

/-- The host statements for statements. -/
def Stmt.lowerAll (names : Host.Names) : List (Stmt Mark) → List Host.Stmt
  | [] => []
  | stmt :: rest => stmt.lower names ++ Stmt.lowerAll names rest

end

/-- Whether a name stands for a variable of the module. -/
def Ident.inModule (ident : Ident Mark) : Bool :=
  match ident.note.symbol with
  | some symbol => symbol.inModule && symbol.kind == .variable
  | none => false

mutual

/-- The variables of the module that a statement assigns to, in order, with repetitions. -/
def Stmt.assigned (names : Host.Names) : Stmt Mark → List String
  | .assign _ target _ => if target.inModule then [target.lower names] else []
  | .declare _ | .leave _ _ | .evaluate _ _ => []
  | .block _ body => Stmt.assignedAll names body
  | .ifThen _ _ _ body => Stmt.assignedAll names body
  | .ifElse _ _ _ body otherwise => Stmt.assignedAll names body ++ otherwise.assigned names
  | .whileLoop _ _ _ body => Stmt.assignedAll names body
  | .forLoop _ _ _ _ _ body => Stmt.assignedAll names body

/-- The variables of the module that statements assign to. -/
def Stmt.assignedAll (names : Host.Names) : List (Stmt Mark) → List String
  | [] => []
  | stmt :: rest => stmt.assigned names ++ Stmt.assignedAll names rest

end

/-- The host function for a function. -/
def Function.lower (names : Host.Names) (function : Function Mark) : Host.Function where
  name := function.note.lower names function.name
  params := function.params.map fun param => param.note.lower names param.name
  globals := (Stmt.assignedAll names function.body).eraseDups
  body := Stmt.lowerAll names function.body

/-- The host module for a program. -/
def Program.lowerAs (title : String) (program : Program Mark) : Host.Module :=
  let names := Host.Names.ofProgram program
  { title
    functions := program.functions.map fun function => (function.name, function.lower names)
    firsts := program.bindings.map fun binding =>
      (binding.note.lower names binding.name, binding.value.lower names) }

mutual

/-- The steps that an expression takes; the flag says that it is the left operand of an operator,
which takes no steps of its own when it is an operation itself. -/
def Expr.steps : Bool → Expr Mark → Nat
  | inner, .literal _ _ _ => inner.toNat + 3
  | inner, .read _ => inner.toNat + 5
  | inner, .unary _ _ operand => inner.toNat + 4 + operand.steps false
  | inner, .binary mark _ left right =>
    let below := max (left.steps true) (1 + right.steps false)
    if inner && !mark.widened then below else inner.toNat + 3 + below
  | inner, .call _ _ arguments => inner.toNat + 4 + Expr.stepsAll arguments

/-- The steps that the deepest of some expressions takes. -/
def Expr.stepsAll : List (Expr Mark) → Nat
  | [] => 0
  | expr :: rest => max (expr.steps false) (Expr.stepsAll rest)

end

mutual

/-- The steps that a statement takes; the flag says that it continues a conditional. -/
def Stmt.steps : Bool → Stmt Mark → Nat
  | _, .declare binding => 2 + binding.value.steps false
  | _, .assign _ _ value => 2 + value.steps false
  | _, .leave _ none => 2
  | _, .leave _ (some value) => 2 + value.steps false
  | _, .evaluate _ value => 2 + value.steps false
  | further, .block _ body => (if further then 1 else 2) + Stmt.stepsAll body
  | further, .ifThen _ test _ body =>
    (if further then 1 else 2) + max (test.steps false) (1 + Stmt.stepsAll body)
  | further, .ifElse _ test _ body otherwise =>
    (if further then 1 else 2) +
      max (max (test.steps false) (1 + Stmt.stepsAll body)) (otherwise.steps true)
  | _, .whileLoop _ test _ body => 2 + max (test.steps false) (1 + Stmt.stepsAll body)
  | _, .forLoop _ _ first bound _ body =>
    2 + max (max (first.steps false) (bound.steps false)) (1 + Stmt.stepsAll body)

/-- The steps that the deepest of some statements takes. -/
def Stmt.stepsAll : List (Stmt Mark) → Nat
  | [] => 0
  | stmt :: rest => max (stmt.steps false) (Stmt.stepsAll rest)

end

/-- The steps that a declaration takes. -/
def Declaration.steps : Declaration Mark → Nat
  | .function declared => 3 + Stmt.stepsAll declared.body
  | .binding declared => 3 + declared.value.steps false

/-- The steps that the deepest declaration of a program takes. -/
def Program.steps (program : Program Mark) : Nat :=
  (program.declarations.map Declaration.steps).foldl max 0

/-- The greatest number of steps down. -/
def stepLimit : Nat := 988

/-- The host module for a program; none when the program is nested too deeply. -/
def Program.lower? (program : Program Mark) (title : String) : Option Host.Module :=
  if program.steps ≤ stepLimit then some (program.lowerAs title) else none

/-- A program that is lowered is lowered to its module. -/
theorem Program.eq_lowerAs {program : Program Mark} {title : String} {lowered : Host.Module}
    (lowers : program.lower? title = some lowered) : lowered = program.lowerAs title := by
  unfold Program.lower? at lowers
  split at lowers
  · exact (Option.some.inj lowers).symm
  · cases lowers

/-- The diagnostic of a program that is nested too deeply to be lowered. -/
def Host.tooDeep (place : Source.Span) : Source.Diagnostic where
  code := "E301"
  message := "expression too deeply nested"
  span := some place
  hints := [Parse.nestingHint]

/-- The message of an attempt to lower a program that is not checked. -/
def Host.uncheckedMessage : String := "transpile() needs a type-checked program, got Program"

end Lag
