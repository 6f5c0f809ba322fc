import Lag.Symbol
import Lag.Value

/-!
# Modules of the host language

A checked program is lowered to a module of the host language. The host has one flat scope for
each function, so blocks disappear and every variable has a name of its own. A module holds
functions, the variables of the module with their first values, and a table of exports.
-/
namespace Lag.Host

/-- The operators of two operands. -/
inductive Operator where
  /-- The sum. -/
  | add
  /-- The difference. -/
  | subtract
  /-- The product. -/
  | multiply
  /-- The quotient. -/
  | divide
  /-- The greatest whole number that is not above the quotient. -/
  | floorDivide
  /-- The remainder. -/
  | remainder
  /-- Whether the left is less. -/
  | less
  /-- Whether the left is greater. -/
  | greater
  /-- Whether the left is not greater. -/
  | lessEqual
  /-- Whether the left is not less. -/
  | greaterEqual
  /-- Whether both are equal. -/
  | equal
  /-- Whether both differ. -/
  | notEqual
  /-- The left operand if it is false, and otherwise the right one. -/
  | and
  /-- The left operand if it is true, and otherwise the right one. -/
  | or
  deriving DecidableEq, Repr, Inhabited

/-- How strongly the text of an expression binds. -/
abbrev Level := Nat

/-- The level of a negation of truth. -/
def notLevel : Level := 3

/-- The level of comparisons. -/
def comparisonLevel : Level := 4

/-- The level of a change of sign. -/
def negateLevel : Level := 7

/-- The level of names, literals and calls. -/
def atomLevel : Level := 8

namespace Operator

/-- The spelling of an operator. -/
def spelling : Operator → String
  | .add => "+"
  | .subtract => "-"
  | .multiply => "*"
  | .divide => "/"
  | .floorDivide => "//"
  | .remainder => "%"
  | .less => "<"
  | .greater => ">"
  | .lessEqual => "<="
  | .greaterEqual => ">="
  | .equal => "=="
  | .notEqual => "!="
  | .and => "and"
  | .or => "or"

/-- The level of an operator. -/
def level : Operator → Level
  | .or => 1
  | .and => 2
  | .equal | .notEqual | .less | .greater | .lessEqual | .greaterEqual => comparisonLevel
  | .add | .subtract => 5
  | .multiply | .divide | .floorDivide | .remainder => 6

/-- The least level of a left operand without parentheses. Operators group to the left, but
comparisons do not group at all. -/
def leftLevel (op : Operator) : Level :=
  if op.level = comparisonLevel then op.level + 1 else op.level

/-- The least level of a right operand without parentheses. -/
def rightLevel (op : Operator) : Level := op.level + 1

end Operator

/-- The expressions. -/
inductive Expr where
  /-- A whole number. -/
  | int (value : Nat)
  /-- A float. -/
  | float (value : Float)
  /-- A text. -/
  | text (value : String)
  /-- A truth value. -/
  | truth (value : Bool)
  /-- The value of a variable. -/
  | read (name : String)
  /-- A negation of truth. -/
  | not (operand : Expr)
  /-- A change of sign. -/
  | negate (operand : Expr)
  /-- An operator between its operands. -/
  | binary (op : Operator) (left right : Expr)
  /-- A call of a function of the module. -/
  | call (function : String) (arguments : List Expr)
  /-- A call of a built-in function. -/
  | builtin (function : Builtin) (arguments : List Expr)
  /-- A conversion to a float. -/
  | toFloat (value : Expr)
  deriving Repr, Inhabited

/-- The statements. -/
inductive Stmt where
  /-- Give a variable a value. -/
  | assign (name : String) (value : Expr)
  /-- Evaluate an expression for its effect. -/
  | evaluate (value : Expr)
  /-- Leave the function, with or without a value. -/
  | leave (value : Option Expr)
  /-- Run a body when a test holds. -/
  | ifThen (test : Expr) (body : List Stmt)
  /-- Run one of two bodies. -/
  | ifElse (test : Expr) (body otherwise : List Stmt)
  /-- Run a body when a test holds, and otherwise a further conditional. -/
  | ifElif (test : Expr) (body : List Stmt) (otherwise : Stmt)
  /-- Run a body as long as a test holds. -/
  | whileLoop (test : Expr) (body : List Stmt)
  /-- Run a body for each integer from a first one up to a bound. -/
  | forLoop (counter : String) (first bound : Expr) (body : List Stmt)
  deriving Repr, Inhabited

/-- A function. -/
structure Function where
  /-- Its name. -/
  name : String
  /-- The names of its parameters. -/
  params : List String
  /-- The variables of the module that it assigns to. -/
  globals : List String
  /-- Its body. -/
  body : List Stmt
  deriving Repr, Inhabited

/-- A module. -/
structure Module where
  /-- The name of the module. -/
  title : String
  /-- The functions, in order, each with the name under which it is exported. -/
  functions : List (String × Function)
  /-- The variables of the module with their first values, in order. -/
  firsts : List (String × Expr)
  deriving Repr, Inhabited

/-- The names under which functions are exported. -/
def Module.exports (program : Module) : List String := program.functions.map (·.1)

end Lag.Host
