import Lag.Source.Span
import Lag.Token
import Lag.Ty

/-!
# Syntax trees

The tree of a Lag program. Every construct carries a note, whose type is a parameter: a tree that
was read carries places (`Node`), a tree that was checked carries places, types and symbols. A
block is a list of statements with a note of its own, so a conditional and a loop have two notes.
Parentheses leave no trace in the tree.
-/
namespace Lag

/-- The place of a construct, and its number in the tree, counted from the program on. -/
structure Node where
  /-- The place. -/
  span : Source.Span
  /-- The number. -/
  id : Nat := 0
  deriving DecidableEq, Repr, Inhabited

/-- The operators of one operand. -/
inductive UnaryOp where
  /-- Truth becomes falsehood. -/
  | not
  /-- The sign changes. -/
  | negate
  deriving DecidableEq, Repr, Inhabited

namespace UnaryOp

/-- The name under which an operator is listed. -/
def name : UnaryOp → String
  | .not => "NOT"
  | .negate => "MINUS"

/-- The operator that a token stands for in front of an operand. -/
def ofKind? : TokenKind → Option UnaryOp
  | .not => some .not
  | .minus => some .negate
  | _ => none

end UnaryOp

/-- The operators of two operands. -/
inductive BinaryOp where
  /-- The sum, or two texts joined. -/
  | add
  /-- The difference. -/
  | subtract
  /-- The product. -/
  | multiply
  /-- The quotient. -/
  | divide
  /-- The remainder. -/
  | remainder
  /-- Whether the left is less. -/
  | less
  /-- Whether the left is greater. -/
  | greater
  /-- Whether the left is not greater. -/
  | lessEqual
  /-- Whether the left is not less. -/
  | greaterEqual
  /-- Whether both are equal. -/
  | equal
  /-- Whether both differ. -/
  | notEqual
  /-- Whether both hold. -/
  | and
  /-- Whether one holds. -/
  | or
  deriving DecidableEq, Repr, Inhabited

namespace BinaryOp

/-- The name under which an operator is listed. -/
def name : BinaryOp → String
  | .add => "PLUS"
  | .subtract => "MINUS"
  | .multiply => "STAR"
  | .divide => "SLASH"
  | .remainder => "PERCENT"
  | .less => "LT"
  | .greater => "GT"
  | .lessEqual => "LE"
  | .greaterEqual => "GE"
  | .equal => "EQ"
  | .notEqual => "NE"
  | .and => "AND"
  | .or => "OR"

/-- The spelling of an operator. -/
def spelling : BinaryOp → String
  | .add => "+"
  | .subtract => "-"
  | .multiply => "*"
  | .divide => "/"
  | .remainder => "%"
  | .less => "<"
  | .greater => ">"
  | .lessEqual => "<="
  | .greaterEqual => ">="
  | .equal => "=="
  | .notEqual => "!="
  | .and => "&&"
  | .or => "||"

/-- The operator that a token stands for between two operands. -/
def ofKind? : TokenKind → Option BinaryOp
  | .plus => some .add
  | .minus => some .subtract
  | .star => some .multiply
  | .slash => some .divide
  | .percent => some .remainder
  | .less => some .less
  | .greater => some .greater
  | .lessEqual => some .lessEqual
  | .greaterEqual => some .greaterEqual
  | .equal => some .equal
  | .notEqual => some .notEqual
  | .and => some .and
  | .or => some .or
  | _ => none

/-- How strongly an operator binds, from one for the weakest. -/
def level : BinaryOp → Nat
  | .or => 1
  | .and => 2
  | .equal | .notEqual => 3
  | .less | .greater | .lessEqual | .greaterEqual => 4
  | .add | .subtract => 5
  | .multiply | .divide | .remainder => 6

/-- Whether an operator computes with numbers. -/
def isArithmetic : BinaryOp → Bool
  | .add | .subtract | .multiply | .divide | .remainder => true
  | _ => false

/-- Whether an operator compares the order of two numbers. -/
def isOrder : BinaryOp → Bool
  | .less | .greater | .lessEqual | .greaterEqual => true
  | _ => false

/-- Whether an operator tests for equality. -/
def isEquality : BinaryOp → Bool
  | .equal | .notEqual => true
  | _ => false

end BinaryOp

/-- A name that refers to a variable or a function. -/
structure Ident (α : Type) where
  /-- Its note. -/
  note : α
  /-- The name. -/
  name : String
  deriving DecidableEq, Repr, Inhabited

/-- A type that is written in the source. -/
structure TypeName (α : Type) where
  /-- Its note. -/
  note : α
  /-- The type. -/
  type : Ty
  deriving Repr, Inhabited

/-- The expressions. -/
inductive Expr (α : Type) where
  /-- A literal, with its lexeme. -/
  | literal (note : α) (value : Literal) (lexeme : String)
  /-- The value of a variable. -/
  | read (ident : Ident α)
  /-- An operator and its operand. -/
  | unary (note : α) (op : UnaryOp) (operand : Expr α)
  /-- An operator between its operands. -/
  | binary (note : α) (op : BinaryOp) (left right : Expr α)
  /-- A call of a function. -/
  | call (note : α) (callee : Ident α) (arguments : List (Expr α))
  deriving Repr, Inhabited

/-- The declaration of a variable with its first value. -/
structure Binding (α : Type) where
  /-- Its note. -/
  note : α
  /-- The name of the variable. -/
  name : String
  /-- The type, when it is written. -/
  type : Option (TypeName α)
  /-- The first value. -/
  value : Expr α
  deriving Repr, Inhabited

/-- The statements. A body is a block: a note and its statements. -/
inductive Stmt (α : Type) where
  /-- Declare a variable. -/
  | declare (binding : Binding α)
  /-- Change a variable. -/
  | assign (note : α) (target : Ident α) (value : Expr α)
  /-- Leave the function, with or without a value. -/
  | leave (note : α) (value : Option (Expr α))
  /-- Evaluate an expression for its effect. -/
  | evaluate (note : α) (value : Expr α)
  /-- Run statements in a scope of their own. -/
  | block (note : α) (body : List (Stmt α))
  /-- Run a body when a test holds. -/
  | ifThen (note : α) (test : Expr α) (bodyNote : α) (body : List (Stmt α))
  /-- Run a body when a test holds, and otherwise a block or a further conditional. -/
  | ifElse (note : α) (test : Expr α) (bodyNote : α) (body : List (Stmt α)) (otherwise : Stmt α)
  /-- Run a body as long as a test holds. -/
  | whileLoop (note : α) (test : Expr α) (bodyNote : α) (body : List (Stmt α))
  /-- Run a body for each integer from a first one up to a bound. -/
  | forLoop (note : α) (counter : String) (first bound : Expr α) (bodyNote : α)
      (body : List (Stmt α))
  deriving Repr, Inhabited

/-- A parameter of a function. -/
structure Param (α : Type) where
  /-- Its note. -/
  note : α
  /-- The name. -/
  name : String
  /-- The type. -/
  type : TypeName α
  deriving Repr, Inhabited

/-- A function. -/
structure Function (α : Type) where
  /-- Its note. -/
  note : α
  /-- The name. -/
  name : String
  /-- The parameters. -/
  params : List (Param α)
  /-- The type of the result; a function without one returns nothing. -/
  result : Option (TypeName α)
  /-- The note of the body. -/
  bodyNote : α
  /-- The body. -/
  body : List (Stmt α)
  deriving Repr, Inhabited

/-- A declaration at the top of a program. -/
inductive Declaration (α : Type) where
  /-- A function. -/
  | function (declared : Function α)
  /-- A variable of the module. -/
  | binding (declared : Binding α)
  deriving Repr, Inhabited

/-- A program. -/
structure Program (α : Type) where
  /-- Its note. -/
  note : α
  /-- The declarations, in order. -/
  declarations : List (Declaration α)
  /-- The label of the file. -/
  file : Option String
  deriving Repr, Inhabited

variable {α β : Type}

/-- The note of an expression. -/
def Expr.note : Expr α → α
  | .literal note _ _ => note
  | .read ident => ident.note
  | .unary note _ _ => note
  | .binary note _ _ _ => note
  | .call note _ _ => note

/-- The note of a statement. -/
def Stmt.note : Stmt α → α
  | .declare binding => binding.note
  | .assign note _ _ => note
  | .leave note _ => note
  | .evaluate note _ => note
  | .block note _ => note
  | .ifThen note _ _ _ => note
  | .ifElse note _ _ _ _ => note
  | .whileLoop note _ _ _ => note
  | .forLoop note _ _ _ _ _ => note

/-- The functions of a program, in order. -/
def Program.functions (program : Program α) : List (Function α) :=
  program.declarations.filterMap fun
    | .function declared => some declared
    | .binding _ => none

/-- The variables of a program, in order. -/
def Program.bindings (program : Program α) : List (Binding α) :=
  program.declarations.filterMap fun
    | .function _ => none
    | .binding declared => some declared

/-- Change the note of a name. -/
def Ident.map (f : α → β) (ident : Ident α) : Ident β := ⟨f ident.note, ident.name⟩

/-- Change the note of a written type. -/
def TypeName.map (f : α → β) (type : TypeName α) : TypeName β := ⟨f type.note, type.type⟩

mutual

/-- Change every note of an expression. -/
def Expr.map (f : α → β) : Expr α → Expr β
  | .literal note value lexeme => .literal (f note) value lexeme
  | .read ident => .read (ident.map f)
  | .unary note op operand => .unary (f note) op (operand.map f)
  | .binary note op left right => .binary (f note) op (left.map f) (right.map f)
  | .call note callee arguments => .call (f note) (callee.map f) (Expr.mapAll f arguments)

/-- Change every note of some expressions. -/
def Expr.mapAll (f : α → β) : List (Expr α) → List (Expr β)
  | [] => []
  | expr :: rest => expr.map f :: Expr.mapAll f rest

end

/-- Change every note of a declaration of a variable. -/
def Binding.map (f : α → β) (binding : Binding α) : Binding β :=
  ⟨f binding.note, binding.name, binding.type.map (TypeName.map f), binding.value.map f⟩

mutual

/-- Change every note of a statement. -/
def Stmt.map (f : α → β) : Stmt α → Stmt β
  | .declare binding => .declare (binding.map f)
  | .assign note target value => .assign (f note) (target.map f) (value.map f)
  | .leave note value => .leave (f note) (value.map (Expr.map f))
  | .evaluate note value => .evaluate (f note) (value.map f)
  | .block note body => .block (f note) (Stmt.mapAll f body)
  | .ifThen note test bodyNote body =>
    .ifThen (f note) (test.map f) (f bodyNote) (Stmt.mapAll f body)
  | .ifElse note test bodyNote body otherwise =>
    .ifElse (f note) (test.map f) (f bodyNote) (Stmt.mapAll f body) (otherwise.map f)
  | .whileLoop note test bodyNote body =>
    .whileLoop (f note) (test.map f) (f bodyNote) (Stmt.mapAll f body)
  | .forLoop note counter first bound bodyNote body =>
    .forLoop (f note) counter (first.map f) (bound.map f) (f bodyNote) (Stmt.mapAll f body)

/-- Change every note of some statements. -/
def Stmt.mapAll (f : α → β) : List (Stmt α) → List (Stmt β)
  | [] => []
  | stmt :: rest => stmt.map f :: Stmt.mapAll f rest

end

/-- Change every note of a parameter. -/
def Param.map (f : α → β) (param : Param α) : Param β :=
  ⟨f param.note, param.name, param.type.map f⟩

/-- Change every note of a function. -/
def Function.map (f : α → β) (function : Function α) : Function β where
  note := f function.note
  name := function.name
  params := function.params.map (Param.map f)
  result := function.result.map (TypeName.map f)
  bodyNote := f function.bodyNote
  body := Stmt.mapAll f function.body

/-- Change every note of a declaration. -/
def Declaration.map (f : α → β) : Declaration α → Declaration β
  | .function declared => .function (declared.map f)
  | .binding declared => .binding (declared.map f)

/-- Change every note of a program. -/
def Program.map (f : α → β) (program : Program α) : Program β :=
  ⟨f program.note, program.declarations.map (Declaration.map f), program.file⟩

end Lag
