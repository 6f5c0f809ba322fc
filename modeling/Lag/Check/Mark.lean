import Lag.Symbol
import Lag.Tree.Branch

/-!
# Notes of checked trees

The check of a program notes on every construct what it found: the type of an expression, the
symbol that a name stands for or that a declaration introduces, and whether an integer is
converted to a float where it stands.
-/
namespace Lag

/-- What a check notes on a construct. -/
structure Mark where
  /-- The place and number of the construct. -/
  node : Node
  /-- The type of an expression, a function that is called, or a variable that is assigned to. -/
  type : Option Ty := none
  /-- The symbol of a name or a declaration. -/
  symbol : Option Symbol := none
  /-- Whether an integer is converted to a float. -/
  widened : Bool := false
  deriving Repr, Inhabited

namespace Mark

/-- A note that says nothing. -/
def bare (node : Node) : Mark := ⟨node, none, none, false⟩

/-- A note of a type. -/
def typed (node : Node) (type : Ty) : Mark := ⟨node, some type, none, false⟩

/-- A note of a symbol. -/
def bound (node : Node) (symbol : Symbol) : Mark := ⟨node, none, some symbol, false⟩

/-- A note of a symbol and a type. -/
def full (node : Node) (symbol : Symbol) (type : Ty) : Mark := ⟨node, some type, some symbol, false⟩

end Mark

/-- Note that an expression is converted to a float. -/
def Expr.widen : Expr Mark → Expr Mark
  | .literal mark value lexeme => .literal { mark with widened := true } value lexeme
  | .read ident => .read { ident with note := { ident.note with widened := true } }
  | .unary mark op operand => .unary { mark with widened := true } op operand
  | .binary mark op left right => .binary { mark with widened := true } op left right
  | .call mark callee arguments => .call { mark with widened := true } callee arguments

/-- The kind of an expression. -/
def Expr.kind {α : Type} : Expr α → Kind
  | .literal _ _ _ => .literal
  | .read _ => .identifier
  | .unary _ _ _ => .unary
  | .binary _ _ _ _ => .binary
  | .call _ _ _ => .call

/-- The type of a literal. -/
def Literal.type : Literal → Ty
  | .int _ => .int
  | .float _ => .float
  | .string _ => .string
  | .bool _ => .bool

end Lag
