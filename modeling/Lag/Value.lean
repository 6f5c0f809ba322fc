import Lag.Number.Binary
import Lag.Token
import Lag.Ty

/-!
# Values

What a Lag expression evaluates to: nothing, a truth value, an integer without bounds, a float, or
a text. Arguments of a call from outside may be of any kind, whatever the types of the parameters.

A variable whose name the host cannot tell from the name of a function or of a thing of its own
stands for that entity until it gets its first value. So an entity is a value too, although no
expression has the type of one.
-/
namespace Lag

/-- Something that a name of the host stands for besides the values of Lag. -/
inductive Entity where
  /-- A function of the module, with its place in the module. -/
  | function (place : Nat) (name : String)
  /-- The function that writes a value as a text, which every module starts with. -/
  | writing
  /-- A function that the host gives. -/
  | given (name : String)
  /-- A class of values. -/
  | kind (name : String)
  /-- A library that every module uses. -/
  | library (name : String)
  /-- The journal of the module. -/
  | journal
  /-- The integers from a first one up to a bound. -/
  | span (first bound : Int)
  /-- Some other thing of a class. -/
  | thing (kind name : String)
  deriving DecidableEq, Repr

/-- A value. -/
inductive Value where
  /-- Nothing: the result of a function without a result. -/
  | none
  /-- A truth value. -/
  | bool (value : Bool)
  /-- An integer. -/
  | int (value : Int)
  /-- A float. -/
  | float (value : Float)
  /-- A text. -/
  | string (value : String)
  /-- An entity of the host. -/
  | entity (entity : Entity)
  deriving Repr, Inhabited

/-- What a literal stands for. -/
def Literal.toValue : Literal → Value
  | .int value => .int value
  | .float value => .float value
  | .string value => .string value
  | .bool value => .bool value

namespace Value

/-- The type of a value. An entity may stand for anything. -/
def type : Value → Ty
  | .none => .void
  | .bool _ => .bool
  | .int _ => .int
  | .float _ => .float
  | .string _ => .string
  | .entity _ => .any

end Value

end Lag
