import Lag.Number.Reading
import Lag.Run.Trouble
import Lag.Text.Quoted

/-!
# Views of values

Truth values count as the integers zero and one. Every value counts as true or as false, and has
a text.
-/
namespace Lag.Run

/-- The outcome of an operation. -/
abbrev Outcome := Except Trouble

/-- A value as a number: truth values are integers. -/
inductive Numeric where
  /-- An integer. -/
  | int (value : Int)
  /-- A float. -/
  | float (value : Float)
  deriving Repr

/-- A value as a number, if it is one. -/
def numeric? : Value → Option Numeric
  | .bool value => some (.int (if value then 1 else 0))
  | .int value => some (.int value)
  | .float value => some (.float value)
  | .none | .string _ | .entity _ => none

/-- A value as an integer, if it is one. -/
def integer? : Value → Option Int
  | .bool value => some (if value then 1 else 0)
  | .int value => some value
  | _ => none

/-- Whether a value counts as true. -/
def truth : Value → Bool
  | .none => false
  | .bool value => value
  | .int value => value != 0
  | .float value => !(value == 0.0)
  | .string value => value != ""
  | .entity (.span first bound) => decide (first < bound)
  | .entity _ => true

/-- The float nearest to an integer. -/
def intToFloat (value : Int) : Outcome Float :=
  match Number.ofInt? value with
  | some float => .ok float
  | none => .error .intTooLarge

/-- A number as a float. -/
def Numeric.toFloat : Numeric → Outcome Float
  | .int value => intToFloat value
  | .float value => .ok value

/-- The greatest integer that is not above a float. -/
def floorFloat (value : Float) : Outcome Int :=
  match Number.floorInt value with
  | .ok whole => .ok whole
  | .error .infinite => .error .infinityToInt
  | .error .nan => .error .nanToInt

/-- The integer part of a float. -/
def wholeFloat (value : Float) : Outcome Int :=
  if value < 0.0 then (floorFloat (-value)).map (- ·) else floorFloat value

/-- The text of an entity. -/
def Entity.text : Entity → String
  | .function _ name => "<function " ++ name ++ ">"
  | .writing => "<function _lag_str>"
  | .given name => "<built-in function " ++ name ++ ">"
  | .kind name => "<class '" ++ name ++ "'>"
  | .library name => "<module '" ++ name ++ "'>"
  | .journal => "<Logger>"
  | .span first bound => "range(" ++ toString first ++ ", " ++ toString bound ++ ")"
  | .thing _ name => name

/-- The text of a value as the host writes it. -/
def hostText : Value → Outcome String
  | .none => .ok "None"
  | .bool value => .ok (if value then "True" else "False")
  | .int value =>
    match Number.intText? value with
    | some text => .ok text
    | none => .error .tooManyDigits
  | .float value => .ok (Number.floatText value)
  | .string value => .ok value
  | .entity entity => .ok (Entity.text entity)

/-- The text of a value as a script writes it. -/
def scriptText : Value → Outcome String
  | .bool value => .ok (if value then "true" else "false")
  | value => hostText value

/-- The greatest length of a text that fits into memory. -/
def memoryLimit : Int := Int.pow 2 31

end Lag.Run
