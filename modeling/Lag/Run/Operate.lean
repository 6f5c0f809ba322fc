import Lag.Host.Tree
import Lag.Run.Fill

/-!
# Operations on values

An operation on integers is exact. An integer that meets a float becomes a float first, except that
comparisons are exact. Texts can be joined, repeated, compared and filled in. Entities can be told
apart. Every other combination is a trouble.
-/
namespace Lag.Run

/-- Two numbers that are brought to one kind. -/
inductive Matched where
  /-- Two integers. -/
  | ints (left right : Int)
  /-- Two floats. -/
  | floats (left right : Float)
  deriving Repr

/-- Bring two numbers to one kind. -/
def matchUp : Numeric → Numeric → Outcome Matched
  | .int left, .int right => .ok (.ints left right)
  | left, right =>
    match left.toFloat with
    | .error trouble => .error trouble
    | .ok left =>
      match right.toFloat with
      | .error trouble => .error trouble
      | .ok right => .ok (.floats left right)

/-- Apply an operation on integers or on floats. -/
def arithmetic (left right : Numeric) (ints : Int → Int → Outcome Value)
    (floats : Float → Float → Outcome Value) : Outcome Value :=
  match matchUp left right with
  | .error trouble => .error trouble
  | .ok (.ints left right) => ints left right
  | .ok (.floats left right) => floats left right

/-- The quotient of two integers as a float. -/
def divideInts (left right : Int) : Outcome Value :=
  if right = 0 then .error .division
  else
    match Number.ofQuotient? (decide (left < 0) != decide (right < 0)) left.natAbs right.natAbs with
    | some value => .ok (.float value)
    | none => .error .quotientTooLarge

/-- The greatest count of repetitions. -/
def countLimit : Int := Int.pow 2 63 - 1

/-- A text repeated a number of times. -/
def repeatText (text : String) (count : Int) : Outcome Value :=
  let length : Int := text.length
  if countLimit < count ∨ count < -countLimit - 1 then .error .countTooLarge
  else if count ≤ 0 ∨ length = 0 then .ok (.string "")
  else if countLimit < length * count then .error .repeatTooLong
  else if memoryLimit < length * count then .error .memory
  else .ok (.string (String.join (List.replicate count.toNat text)))

/-- The sum of two values, or two texts joined. -/
def add (left right : Value) : Outcome Value :=
  match numeric? left, numeric? right with
  | some left, some right =>
    arithmetic left right (fun a b => .ok (.int (a + b))) fun a b => .ok (.float (a + b))
  | _, _ =>
    match left, right with
    | .string left, .string right => .ok (.string (left ++ right))
    | .string _, right => .error (.concatenation right)
    | left, right => .error (.operands "+" left right)

/-- The difference of two values. -/
def subtract (left right : Value) : Outcome Value :=
  match numeric? left, numeric? right with
  | some left, some right =>
    arithmetic left right (fun a b => .ok (.int (a - b))) fun a b => .ok (.float (a - b))
  | _, _ => .error (.operands "-" left right)

/-- The product of two values, or a repeated text. -/
def multiply (left right : Value) : Outcome Value :=
  match numeric? left, numeric? right with
  | some left, some right =>
    arithmetic left right (fun a b => .ok (.int (a * b))) fun a b => .ok (.float (a * b))
  | _, _ =>
    match left, right with
    | .string text, count | count, .string text =>
      match integer? count with
      | some count => repeatText text count
      | none => .error (.repetition count)
    | left, right => .error (.operands "*" left right)

/-- The quotient of two values as a float. -/
def divide (left right : Value) : Outcome Value :=
  match numeric? left, numeric? right with
  | some left, some right =>
    arithmetic left right divideInts fun a b =>
      if b == 0.0 then .error .floatDivision else .ok (.float (a / b))
  | _, _ => .error (.operands "/" left right)

/-- The whole quotient of two values, rounded down. -/
def floorDivide (left right : Value) : Outcome Value :=
  match numeric? left, numeric? right with
  | some left, some right =>
    arithmetic left right
      (fun a b => if b = 0 then .error .integerDivision else .ok (.int (Int.fdiv a b)))
      fun a b =>
        if b == 0.0 then .error .floatFloorDivision else .ok (.float (Number.floorQuotient a b))
  | _, _ => .error (.operands "//" left right)

/-- The remainder of two values, or a text that is filled in. -/
def remainder (left right : Value) : Outcome Value :=
  match numeric? left, numeric? right with
  | some left, some right =>
    arithmetic left right
      (fun a b => if b = 0 then .error .integerRemainder else .ok (.int (Int.fmod a b)))
      fun a b =>
        if b == 0.0 then .error .floatRemainder else .ok (.float (Number.floorRemainder a b))
  | _, _ =>
    match left with
    | .string text =>
      match fill text right with
      | .ok filled => .ok (.string filled)
      | .error trouble => .error trouble
    | left => .error (.operands "%" left right)

/-- How two numbers compare; none when one is not a number. -/
def compareNumbers : Numeric → Numeric → Option Ordering
  | .int left, .int right => some (compare left right)
  | .int left, .float right => Number.compareInt? left right
  | .float left, .int right => (Number.compareInt? right left).map Ordering.swap
  | .float left, .float right =>
    if left < right then some .lt
    else if right < left then some .gt
    else if left == right then some .eq
    else none

/-- How two texts compare, character by character. -/
def compareTexts : List Char → List Char → Ordering
  | [], [] => .eq
  | [], _ :: _ => .lt
  | _ :: _, [] => .gt
  | c :: rest, d :: others =>
    if c.toNat < d.toNat then .lt
    else if d.toNat < c.toNat then .gt
    else compareTexts rest others

/-- Whether two values are equal. -/
def equal (left right : Value) : Bool :=
  match numeric? left, numeric? right with
  | some left, some right => compareNumbers left right == some .eq
  | _, _ =>
    match left, right with
    | .none, .none => true
    | .string left, .string right => left == right
    | .entity left, .entity right => left == right
    | _, _ => false

/-- Whether two values are in an order that a test accepts. -/
def ordered (op : String) (accepts : Ordering → Bool) (left right : Value) : Outcome Value :=
  match numeric? left, numeric? right with
  | some left, some right => .ok (.bool ((compareNumbers left right).any accepts))
  | _, _ =>
    match left, right with
    | .string left, .string right =>
      .ok (.bool (accepts (compareTexts left.toList right.toList)))
    | left, right => .error (.order op left right)

/-- The result of an operator whose operands are both evaluated. -/
def operate : Host.Operator → Value → Value → Outcome Value
  | .add => add
  | .subtract => subtract
  | .multiply => multiply
  | .divide => divide
  | .floorDivide => floorDivide
  | .remainder => remainder
  | .less => ordered "<" Ordering.isLT
  | .greater => ordered ">" Ordering.isGT
  | .lessEqual => ordered "<=" Ordering.isLE
  | .greaterEqual => ordered ">=" Ordering.isGE
  | .equal => fun left right => .ok (.bool (equal left right))
  | .notEqual => fun left right => .ok (.bool (!equal left right))
  | .and => fun left right => .ok (if truth left then right else left)
  | .or => fun left right => .ok (if truth left then left else right)

/-- A value with its sign changed. -/
def negate (value : Value) : Outcome Value :=
  match numeric? value with
  | some (.int number) => .ok (.int (-number))
  | some (.float number) => .ok (.float (-number))
  | none => .error (.operand "-" value)

/-- A value as a float. -/
def toFloat (value : Value) : Outcome Value :=
  match numeric? value with
  | some number =>
    match number.toFloat with
    | .ok float => .ok (.float float)
    | .error trouble => .error trouble
  | none =>
    match value with
    | .string text =>
      match Number.readFloat text with
      | .ok float => .ok (.float float)
      | .error fault => .error (.reading fault)
    | other => .error (.floatArgument other)

/-- The length of a text. -/
def length : Value → Outcome Value
  | .string text => .ok (.int text.length)
  | value => .error (.length value)

/-- The square root of a number. -/
def squareRoot (value : Value) : Outcome Value :=
  match numeric? value with
  | some number =>
    match number.toFloat with
    | .ok float => if float < 0.0 then .error .domain else .ok (.float float.sqrt)
    | .error trouble => .error trouble
  | none => .error (.real value)

/-- The greatest integer that is not above a number. -/
def floor (value : Value) : Outcome Value :=
  match numeric? value with
  | some (.int number) => .ok (.int number)
  | some (.float number) => (floorFloat number).map .int
  | none => .error (.real value)

/-- A bound of a loop over integers. -/
def loopBound (value : Value) : Outcome Int :=
  match integer? value with
  | some bound => .ok bound
  | none => .error (.integer value)

end Lag.Run
