import Lag.Host.Lower
import Lag.Proofs.Typing.Rules
import Lag.Run.Operate

/-!
# Operations on values of types

An operation on values of the types that its operator is for gives a value of the type of the
operation, or meets a trouble that no check can foresee: a division by zero, a number beyond the
floats, a function without a value. Operands of a kind that an operator has no use for, names that
stand for nothing and variables without a value are never among these.
-/
namespace Lag.Run

/-- The classes of troubles that a well typed program does not meet. -/
def foreseen : List String := ["TypeError", "UnboundLocalError", "NameError"]

/-- A trouble that no check can foresee. -/
def Trouble.Unforeseen (trouble : Trouble) : Prop := trouble.className ∉ foreseen

instance (trouble : Trouble) : Decidable trouble.Unforeseen :=
  inferInstanceAs (Decidable (trouble.className ∉ foreseen))

/-- An outcome that is a value of a type or an unforeseen trouble. -/
def Yields (type : Ty) : Outcome Value → Prop
  | .ok value => value.type = type
  | .error trouble => trouble.Unforeseen

/-! ## Values of types -/

/-- The values of the type of integers. -/
theorem eq_int {value : Value} (is : value.type = .int) : ∃ number, value = .int number := by
  cases value with
  | int number => exact ⟨number, rfl⟩
  | _ => cases is

/-- The values of the type of floats. -/
theorem eq_float {value : Value} (is : value.type = .float) : ∃ number, value = .float number := by
  cases value with
  | float number => exact ⟨number, rfl⟩
  | _ => cases is

/-- The values of the type of texts. -/
theorem eq_string {value : Value} (is : value.type = .string) : ∃ text, value = .string text := by
  cases value with
  | string text => exact ⟨text, rfl⟩
  | _ => cases is

/-- A value of a type of values is no entity. -/
theorem ne_entity {value : Value} (isValue : value.type.isValue = true) (entity : Entity) :
    value ≠ .entity entity := by
  rintro rfl
  cases isValue

/-! ## Numbers -/

/-- The type of a number. -/
def Numeric.type : Numeric → Ty
  | .int _ => .int
  | .float _ => .float

/-- A value of a type of numbers is a number of that type. -/
theorem numeric?_of_type {value : Value} {type : Ty} (isNumber : type.isNumeric = true)
    (is : value.type = type) : ∃ number, numeric? value = some number ∧ number.type = type := by
  subst is
  cases value with
  | int number => exact ⟨.int number, rfl, rfl⟩
  | float number => exact ⟨.float number, rfl, rfl⟩
  | _ => cases isNumber

/-- An integer becomes a float, unless it lies beyond all floats. -/
theorem toFloat_cases (number : Numeric) :
    (∃ float, number.toFloat = .ok float) ∨ number.toFloat = .error .intTooLarge := by
  cases number with
  | int number =>
    show (∃ float, intToFloat number = .ok float) ∨ intToFloat number = .error .intTooLarge
    unfold intToFloat
    cases Number.ofInt? number with
    | some float => exact .inl ⟨float, rfl⟩
    | none => exact .inr rfl
  | float number => exact .inl ⟨number, rfl⟩

/-- Operations on floats are for two numbers of which one is a float. -/
theorem yields_floats {left right : Numeric} (float : left.type = .float ∨ right.type = .float)
    (ints : Int → Int → Outcome Value) {floats : Float → Float → Outcome Value} {type : Ty}
    (yields : ∀ a b, Yields type (floats a b)) : Yields type (arithmetic left right ints floats) := by
  have mixed : ∀ a b, left = .int a → right = .int b → False := by
    rintro _ _ rfl rfl
    rcases float with impossible | impossible <;> cases impossible
  unfold arithmetic
  rw [matchUp.eq_2 left right mixed]
  rcases toFloat_cases left with ⟨a, first⟩ | first
  · rcases toFloat_cases right with ⟨b, second⟩ | second
    · rw [first, second]
      exact yields a b
    · rw [first, second]
      exact (by decide : Trouble.Unforeseen .intTooLarge)
  · rw [first]
    exact (by decide : Trouble.Unforeseen .intTooLarge)

/-- Arithmetic with integers gives an integer; the quotient is the whole one. -/
theorem yields_integers {op : BinaryOp} (isArithmetic : op.isArithmetic = true) {left right : Value}
    (leftInt : left.type = .int) (rightInt : right.type = .int) :
    Yields .int (operate (op.lower true) left right) := by
  obtain ⟨a, rfl⟩ := eq_int leftInt
  obtain ⟨b, rfl⟩ := eq_int rightInt
  cases op with
  | add => exact rfl
  | subtract => exact rfl
  | multiply => exact rfl
  | divide =>
    show Yields .int (if b = 0 then .error .integerDivision else .ok (.int (Int.fdiv a b)))
    split
    · exact (by decide : Trouble.Unforeseen .integerDivision)
    · exact rfl
  | remainder =>
    show Yields .int (if b = 0 then .error .integerRemainder else .ok (.int (Int.fmod a b)))
    split
    · exact (by decide : Trouble.Unforeseen .integerRemainder)
    · exact rfl
  | _ => cases isArithmetic

/-- Arithmetic with numbers of which one is a float gives a float. -/
theorem yields_numbers {op : BinaryOp} (isArithmetic : op.isArithmetic = true)
    {left right : Value} {a b : Numeric} (leftNumber : numeric? left = some a)
    (rightNumber : numeric? right = some b) (float : a.type = .float ∨ b.type = .float) :
    Yields .float (operate (op.lower false) left right) := by
  cases op with
  | add =>
    show Yields .float (add left right)
    unfold add
    rw [leftNumber, rightNumber]
    exact yields_floats float _ fun _ _ => rfl
  | subtract =>
    show Yields .float (subtract left right)
    unfold subtract
    rw [leftNumber, rightNumber]
    exact yields_floats float _ fun _ _ => rfl
  | multiply =>
    show Yields .float (multiply left right)
    unfold multiply
    rw [leftNumber, rightNumber]
    exact yields_floats float _ fun _ _ => rfl
  | divide =>
    show Yields .float (divide left right)
    unfold divide
    rw [leftNumber, rightNumber]
    refine yields_floats float _ fun a b => ?_
    split
    · exact (by decide : Trouble.Unforeseen .floatDivision)
    · exact rfl
  | remainder =>
    show Yields .float (remainder left right)
    unfold remainder
    rw [leftNumber, rightNumber]
    refine yields_floats float _ fun a b => ?_
    split
    · exact (by decide : Trouble.Unforeseen .floatRemainder)
    · exact rfl
  | _ => cases isArithmetic

/-- Numbers have an order. -/
theorem yields_ordered (op : String) (accepts : Ordering → Bool) {left right : Value}
    {a b : Numeric} (leftNumber : numeric? left = some a) (rightNumber : numeric? right = some b) :
    Yields .bool (ordered op accepts left right) := by
  unfold ordered
  rw [leftNumber, rightNumber]
  exact rfl

/-- An operation on values of the types of its operands yields a value of its own type. -/
theorem yields_operate {op : BinaryOp} {leftType rightType type : Ty}
    (fits : Typing.Operation op leftType rightType type) {left right : Value}
    (leftIs : left.type = leftType) (rightIs : right.type = rightType) :
    Yields type
      (operate (op.lower (decide (leftType = .int ∧ rightType = .int))) left right) := by
  cases fits with
  | integers isArithmetic => exact yields_integers isArithmetic leftIs rightIs
  | floats isArithmetic leftNumber rightNumber float =>
    obtain ⟨a, first, firstType⟩ := numeric?_of_type leftNumber leftIs
    obtain ⟨b, second, secondType⟩ := numeric?_of_type rightNumber rightIs
    have mixed : decide (leftType = .int ∧ rightType = .int) = false := by
      rw [decide_eq_false_iff_not]
      rintro ⟨rfl, rfl⟩
      rcases float with impossible | impossible <;> cases impossible
    rw [mixed]
    exact yields_numbers isArithmetic first second (by rwa [firstType, secondType])
  | texts =>
    obtain ⟨a, rfl⟩ := eq_string leftIs
    obtain ⟨b, rfl⟩ := eq_string rightIs
    exact rfl
  | order isOrder leftNumber rightNumber =>
    obtain ⟨a, first, _⟩ := numeric?_of_type leftNumber leftIs
    obtain ⟨b, second, _⟩ := numeric?_of_type rightNumber rightIs
    cases op with
    | less | greater | lessEqual | greaterEqual => exact yields_ordered _ _ first second
    | _ => cases isOrder
  | numbers isEquality _ _ =>
    cases op with
    | equal | notEqual => exact rfl
    | _ => cases isEquality
  | same isEquality _ =>
    cases op with
    | equal | notEqual => exact rfl
    | _ => cases isEquality
  | truths logic =>
    rcases logic with rfl | rfl
    · show (if truth left then right else left).type = .bool
      split <;> assumption
    · show (if truth left then left else right).type = .bool
      split <;> assumption

/-- A number keeps its type when its sign is changed. -/
theorem yields_negate {type : Ty} (isNumber : type.isNumeric = true) {value : Value}
    (is : value.type = type) : Yields type (negate value) := by
  obtain ⟨number, found, numberType⟩ := numeric?_of_type isNumber is
  rw [negate, found]
  cases number <;> exact numberType

/-- An integer is converted to a float. -/
theorem yields_toFloat {value : Value} (is : value.type = .int) : Yields .float (toFloat value) := by
  obtain ⟨number, found, _⟩ := numeric?_of_type (rfl : Ty.isNumeric .int = true) is
  unfold toFloat
  rw [found]
  rcases toFloat_cases number with ⟨float, converts⟩ | fails
  · simp only [converts]
    exact rfl
  · simp only [fails]
    exact (by decide : Trouble.Unforeseen .intTooLarge)

/-! ## Built-in functions -/

/-- A text has a length. -/
theorem yields_length {value : Value} (is : value.type = .string) : Yields .int (length value) := by
  obtain ⟨text, rfl⟩ := eq_string is
  exact rfl

/-- A float has a square root unless it is negative. -/
theorem yields_squareRoot {value : Value} (is : value.type = .float) :
    Yields .float (squareRoot value) := by
  obtain ⟨float, rfl⟩ := eq_float is
  show Yields .float (if float < 0.0 then .error .domain else .ok (.float float.sqrt))
  split
  · exact (by decide : Trouble.Unforeseen .domain)
  · exact rfl

/-- A finite float has a greatest integer that is not above it. -/
theorem yields_floor {value : Value} (is : value.type = .float) : Yields .int (floor value) := by
  obtain ⟨float, rfl⟩ := eq_float is
  show Yields .int ((floorFloat float).map .int)
  unfold floorFloat
  split
  · exact rfl
  · exact (by decide : Trouble.Unforeseen .infinityToInt)
  · exact (by decide : Trouble.Unforeseen .nanToInt)

/-- A value that is no entity has a text, unless it has too many digits. -/
theorem text_cases {value : Value} (plain : value.type.isValue = true) :
    (∃ text, scriptText value = .ok text) ∨ scriptText value = .error .tooManyDigits := by
  cases value with
  | none => cases plain
  | entity _ => cases plain
  | int number =>
    unfold scriptText hostText
    dsimp only
    split
    · exact .inl ⟨_, rfl⟩
    · exact .inr rfl
  | bool _ => exact .inl ⟨_, rfl⟩
  | float _ => exact .inl ⟨_, rfl⟩
  | string _ => exact .inl ⟨_, rfl⟩

end Lag.Run
