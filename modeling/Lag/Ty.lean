/-!
# Types

The types of Lag are the integers, the floats, the truth values, the texts, and the absence of a
value. Functions have a type too, built-in functions accept any value, and an expression at fault
has the type `error`, which agrees with every other type so that one fault is reported once. The
only conversion is from integers to floats.
-/
namespace Lag

/-- A type. -/
inductive Ty where
  /-- The integers. -/
  | int
  /-- The floats. -/
  | float
  /-- The truth values. -/
  | bool
  /-- The texts. -/
  | string
  /-- No value. -/
  | void
  /-- Any value: the type of a parameter of a built-in function. -/
  | any
  /-- The type of an expression at fault. -/
  | error
  /-- The functions from parameters to a result. -/
  | function (params : List Ty) (result : Ty)
  deriving Repr, Inhabited

namespace Ty

mutual

/-- Whether two types are equal. -/
def equal : Ty → Ty → Bool
  | .int, .int | .float, .float | .bool, .bool | .string, .string | .void, .void | .any, .any
  | .error, .error => true
  | .function params result, .function params' result' =>
    equalAll params params' && result.equal result'
  | _, _ => false

/-- Whether two lists of types are equal. -/
def equalAll : List Ty → List Ty → Bool
  | [], [] => true
  | type :: types, type' :: types' => type.equal type' && equalAll types types'
  | _, _ => false

end

mutual

/-- Types that compare as equal are equal. -/
theorem eq_of_equal : ∀ {left right : Ty}, left.equal right = true → left = right
  | .int, right, same => by cases right <;> simp_all [equal]
  | .float, right, same => by cases right <;> simp_all [equal]
  | .bool, right, same => by cases right <;> simp_all [equal]
  | .string, right, same => by cases right <;> simp_all [equal]
  | .void, right, same => by cases right <;> simp_all [equal]
  | .any, right, same => by cases right <;> simp_all [equal]
  | .error, right, same => by cases right <;> simp_all [equal]
  | .function params result, .function params' result', same => by
    simp only [equal, Bool.and_eq_true] at same
    rw [eq_of_equalAll same.1, eq_of_equal same.2]
  | .function _ _, .int, same | .function _ _, .float, same | .function _ _, .bool, same
  | .function _ _, .string, same | .function _ _, .void, same | .function _ _, .any, same
  | .function _ _, .error, same => by simp [equal] at same

/-- Lists of types that compare as equal are equal. -/
theorem eq_of_equalAll : ∀ {left right : List Ty}, equalAll left right = true → left = right
  | [], [], _ => rfl
  | [], _ :: _, same => by simp [equalAll] at same
  | _ :: _, [], same => by simp [equalAll] at same
  | type :: types, type' :: types', same => by
    simp only [equalAll, Bool.and_eq_true] at same
    rw [eq_of_equal same.1, eq_of_equalAll same.2]

end

mutual

/-- Every type compares as equal with itself. -/
theorem equal_self : ∀ type : Ty, type.equal type = true
  | .int | .float | .bool | .string | .void | .any | .error => rfl
  | .function params result => by
    simp only [equal, equalAll_self params, equal_self result, Bool.and_self]

/-- Every list of types compares as equal with itself. -/
theorem equalAll_self : ∀ types : List Ty, equalAll types types = true
  | [] => rfl
  | type :: types => by simp only [equalAll, equal_self type, equalAll_self types, Bool.and_self]

end

instance : DecidableEq Ty := fun left right =>
  if same : left.equal right = true then isTrue (eq_of_equal same)
  else isFalse fun h => same (h ▸ equal_self left)

mutual

/-- The name of a type. -/
def name : Ty → String
  | .int => "int"
  | .float => "float"
  | .bool => "bool"
  | .string => "string"
  | .void => "void"
  | .any => "any"
  | .error => "<error>"
  | .function params result =>
    "fn(" ++ ", ".intercalate (names params) ++ ") -> " ++ result.name

/-- The names of types. -/
def names : List Ty → List String
  | [] => []
  | type :: types => type.name :: names types

end

/-- The types that can be written in a source text. -/
def written : List Ty := [.int, .float, .bool, .string, .void]

/-- The type that a written name stands for. -/
def ofName? (name : String) : Option Ty := written.find? (·.name == name)

/-- Whether a type is numeric. -/
def isNumeric : Ty → Bool
  | .int | .float => true
  | _ => false

/-- Whether a type is that of an expression at fault. -/
def isError : Ty → Bool
  | .error => true
  | _ => false

/-- Whether a place of one type takes a value of another. -/
def accepts : Ty → Ty → Bool
  | .error, _ => true
  | .any, value => value != .void
  | .function params result, value => value == .function params result
  | place, value => value == place || (place == .float && value == .int) || value == .error

/-- Whether a value is converted when it is put in a place. -/
def widens (place value : Ty) : Bool := place == .float && value == .int

/-- The type that two values have in common. -/
def common? (left right : Ty) : Option Ty :=
  if left = right then some left
  else if left.isNumeric && right.isNumeric then some .float
  else none

/-- A place takes a value that is converted for it. -/
theorem accepts_of_widens {place value : Ty} (widened : place.widens value = true) :
    place.accepts value = true := by
  simp only [widens, Bool.and_eq_true, beq_iff_eq] at widened
  obtain ⟨rfl, rfl⟩ := widened
  rfl

/-- A place of a type takes the values of that type. -/
theorem accepts_self (type : Ty) : type.accepts type = true := by
  cases type <;> simp [accepts]

/-- The common type takes both values. -/
theorem accepts_common {left right type : Ty} (found : left.common? right = some type) :
    type.accepts left = true ∧ type.accepts right = true := by
  unfold common? at found
  split at found
  · rename_i same
    cases same
    cases found
    exact ⟨accepts_self left, accepts_self left⟩
  · split at found
    · rename_i numeric
      cases found
      cases left <;> cases right <;> simp_all [isNumeric, accepts]
    · cases found

end Ty

end Lag
