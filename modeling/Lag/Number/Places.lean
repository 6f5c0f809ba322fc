import Lag.Number.Shortest

/-!
# Decimals with a given number of places

A float can be written with a number of places after the point that is asked for. Its exact value
is rounded to that many places, and a tie goes to the even neighbour. There are three forms: the
fixed form has no power of ten; the scientific form has one digit before the point and a power of
ten; the general form has a number of digits, of which the zeros at the end are left out, and
takes a power of ten only for numbers that are very small, or too large for the digits.
-/
namespace Lag.Number

/-- A decimal in writing. -/
structure Written where
  /-- The digits before the point. -/
  whole : List Char
  /-- The digits after the point. -/
  fraction : List Char
  /-- The power of ten, when one is written. -/
  power : Option Int
  deriving DecidableEq, Repr

/-- The text of a decimal; the point may be written even when no digit follows it. -/
def Written.toText (point : Bool) (written : Written) : String :=
  String.ofList written.whole ++
    (if point || !written.fraction.isEmpty then "." ++ String.ofList written.fraction else "") ++
    match written.power with
    | some power => "e" ++ (if power < 0 then "-" else "+") ++ twoDigits power.natAbs
    | none => ""

/-- A decimal without the zeros at the end of its fraction. -/
def Written.strip (written : Written) : Written :=
  { written with fraction := (written.fraction.reverse.dropWhile (· == '0')).reverse }

/-- The digits of a number, with zeros before them up to a width. -/
def paddedDigits (width number : Nat) : List Char :=
  let digits := Nat.toDigits 10 number
  List.replicate (width - digits.length) '0' ++ digits

/-- A quotient with a number of places after the point. -/
def fixed (number divisor places : Nat) : Written :=
  let digits := paddedDigits (places + 1) (roundEven (number * Nat.pow 10 places) divisor)
  let point := digits.length - places
  ⟨digits.take point, digits.drop point, none⟩

/-- The digits of a quotient, of which one stands before the point, and the power of ten. -/
def roundDigits (number divisor places : Nat) : Nat × Int :=
  if number = 0 then (0, 0)
  else
    let power := decimalExponent number divisor
    let shift := places - power
    let digits := roundEven (number * Nat.pow 10 shift.toNat) (divisor * Nat.pow 10 (-shift).toNat)
    if digits = Nat.pow 10 (places + 1) then (Nat.pow 10 places, power + 1) else (digits, power)

/-- A quotient with one digit before the point and a number of places after it. -/
def scientific (number divisor places : Nat) : Written :=
  let (digits, power) := roundDigits number divisor places
  let digits := paddedDigits (places + 1) digits
  ⟨digits.take 1, digits.drop 1, some power⟩

/-- The least power of ten of a number that is written without one. -/
def leastPower : Int := -4

/-- A quotient with a number of digits, which is positive. -/
def general (number divisor digits : Nat) : Written :=
  let places := digits - 1
  let (rounded, power) := roundDigits number divisor places
  let written := paddedDigits digits rounded
  if power < leastPower ∨ digits ≤ power then ⟨written.take 1, written.drop 1, some power⟩
  else if power < 0 then ⟨['0'], List.replicate (-power - 1).toNat '0' ++ written, none⟩
  else ⟨written.take (power + 1).toNat, written.drop (power + 1).toNat, none⟩

/-- Padded digits reach their width. -/
theorem le_length_paddedDigits (width number : Nat) :
    width ≤ (paddedDigits width number).length := by
  simp only [paddedDigits, List.length_append, List.length_replicate]
  omega

/-- A fixed decimal has as many places as it was asked for. -/
theorem length_fraction_fixed (number divisor places : Nat) :
    (fixed number divisor places).fraction.length = places := by
  have wide := le_length_paddedDigits (places + 1) (roundEven (number * Nat.pow 10 places) divisor)
  simp only [fixed, List.length_drop]
  omega

end Lag.Number
