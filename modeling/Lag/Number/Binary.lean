/-!
# Floating point numbers as exact rationals

A finite float is a whole significand times a power of two. Every operation that mixes integers
and floats, or that core does not offer, is defined here on those two numbers: rounding a
quotient to the nearest float, comparing an integer with a float, the integer below a float, and
the remainder of two floats. Nothing passes through an inexact intermediate value.
-/
namespace Lag.Number

/-- A float taken apart. -/
inductive Parts where
  /-- A finite value: the significand times two to the exponent, with its sign. -/
  | finite (negative : Bool) (significand : Nat) (exponent : Int)
  /-- An infinity. -/
  | infinite (negative : Bool)
  /-- Not a number. -/
  | nan
  deriving DecidableEq, Repr

/-- The parts of a bit pattern. -/
def Parts.ofBits (bits : Nat) : Parts :=
  let negative := bits / Nat.pow 2 63 % 2 == 1
  let exponent : Nat := bits / Nat.pow 2 52 % Nat.pow 2 11
  let fraction := bits % Nat.pow 2 52
  if exponent = 2047 then
    if fraction = 0 then .infinite negative else .nan
  else if exponent = 0 then .finite negative fraction (-1074)
  else .finite negative (fraction + Nat.pow 2 52) ((exponent : Int) - 1075)

/-- The parts of a float. -/
def partsOf (x : Float) : Parts := Parts.ofBits x.toBits.toNat

/-- A positive quotient as a scaled quotient of whole numbers: `number * 2 ^ exponent / divisor`
for the exponent that leaves a significand of 53 bits, or the least exponent of a float. -/
structure Scaled where
  /-- The dividend. -/
  number : Nat
  /-- The divisor. -/
  divisor : Nat
  /-- The exponent taken out. -/
  exponent : Int
  deriving DecidableEq, Repr

/-- Two to a power times a number, for a negative power as a divisor. -/
def scale (number divisor : Nat) (exponent : Int) : Nat × Nat :=
  if 0 ≤ exponent then (number, divisor * Nat.pow 2 exponent.toNat)
  else (number * Nat.pow 2 (-exponent).toNat, divisor)

/-- The greatest exponent of two that is not above a positive quotient. -/
def binaryExponent (number divisor : Nat) : Int :=
  let guess : Int := (Nat.log2 number : Int) - Nat.log2 divisor
  let (n, d) := scale number divisor guess
  if d ≤ n then guess else guess - 1

/-- Take out the exponent of a positive quotient. -/
def Scaled.ofQuotient (number divisor : Nat) : Scaled :=
  let exponent := max (binaryExponent number divisor - 52) (-1074)
  let (n, d) := scale number divisor exponent
  ⟨n, d, exponent⟩

/-- The whole number nearest to a quotient; of two the even one. -/
def roundEven (number divisor : Nat) : Nat :=
  let whole := number / divisor
  let left := 2 * (number % divisor)
  if divisor < left ∨ (divisor = left ∧ whole % 2 = 1) then whole + 1 else whole

/-- The bit pattern of the float nearest to a quotient; none when it lies beyond all floats. -/
def bitsOfQuotient? (number divisor : Nat) : Option Nat :=
  if number = 0 then some 0
  else
    let scaled := Scaled.ofQuotient number divisor
    let bits := (scaled.exponent + 1074).toNat * Nat.pow 2 52 + roundEven scaled.number scaled.divisor
    if bits < 2047 * Nat.pow 2 52 then some bits else none

/-- The float nearest to a quotient with a sign; none when it lies beyond all floats. -/
def ofQuotient? (negative : Bool) (number divisor : Nat) : Option Float :=
  (bitsOfQuotient? number divisor).map fun bits =>
    Float.ofBits (UInt64.ofNat (bits + if negative then Nat.pow 2 63 else 0))

/-- The positive infinity. -/
def infinity : Float := Float.ofBits 0x7FF0000000000000

/-- The float nearest to an integer; none when it lies beyond all floats. -/
def ofInt? (n : Int) : Option Float := ofQuotient? (decide (n < 0)) n.natAbs 1

/-- The float nearest to `digits * 10 ^ exponent`, an infinity beyond all floats. The two
guards keep the power of ten small: past them the value is beyond the floats, or rounds to
zero. -/
def ofDecimal (negative : Bool) (digits : Nat) (exponent : Int) : Float :=
  let size : Int := (Nat.log2 digits : Int) * 30103 / 100000 + exponent
  let signed (x : Float) : Float := if negative then -x else x
  if digits = 0 then signed 0.0
  else if 400 < size then signed infinity
  else if size < -400 then signed 0.0
  else
    let rounded :=
      if 0 ≤ exponent then ofQuotient? negative (digits * Nat.pow 10 exponent.toNat) 1
      else ofQuotient? negative digits (Nat.pow 10 (-exponent).toNat)
    rounded.getD (signed infinity)

/-- The signed significand of parts. -/
def signedSignificand (negative : Bool) (significand : Nat) : Int :=
  if negative then -(significand : Int) else significand

/-- How an integer compares with a float; none when the float is not a number. -/
def compareInt? (n : Int) (x : Float) : Option Ordering :=
  match partsOf x with
  | .nan => none
  | .infinite negative => some (if negative then .gt else .lt)
  | .finite negative significand exponent =>
    let value := signedSignificand negative significand
    some (if 0 ≤ exponent then compare n (value * Int.pow 2 exponent.toNat)
      else compare (n * Int.pow 2 (-exponent).toNat) value)

/-- Why a float has no integer below it. -/
inductive FloorFault where
  /-- The float is infinite. -/
  | infinite
  /-- The float is not a number. -/
  | nan
  deriving DecidableEq, Repr

/-- The greatest integer that is not above a float. -/
def floorInt (x : Float) : Except FloorFault Int :=
  match partsOf x with
  | .nan => .error .nan
  | .infinite _ => .error .infinite
  | .finite negative significand exponent =>
    let value := signedSignificand negative significand
    .ok (if 0 ≤ exponent then value * Int.pow 2 exponent.toNat
      else Int.fdiv value (Int.pow 2 (-exponent).toNat))

/-- The exact remainder of two floats, with the sign of the first. The divisor is not zero. -/
def truncatedRemainder (x y : Float) : Float :=
  match partsOf x, partsOf y with
  | .finite negative sx ex, .finite _ sy ey =>
    let exponent := min ex ey
    let left := sx * Nat.pow 2 (ex - exponent).toNat % (sy * Nat.pow 2 (ey - exponent).toNat)
    let rounded :=
      if 0 ≤ exponent then ofQuotient? negative (left * Nat.pow 2 exponent.toNat) 1
      else ofQuotient? negative left (Nat.pow 2 (-exponent).toNat)
    rounded.getD x
  | .finite _ _ _, .infinite _ => x
  | _, _ => 0.0 / 0.0

/-- Whether a float has its sign bit set. -/
def hasSign (x : Float) : Bool := x.toBits.toNat / Nat.pow 2 63 == 1

/-- A zero with the sign of a float. -/
def zeroLike (x : Float) : Float := if hasSign x then -0.0 else 0.0

/-- The remainder of two floats with the sign of the divisor, which is not zero. -/
def floorRemainder (x y : Float) : Float :=
  let left := truncatedRemainder x y
  if left == 0.0 then zeroLike y
  else if decide (y < 0.0) != decide (left < 0.0) then left + y
  else left

/-- The greatest whole float that is not above the quotient of two floats, up to the rounding of
the division; the divisor is not zero. -/
def floorQuotient (x y : Float) : Float :=
  let left := truncatedRemainder x y
  let quotient := (x - left) / y
  let quotient :=
    if left == 0.0 then quotient
    else if decide (y < 0.0) != decide (left < 0.0) then quotient - 1.0
    else quotient
  if quotient == 0.0 then zeroLike (x / y)
  else
    let whole := quotient.floor
    if 0.5 < quotient - whole then whole + 1.0 else whole

/-- Rounding an exact quotient returns it. -/
theorem roundEven_of_dvd (number divisor : Nat) (exact : number % divisor = 0) :
    roundEven number divisor = number / divisor := by
  have positive : ¬ (divisor < 0) := by omega
  unfold roundEven
  simp only [exact, Nat.mul_zero]
  split
  · rename_i h
    rcases h with h | ⟨h, odd⟩
    · omega
    · subst h; simp at odd
  · rfl

/-- Rounding a quotient moves it by at most one half. -/
theorem roundEven_bounds (number divisor : Nat) (positive : 0 < divisor) :
    2 * number ≤ 2 * (roundEven number divisor * divisor) + divisor ∧
      2 * (roundEven number divisor * divisor) ≤ 2 * number + divisor := by
  have whole := Nat.div_add_mod number divisor
  have below := Nat.mod_lt number positive
  rw [Nat.mul_comm] at whole
  unfold roundEven
  simp only
  split
  · rename_i h
    rw [Nat.add_mul, Nat.one_mul]
    omega
  · rename_i h
    omega

end Lag.Number
