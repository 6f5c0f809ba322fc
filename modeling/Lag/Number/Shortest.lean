import Lag.Number.Binary

/-!
# The shortest decimal of a float

A finite float is written with the fewest digits that read back as it, and of those the nearest
to it. The reals that round to a float form an interval around it, with its ends when the
significand is even. For one digit, two digits and so on, the two points of that decimal grid
around the value are tested; the first grid with a point in the interval wins.

The digits stand in full from `0.0001` up to below `1e16` and with an exponent of at least two
digits outside; a whole value keeps one decimal place.
-/
namespace Lag.Number

/-- A decimal: whole digits times a power of ten. -/
structure Decimal where
  /-- The digits. -/
  digits : Nat
  /-- The power of ten. -/
  exponent : Int
  deriving DecidableEq, Repr

/-- The reals that round to a float, around its value, all in units of `1 / divisor`. -/
structure Rounding where
  /-- The least of them. -/
  low : Nat
  /-- The value. -/
  value : Nat
  /-- The greatest of them. -/
  high : Nat
  /-- The unit's divisor. -/
  divisor : Nat
  /-- Whether the two ends belong to the interval. -/
  closed : Bool
  deriving DecidableEq, Repr

/-- The reals that round to a positive float. A significand that is a power of two has its lower
neighbour at half the distance. -/
def Rounding.of (significand : Nat) (exponent : Int) : Rounding :=
  let below := if significand = Nat.pow 2 52 ∧ -1074 < exponent then 1 else 2
  let shift := exponent - 2
  let factor := Nat.pow 2 shift.toNat
  { low := (4 * significand - below) * factor
    value := 4 * significand * factor
    high := (4 * significand + 2) * factor
    divisor := Nat.pow 2 (-shift).toNat
    closed := significand % 2 == 0 }

/-- Whether a decimal rounds to the float. -/
def Rounding.admits (r : Rounding) (d : Decimal) : Bool :=
  let point := d.digits * Nat.pow 10 d.exponent.toNat * r.divisor
  let unit := Nat.pow 10 (-d.exponent).toNat
  if r.closed then decide (r.low * unit ≤ point) && decide (point ≤ r.high * unit)
  else decide (r.low * unit < point) && decide (point < r.high * unit)

/-- The two neighbours of the value on the grid of a power of ten, the nearer first; of two at
one distance the even one. -/
def Rounding.neighbours (r : Rounding) (exponent : Int) : List Decimal :=
  let number := r.value * Nat.pow 10 (-exponent).toNat
  let divisor := r.divisor * Nat.pow 10 exponent.toNat
  let below := number / divisor
  let left := 2 * (number % divisor)
  let lower : Decimal := ⟨below, exponent⟩
  let upper : Decimal := ⟨below + 1, exponent⟩
  if left < divisor ∨ (left = divisor ∧ below % 2 = 0) then [lower, upper] else [upper, lower]

/-- The greatest power of ten that is not above a positive quotient. -/
def decimalExponent (number divisor : Nat) : Int :=
  let guess : Int := ((Nat.log2 number : Int) - Nat.log2 divisor) * 30103 / 100000
  let reaches (power : Int) : Bool :=
    decide (divisor * Nat.pow 10 power.toNat ≤ number * Nat.pow 10 (-power).toNat)
  ([guess + 2, guess + 1, guess, guess - 1].find? reaches).getD (guess - 2)

/-- The greatest power of ten that is not above the value. -/
def Rounding.magnitude (r : Rounding) : Int := decimalExponent r.value r.divisor

/-- The first decimal of the grids that rounds to the float, from the coarsest grid on. -/
def Rounding.search (r : Rounding) : Nat → Int → Option Decimal
  | 0, _ => none
  | more + 1, exponent =>
    match (r.neighbours exponent).find? r.admits with
    | some found => some found
    | none => r.search more (exponent - 1)

/-- A decimal without the zeros at its end; the first argument bounds their number. -/
def Decimal.strip : Nat → Decimal → Decimal
  | 0, d => d
  | bound + 1, d =>
    if d.digits % 10 = 0 ∧ d.digits ≠ 0 then strip bound ⟨d.digits / 10, d.exponent + 1⟩ else d

/-- The shortest decimal that reads back as a positive float. -/
def shortest (significand : Nat) (exponent : Int) : Decimal :=
  let rounding := Rounding.of significand exponent
  ((rounding.search 17 rounding.magnitude).getD ⟨significand, exponent⟩).strip 20

/-- Digits before the decimal point at which positional notation starts. -/
def leastPoint : Int := -3

/-- Digits before the decimal point at which positional notation ends. -/
def greatestPoint : Int := 16

/-- Two digits at least. -/
def twoDigits (n : Nat) : String :=
  if n < 10 then "0" ++ toString n else toString n

/-- A decimal in positional or in exponent notation. -/
def Decimal.toText (d : Decimal) : String :=
  let digits := (toString d.digits).toList
  let point := digits.length + d.exponent
  if leastPoint ≤ point ∧ point ≤ greatestPoint then
    if point ≤ 0 then
      "0." ++ String.ofList (List.replicate (-point).toNat '0' ++ digits)
    else if point < digits.length then
      String.ofList (digits.take point.toNat) ++ "." ++ String.ofList (digits.drop point.toNat)
    else String.ofList (digits ++ List.replicate d.exponent.toNat '0') ++ ".0"
  else
    let fraction := digits.drop 1
    let mantissa := String.ofList (digits.take 1) ++
      (if fraction.isEmpty then "" else "." ++ String.ofList fraction)
    let power := point - 1
    mantissa ++ "e" ++ (if power < 0 then "-" else "+") ++ twoDigits power.natAbs

/-- The text of a float. -/
def floatText (x : Float) : String :=
  match partsOf x with
  | .nan => "nan"
  | .infinite negative => if negative then "-inf" else "inf"
  | .finite negative significand exponent =>
    (if negative then "-" else "") ++
      (if significand = 0 then "0.0" else (shortest significand exponent).toText)

end Lag.Number
