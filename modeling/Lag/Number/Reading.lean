import Lag.Number.Binary
import Lag.Text.Digit
import Lag.Text.Quoted
import Lag.Text.Ranges

/-!
# Reading numbers

A number may be surrounded by blanks and signed; its digits may be any decimal digits of Unicode,
with single underscores between them. An integer in base ten has at most 4300 digits; in base two,
eight and sixteen the letter of the base may stand before the digits. A float has digits before or
after a point, or both, and an optional exponent, or is one of the words `inf`, `infinity` and `nan`
in any case.
-/
namespace Lag.Number

/-- The greatest number of digits of an integer that is read or written. -/
def digitLimit : Nat := 4300

/-- Why a text is no number. -/
inductive ReadFault where
  /-- The text is no integer in a base. -/
  | notInteger (base : Nat) (text : String)
  /-- The text has more digits than an integer may have. -/
  | tooManyDigits (count : Nat)
  /-- The text is no float. -/
  | notFloat (text : String)
  deriving DecidableEq, Repr

/-- The wording of a fault. A long text is quoted up to its two hundredth character. -/
def ReadFault.message : ReadFault → String
  | .notInteger base text =>
    "invalid literal for int() with base " ++ toString base ++ ": " ++
      String.ofList ((Text.quoted text).toList.take 200)
  | .tooManyDigits count =>
    "Exceeds the limit (4300 digits) for integer string conversion: value has " ++
      toString count ++ " digits; use sys.set_int_max_str_digits() to increase the limit"
  | .notFloat text => "could not convert string to float: " ++ Text.quoted text

/-- The value of a digit in a base up to sixteen. -/
def digitIn? (base : Nat) (c : Char) : Option Nat :=
  let letter? :=
    if 'a' ≤ c ∧ c ≤ 'f' then some (c.toNat - 87)
    else if 'A' ≤ c ∧ c ≤ 'F' then some (c.toNat - 55)
    else none
  ((Text.decimalValue? c).or letter?).filter (· < base)

/-- Digits of a base with single underscores between them, from the front of a text: the values of
the digits and the rest. The flag says that an underscore was just read, so that a digit has to
follow. -/
def digitRun (base : Nat) : Bool → List Char → Option (List Nat × List Char)
  | owed, [] => if owed then none else some ([], [])
  | owed, c :: rest =>
    match digitIn? base c with
    | some value => (digitRun base false rest).map fun (values, left) => (value :: values, left)
    | none =>
      if owed then none
      else if c == '_' then digitRun base true rest
      else some ([], c :: rest)

/-- The digits at the front of a text; none when an underscore does not stand between two
digits. -/
def takeDigits (base : Nat) (text : List Char) : Option (List Nat × List Char) :=
  if text.head? = some '_' then none else digitRun base false text

/-- The number that digits of a base write. -/
def ofDigits (base : Nat) (values : List Nat) : Nat :=
  values.foldl (fun number value => number * base + value) 0

/-- Split off a sign: whether it was a minus, and the rest. -/
def takeSign : List Char → Bool × List Char
  | '-' :: rest => (true, rest)
  | '+' :: rest => (false, rest)
  | rest => (false, rest)

/-- The letter that may stand after a zero before the digits of a base. -/
def baseLetter? (base : Nat) : Option Char := [(2, 'b'), (8, 'o'), (16, 'x')].lookup base

/-- A text without the mark of a base. One underscore may follow the mark. -/
def dropBaseMark (base : Nat) : List Char → List Char
  | '0' :: mark :: rest =>
    if baseLetter? base = some mark.toLower then
      (if rest.head? = some '_' then rest.tail else rest)
    else '0' :: mark :: rest
  | text => text

/-- Read an integer in a base. -/
def readIntIn (base : Nat) (text : String) : Except ReadFault Int :=
  let (negative, body) := takeSign (Text.trim Text.isMargin text).toList
  match takeDigits base (dropBaseMark base body) with
  | none => .error (.notInteger base text)
  | some ([], _) => .error (.notInteger base text)
  | some (values, rest) =>
    if base = 10 ∧ digitLimit < values.length then .error (.tooManyDigits values.length)
    else if rest.isEmpty then
      .ok (if negative then -(ofDigits base values : Int) else ofDigits base values)
    else .error (.notInteger base text)

/-- Read an integer in base ten. -/
def readInt (text : String) : Except ReadFault Int := readIntIn 10 text

/-- The exponent at the end of a float, zero when there is none. -/
def takeExponent : List Char → Option Int
  | [] => some 0
  | mark :: rest =>
    if mark == 'e' || mark == 'E' then
      let (negative, body) := takeSign rest
      match takeDigits 10 body with
      | some (value :: values, []) =>
        let size := ofDigits 10 (value :: values)
        some (if negative then -(size : Int) else size)
      | _ => none
    else none

/-- The digits of a float and its power of ten. -/
def takeDecimal (body : List Char) : Option (Nat × Int) :=
  match takeDigits 10 body with
  | none => none
  | some (whole, '.' :: rest) =>
    match takeDigits 10 rest with
    | none => none
    | some (fraction, rest) =>
      if whole.isEmpty && fraction.isEmpty then none
      else (takeExponent rest).map fun power =>
        (ofDigits 10 (whole ++ fraction), power - fraction.length)
  | some ([], _) => none
  | some (whole, rest) => (takeExponent rest).map fun power => (ofDigits 10 whole, power)

/-- Read a float. -/
def readFloat (text : String) : Except ReadFault Float :=
  let (negative, body) := takeSign (Text.trim Text.isMargin text).toList
  let signed (x : Float) : Float := if negative then -x else x
  let word := String.ofList (body.map Char.toLower)
  if word = "inf" ∨ word = "infinity" then .ok (signed infinity)
  else if word = "nan" then .ok (0.0 / 0.0)
  else match takeDecimal body with
    | some (digits, power) => .ok (ofDecimal negative digits power)
    | none => .error (.notFloat text)

/-- The message about an integer that has too many digits to be written. -/
def tooLongToWrite : String :=
  "Exceeds the limit (4300 digits) for integer string conversion; " ++
    "use sys.set_int_max_str_digits() to increase the limit"

/-- The text of an integer; none when it has too many digits to be written. -/
def intText? (n : Int) : Option String :=
  if Nat.pow 10 digitLimit ≤ n.natAbs then none else some (toString n)

/-! ## The positive infinity

The positive infinity is the only float that equals it, so a literal whose value equals the
infinity may be written as the word that the infinity is read from. -/

open Float.Model

/-- The infinity is read from a word. -/
theorem readFloat_inf : readFloat "inf" = .ok infinity := by
  rfl

/-- No other parts equal those of the infinity. -/
theorem unpacked_eq_of_beq {parts : UnpackedFloat}
    (same : parts.beq (.infinity .positive) = true) : parts = .infinity .positive := by
  unfold UnpackedFloat.beq at same
  cases parts with
  | infinity sign =>
    cases sign with
    | positive => rfl
    | negative => exact absurd same (by decide)
  | notANumber => exact absurd same (by decide)
  | zero sign => exact Bool.noConfusion same
  | finite sign mantissa exponent positive => exact Bool.noConfusion same

/-- The bits of the infinity: no sign, all bits of the exponent, and none of the mantissa. -/
theorem bits_of_unpack {bits : BitVec 64}
    (unpacked : UnpackedFloat.unpack Format.binary64 bits = .infinity .positive) :
    bits = 0x7FF0000000000000#64 := by
  unfold UnpackedFloat.unpack at unpacked
  dsimp only at unpacked
  by_cases exponent : @UnpackedFloat.unpackExponent Format.binary64 bits = -1#_
  · rw [if_pos exponent] at unpacked
    by_cases mantissa : @UnpackedFloat.unpackMantissa Format.binary64 bits = 0#_
    · rw [if_pos mantissa] at unpacked
      have sign : @UnpackedFloat.unpackSign Format.binary64 bits = 0#1 := by
        have positive := UnpackedFloat.infinity.inj unpacked
        unfold UnpackedFloat.Sign.ofBitVec at positive
        split at positive
        · assumption
        · cases positive
      have signNat := congrArg BitVec.toNat sign
      have exponentNat := congrArg BitVec.toNat exponent
      have mantissaNat := congrArg BitVec.toNat mantissa
      unfold UnpackedFloat.unpackSign at signNat
      simp only [UnpackedFloat.unpackExponent, UnpackedFloat.unpackMantissa, BitVec.toNat_cast,
        BitVec.extractLsb_toNat, Nat.shiftRight_eq_div_pow] at signNat exponentNat mantissaNat
      have signPart : bits.toNat / 2 ^ 63 % 2 = 0 := signNat
      have exponentPart : bits.toNat / 2 ^ 52 % 2048 = 2047 := exponentNat
      have mantissaPart : bits.toNat / 1 % 2 ^ 52 = 0 := mantissaNat
      have size := bits.isLt
      apply BitVec.eq_of_toNat_eq
      show bits.toNat = 0x7FF0000000000000
      omega
    · rw [if_neg mantissa] at unpacked
      cases unpacked
  · rw [if_neg exponent] at unpacked
    by_cases least : @UnpackedFloat.unpackExponent Format.binary64 bits = 0#_
    · rw [if_pos least] at unpacked
      by_cases mantissa : @UnpackedFloat.unpackMantissa Format.binary64 bits = 0#_
      · rw [dif_pos mantissa] at unpacked
        cases unpacked
      · rw [dif_neg mantissa] at unpacked
        cases unpacked
    · rw [if_neg least] at unpacked
      cases unpacked

/-- A float that equals the infinity is the infinity. -/
theorem eq_infinity {value : Float} (same : (value == infinity) = true) : value = infinity := by
  obtain ⟨⟨bits, valid⟩⟩ := value
  have unpacked : UnpackedFloat.unpack Format.binary64 bits.toBitVec = .infinity .positive :=
    unpacked_eq_of_beq same
  have same := bits_of_unpack unpacked
  have is : bits = 0x7FF0000000000000 := UInt64.toBitVec_inj.1 same
  subst is
  rfl

end Lag.Number
