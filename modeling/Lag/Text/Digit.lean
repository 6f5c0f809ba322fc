import Lag.Text.Letter

/-!
# Digits

Unicode gives a digit value to two kinds of characters. A decimal digit takes part in positional
numerals; the decimal digits come in runs of ten, from a zero. The other digits (superscripts,
circled digits and the like) have a value but no place in a numeral. Both kinds count as digits
when a number is scanned, and only the first kind can be converted, which is why `isDigit` and
`decimalValue?` are different functions.
-/
namespace Lag.Text

/-- The zeros of the runs of ten decimal digits of Unicode 14. -/
def decimalZeros : List Nat := [
  0x30, 0x660, 0x6F0, 0x7C0, 0x966, 0x9E6, 0xA66, 0xAE6, 0xB66, 0xBE6, 0xC66, 0xCE6, 0xD66, 0xDE6,
  0xE50, 0xED0, 0xF20, 0x1040, 0x1090, 0x17E0, 0x1810, 0x1946, 0x19D0, 0x1A80, 0x1A90, 0x1B50,
  0x1BB0, 0x1C40, 0x1C50, 0xA620, 0xA8D0, 0xA900, 0xA9D0, 0xA9F0, 0xAA50, 0xABF0, 0xFF10, 0x104A0,
  0x10D30, 0x11066, 0x110F0, 0x11136, 0x111D0, 0x112F0, 0x11450, 0x114D0, 0x11650, 0x116C0, 0x11730,
  0x118E0, 0x11950, 0x11C50, 0x11D50, 0x11DA0, 0x16A60, 0x16AC0, 0x16B50, 0x1D7CE, 0x1D7D8, 0x1D7E2,
  0x1D7EC, 0x1D7F6, 0x1E140, 0x1E2F0, 0x1E950, 0x1FBF0]

/-- The characters of Unicode 14 that have a digit value and are no decimal digits. -/
def otherDigitRanges : Ranges := [
  (0xB2, 0xB3), (0xB9, 0xB9), (0x1369, 0x1371), (0x19DA, 0x19DA), (0x2070, 0x2070),
  (0x2074, 0x2079), (0x2080, 0x2089), (0x2460, 0x2468), (0x2474, 0x247C), (0x2488, 0x2490),
  (0x24EA, 0x24EA), (0x24F5, 0x24FD), (0x24FF, 0x24FF), (0x2776, 0x277E), (0x2780, 0x2788),
  (0x278A, 0x2792), (0x10A40, 0x10A43), (0x10E60, 0x10E68), (0x11052, 0x1105A), (0x1F100, 0x1F10A)]

/-- The characters of Unicode 14 that have a numeric value and are neither digits nor letters. -/
def numeralRanges : Ranges := [
  (0xBC, 0xBE), (0x9F4, 0x9F9), (0xB72, 0xB77), (0xBF0, 0xBF2), (0xC78, 0xC7E), (0xD58, 0xD5E),
  (0xD70, 0xD78), (0xF2A, 0xF33), (0x1372, 0x137C), (0x16EE, 0x16F0), (0x17F0, 0x17F9),
  (0x2150, 0x2182), (0x2185, 0x2189), (0x2469, 0x2473), (0x247D, 0x2487), (0x2491, 0x249B),
  (0x24EB, 0x24F4), (0x24FE, 0x24FE), (0x277F, 0x277F), (0x2789, 0x2789), (0x2793, 0x2793),
  (0x2CFD, 0x2CFD), (0x3007, 0x3007), (0x3021, 0x3029), (0x3038, 0x303A), (0x3192, 0x3195),
  (0x3220, 0x3229), (0x3248, 0x324F), (0x3251, 0x325F), (0x3280, 0x3289), (0x32B1, 0x32BF),
  (0xA6E6, 0xA6EF), (0xA830, 0xA835), (0x10107, 0x10133), (0x10140, 0x10178), (0x1018A, 0x1018B),
  (0x102E1, 0x102FB), (0x10320, 0x10323), (0x10341, 0x10341), (0x1034A, 0x1034A),
  (0x103D1, 0x103D5), (0x10858, 0x1085F), (0x10879, 0x1087F), (0x108A7, 0x108AF),
  (0x108FB, 0x108FF), (0x10916, 0x1091B), (0x109BC, 0x109BD), (0x109C0, 0x109CF),
  (0x109D2, 0x109FF), (0x10A44, 0x10A48), (0x10A7D, 0x10A7E), (0x10A9D, 0x10A9F),
  (0x10AEB, 0x10AEF), (0x10B58, 0x10B5F), (0x10B78, 0x10B7F), (0x10BA9, 0x10BAF),
  (0x10CFA, 0x10CFF), (0x10E69, 0x10E7E), (0x10F1D, 0x10F26), (0x10F51, 0x10F54),
  (0x10FC5, 0x10FCB), (0x1105B, 0x11065), (0x111E1, 0x111F4), (0x1173A, 0x1173B),
  (0x118EA, 0x118F2), (0x11C5A, 0x11C6C), (0x11FC0, 0x11FD4), (0x12400, 0x1246E),
  (0x16B5B, 0x16B61), (0x16E80, 0x16E96), (0x1D2E0, 0x1D2F3), (0x1D360, 0x1D378),
  (0x1E8C7, 0x1E8CF), (0x1EC71, 0x1ECAB), (0x1ECAD, 0x1ECAF), (0x1ECB1, 0x1ECB4),
  (0x1ED01, 0x1ED2D), (0x1ED2F, 0x1ED3D), (0x1F10B, 0x1F10C)]

/-- The zero of the run of ten that holds a code point, among ascending zeros. -/
def zeroOf? : List Nat → Nat → Option Nat
  | [], _ => none
  | first :: rest, code =>
    if code < first then none else if code < first + 10 then some first else zeroOf? rest code

/-- The value of a decimal digit. -/
def decimalValue? (c : Char) : Option Nat :=
  (zeroOf? decimalZeros c.toNat).map (c.toNat - ·)

/-- Whether a character is a decimal digit. -/
def isDecimal (c : Char) : Bool := (decimalValue? c).isSome

/-- Whether a character has a digit value. -/
def isDigit (c : Char) : Bool := isDecimal c || otherDigitRanges.contains c.toNat

/-- Whether a character is a letter, a digit or another numeral. -/
def isAlphanumeric (c : Char) : Bool :=
  isLetter c || isDigit c || numeralRanges.contains c.toNat

/-- A zero found for a code point is at most the code point and less than ten below it. -/
theorem zeroOf?_bounds {zeros : List Nat} {code start : Nat}
    (found : zeroOf? zeros code = some start) :
    start ≤ code ∧ code < start + 10 := by
  induction zeros with
  | nil => simp [zeroOf?] at found
  | cons head rest ih =>
    unfold zeroOf? at found
    split at found
    · simp at found
    · split at found
      · cases found; omega
      · exact ih found

/-- The value of a decimal digit is a single digit. -/
theorem decimalValue?_lt {c : Char} {value : Nat} (found : decimalValue? c = some value) :
    value < 10 := by
  unfold decimalValue? at found
  cases run : zeroOf? decimalZeros c.toNat with
  | none => simp [run] at found
  | some start =>
    have bounds := zeroOf?_bounds run
    simp only [run, Option.map_some, Option.some.injEq] at found
    omega

/-- Every digit is alphanumeric. -/
theorem isAlphanumeric_of_isDigit {c : Char} (digit : isDigit c = true) :
    isAlphanumeric c = true := by
  simp [isAlphanumeric, digit]

/-- Every letter is alphanumeric. -/
theorem isAlphanumeric_of_isLetter {c : Char} (letter : isLetter c = true) :
    isAlphanumeric c = true := by
  simp [isAlphanumeric, letter]

end Lag.Text
