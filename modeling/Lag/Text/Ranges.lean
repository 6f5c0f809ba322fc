/-!
# Sets of code points

A character class of the Unicode character database is stored as an ascending list of closed
ranges. Membership walks the list and stops at the first range that starts above the code point,
so the common characters, which come first, are decided at once.

The first such class are the blank characters, which are stripped from both ends of a text before a
value is read from it: the Unicode separators and the control characters of the bidirectional
classes WS, B and S.
-/
namespace Lag.Text

/-- A set of code points: closed ranges, ascending and disjoint. -/
abbrev Ranges := List (Nat × Nat)

/-- Whether a code point lies in one of the ranges. -/
def Ranges.contains : Ranges → Nat → Bool
  | [], _ => false
  | (low, high) :: rest, code =>
    decide (low ≤ code) && (decide (code ≤ high) || Ranges.contains rest code)

/-- The empty set contains nothing. -/
@[simp] theorem Ranges.contains_nil (code : Nat) : Ranges.contains [] code = false := rfl

/-- A member of a set lies between the ends of one of its ranges. -/
theorem Ranges.exists_of_contains {ranges : Ranges} {code : Nat}
    (member : ranges.contains code = true) :
    ∃ range ∈ ranges, range.1 ≤ code ∧ code ≤ range.2 := by
  induction ranges with
  | nil => simp at member
  | cons range rest ih =>
    obtain ⟨low, high⟩ := range
    simp only [Ranges.contains, Bool.and_eq_true, Bool.or_eq_true, decide_eq_true_eq] at member
    obtain ⟨above, below | later⟩ := member
    · exact ⟨(low, high), by simp, above, below⟩
    · obtain ⟨found, inRest, bounds⟩ := ih later
      exact ⟨found, by simp [inRest], bounds⟩

/-! ## Blank characters -/

/-- The blank characters of Unicode 14. -/
def blankRanges : Ranges := [
  (0x9, 0xD), (0x1C, 0x20), (0x85, 0x85), (0xA0, 0xA0), (0x1680, 0x1680), (0x2000, 0x200A),
  (0x2028, 0x2029), (0x202F, 0x202F), (0x205F, 0x205F), (0x3000, 0x3000)]

/-- Whether a character is blank. -/
def isBlank (c : Char) : Bool := blankRanges.contains c.toNat

/-- Whether a character is a separator of information: four control characters, which are blank
but do not set a number apart. -/
def isSeparator (c : Char) : Bool := decide (0x1C ≤ c.toNat) && decide (c.toNat ≤ 0x1F)

/-- Whether a character may stand around a number. -/
def isMargin (c : Char) : Bool := isBlank c && !isSeparator c

/-- A text without the characters of a kind at its two ends. -/
def trim (kind : Char → Bool) (text : String) : String :=
  String.ofList ((text.toList.dropWhile kind).reverse.dropWhile kind).reverse

/-- A text without the blank characters at its two ends. -/
def trimBlank (text : String) : String := trim isBlank text

/-- Every blank character of the core library is blank here. -/
theorem isBlank_of_isWhitespace {c : Char} (blank : c.isWhitespace = true) : isBlank c = true := by
  simp only [Char.isWhitespace, Bool.or_eq_true, decide_eq_true_eq] at blank
  rcases blank with ((rfl | rfl) | rfl) | rfl <;> decide

end Lag.Text
