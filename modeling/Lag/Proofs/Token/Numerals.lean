import Lag.Proofs.Token.Consumed
import Mathlib.Tactic.IntervalCases

/-!
# Numerals that cannot be converted

A numeral is scanned with every character that has a digit value, and converted with decimal digits
only. So the conversion of an integer or a float fails only if a digit is not a decimal one, and
that of an integer also if there are too many digits. There is no other reason.
-/
namespace Lag

namespace Text

/-- No blank character is a decimal digit. -/
theorem isDecimal_of_isBlank {c : Char} (blank : isBlank c = true) : isDecimal c = false := by
  obtain ⟨range, inside, low, high⟩ := Ranges.exists_of_contains blank
  unfold isDecimal decimalValue?
  generalize c.toNat = code at low high
  simp only [blankRanges, List.mem_cons, List.not_mem_nil, or_false] at inside
  rcases inside with rfl | rfl | rfl | rfl | rfl | rfl | rfl | rfl | rfl | rfl <;>
    · dsimp only at low high
      interval_cases code <;> rfl

/-- A text whose ends are kept is not trimmed. -/
theorem trim_of_forall {kind : Char → Bool} {text : List Char}
    (kept : ∀ c ∈ text, kind c = false) : trim kind (String.ofList text) = String.ofList text := by
  have front : ∀ chars : List Char, (∀ c ∈ chars, kind c = false) →
      chars.dropWhile kind = chars := by
    intro chars kept
    cases chars with
    | nil => rfl
    | cons c rest => rw [List.dropWhile_cons_of_neg (by simp [kept c])]
  unfold trim
  rw [String.toList_ofList, front text kept, front _ (by simpa using kept), List.reverse_reverse]

end Text

namespace Number

/-- A decimal digit is a digit in base ten. -/
theorem digitIn?_of_isDecimal {c : Char} (decimal : Text.isDecimal c = true) :
    ∃ value, digitIn? 10 c = some value := by
  obtain ⟨value, found⟩ := Option.isSome_iff_exists.1 decimal
  have small := Text.decimalValue?_lt found
  refine ⟨value, ?_⟩
  unfold digitIn?
  simp [found, small]

/-- A character that ends a run of digits. -/
def EndsRun (c : Char) : Prop := digitIn? 10 c = none ∧ c ≠ '_'

/-- Decimal digits are read up to the character that ends them. -/
theorem digitRun_append {digits rest : List Char}
    (decimal : ∀ c ∈ digits, Text.isDecimal c = true) (ends : ∀ c ∈ rest.head?, EndsRun c) :
    ∃ values : List Nat, values.length = digits.length ∧
      digitRun 10 false (digits ++ rest) = some (values, rest) := by
  induction digits with
  | nil =>
    refine ⟨[], rfl, ?_⟩
    cases rest with
    | nil => rfl
    | cons c more =>
      obtain ⟨noDigit, noScore⟩ := ends c rfl
      simp [digitRun, noDigit, noScore]
  | cons c more ih =>
    obtain ⟨value, is⟩ := digitIn?_of_isDecimal (decimal c List.mem_cons_self)
    obtain ⟨values, size, reads⟩ := ih fun other later => decimal other (List.mem_cons_of_mem _ later)
    refine ⟨value :: values, by simp [size], ?_⟩
    rw [List.cons_append, digitRun, is]
    simp [reads]

/-- No decimal digit is an underscore. -/
theorem ne_underscore {c : Char} (decimal : Text.isDecimal c = true) : c ≠ '_' := by
  rintro rfl
  exact absurd decimal (by decide)

/-- Decimal digits are taken up to the character that ends them. -/
theorem takeDigits_append {digits rest : List Char}
    (decimal : ∀ c ∈ digits, Text.isDecimal c = true) (ends : ∀ c ∈ rest.head?, EndsRun c) :
    ∃ values : List Nat, values.length = digits.length ∧
      takeDigits 10 (digits ++ rest) = some (values, rest) := by
  obtain ⟨values, size, reads⟩ := digitRun_append decimal ends
  refine ⟨values, size, ?_⟩
  unfold takeDigits
  rw [if_neg, reads]
  intro first
  cases digits with
  | nil => exact (ends '_' first).2 rfl
  | cons c more =>
    obtain rfl : c = '_' := by simpa using first
    exact ne_underscore (decimal '_' List.mem_cons_self) rfl

/-- Decimal digits are taken up to the end of the text. -/
theorem takeDigits_self {digits : List Char} (decimal : ∀ c ∈ digits, Text.isDecimal c = true) :
    ∃ values : List Nat, values.length = digits.length ∧
      takeDigits 10 digits = some (values, []) := by
  have ends : ∀ c ∈ ([] : List Char).head?, EndsRun c := fun _ inside => nomatch inside
  have whole := takeDigits_append decimal ends
  rwa [List.append_nil] at whole

/-- A decimal digit is no sign. -/
theorem takeSign_of_isDecimal {c : Char} {rest : List Char} (decimal : Text.isDecimal c = true) :
    takeSign (c :: rest) = (false, c :: rest) := by
  unfold takeSign
  split
  · rename_i same
    cases same
    exact absurd decimal (by decide)
  · rename_i same
    cases same
    exact absurd decimal (by decide)
  · rfl

/-- A decimal digit is no margin. -/
theorem isMargin_of_isDecimal {c : Char} (decimal : Text.isDecimal c = true) :
    Text.isMargin c = false := by
  refine Bool.eq_false_iff.2 fun margin => ?_
  unfold Text.isMargin at margin
  rw [Bool.and_eq_true] at margin
  have other := Text.isDecimal_of_isBlank margin.1
  rw [decimal] at other
  cases other

/-- Base ten has no mark. -/
theorem dropBaseMark_ten (text : List Char) : dropBaseMark 10 text = text := by
  unfold dropBaseMark
  split
  · rw [if_neg]
    intro mark
    cases mark
  · rfl

/-- A text of decimal digits, not too many, is an integer. -/
theorem readInt_ok {digits : List Char} (some : digits ≠ [])
    (decimal : ∀ c ∈ digits, Text.isDecimal c = true) (short : digits.length ≤ digitLimit) :
    ∃ value, readInt (String.ofList digits) = .ok value := by
  obtain ⟨first, rest, rfl⟩ := List.exists_cons_of_ne_nil some
  obtain ⟨values, size, reads⟩ := takeDigits_self decimal
  have trimmed := Text.trim_of_forall fun c inside => isMargin_of_isDecimal (decimal c inside)
  obtain ⟨value, others, rfl⟩ : ∃ value others, values = value :: others := by
    cases values with
    | nil => cases size
    | cons value others => exact ⟨value, others, rfl⟩
  apply Exists.intro
  unfold readInt readIntIn
  rw [trimmed, String.toList_ofList, takeSign_of_isDecimal (decimal first List.mem_cons_self)]
  dsimp only
  rw [dropBaseMark_ten, reads]
  dsimp only
  rw [if_neg (by rw [size]; omega)]
  rfl

/-- The end of a float: nothing, or an exponent with digits. -/
inductive Exponent : List Char → Prop
  | none : Exponent []
  | some {mark : Char} {sign power : List Char} :
    mark = 'e' ∨ mark = 'E' → sign = [] ∨ sign = ['+'] ∨ sign = ['-'] → power ≠ [] →
    (∀ c ∈ power, Text.isDecimal c = true) → Exponent (mark :: (sign ++ power))

/-- The end of a float ends a run of digits. -/
theorem Exponent.ends {tail : List Char} (exponent : Exponent tail) :
    ∀ c ∈ tail.head?, EndsRun c := by
  cases exponent with
  | none => exact fun _ inside => nomatch inside
  | some is =>
    intro c inside
    obtain rfl : _ = c := by simpa using inside
    rcases is with rfl | rfl <;> exact ⟨by decide, by decide⟩

/-- The end of a float is an exponent. -/
theorem Exponent.reads {tail : List Char} (exponent : Exponent tail) :
    ∃ power, takeExponent tail = .some power := by
  cases exponent with
  | none => exact ⟨0, rfl⟩
  | @some mark sign power is signs some decimal =>
    obtain ⟨first, rest, rfl⟩ := List.exists_cons_of_ne_nil some
    have split : ∃ negative, takeSign (sign ++ first :: rest) = (negative, first :: rest) := by
      rcases signs with rfl | rfl | rfl
      · exact ⟨false, takeSign_of_isDecimal (decimal first List.mem_cons_self)⟩
      · exact ⟨false, rfl⟩
      · exact ⟨true, rfl⟩
    obtain ⟨negative, split⟩ := split
    obtain ⟨values, size, reads⟩ := takeDigits_self decimal
    obtain ⟨value, others, rfl⟩ : ∃ value others, values = value :: others := by
      cases values with
      | nil => cases size
      | cons value others => exact ⟨value, others, rfl⟩
    have marked : (mark == 'e' || mark == 'E') = true := by rcases is with rfl | rfl <;> rfl
    apply Exists.intro
    unfold takeExponent
    dsimp only
    rw [if_pos marked, split]
    dsimp only
    rw [reads]

/-- Digits with an end of a float are a float. -/
theorem takeDecimal_whole {whole tail : List Char} (some : whole ≠ [])
    (decimal : ∀ c ∈ whole, Text.isDecimal c = true) (exponent : Exponent tail) :
    ∃ result, takeDecimal (whole ++ tail) = .some result := by
  obtain ⟨values, size, reads⟩ := takeDigits_append decimal exponent.ends
  obtain ⟨power, exponentReads⟩ := exponent.reads
  obtain ⟨value, others, rfl⟩ : ∃ value others, values = value :: others := by
    cases values with
    | nil => exact absurd (List.length_eq_zero_iff.1 size.symm) some
    | cons value others => exact ⟨value, others, rfl⟩
  have noPoint : ∀ rest, tail ≠ '.' :: rest := by
    rintro rest rfl
    cases exponent with
    | some is => rcases is with is | is <;> cases is
  unfold takeDecimal
  rw [reads]
  split
  · rename_i impossible
    cases impossible
  · rename_i rest same
    cases same
    exact absurd rfl (noPoint rest)
  · rename_i same
    cases same
  · rename_i same
    cases same
    exact ⟨_, by rw [exponentReads]; rfl⟩

/-- Digits with a fraction and an end of a float are a float. -/
theorem takeDecimal_fraction {whole digits tail : List Char} (some : whole ≠ [])
    (decimal : ∀ c ∈ whole, Text.isDecimal c = true)
    (decimals : ∀ c ∈ digits, Text.isDecimal c = true) (exponent : Exponent tail) :
    ∃ result, takeDecimal (whole ++ '.' :: (digits ++ tail)) = .some result := by
  have point : ∀ c ∈ ('.' :: (digits ++ tail)).head?, EndsRun c := by
    intro c inside
    obtain rfl : '.' = c := by simpa using inside
    exact ⟨by decide, by decide⟩
  obtain ⟨values, size, reads⟩ := takeDigits_append decimal point
  obtain ⟨decimalValues, _, decimalReads⟩ := takeDigits_append decimals exponent.ends
  obtain ⟨power, exponentReads⟩ := exponent.reads
  obtain ⟨value, others, rfl⟩ : ∃ value others, values = value :: others := by
    cases values with
    | nil => exact absurd (List.length_eq_zero_iff.1 size.symm) some
    | cons value others => exact ⟨value, others, rfl⟩
  unfold takeDecimal
  rw [reads]
  simp [decimalReads, exponentReads]

/-- The characters of numerals. -/
def isNumeral (c : Char) : Bool := Text.isDecimal c || ['.', 'e', 'E', '+', '-'].contains c

/-- The characters of numerals are no margins. -/
theorem isMargin_of_isNumeral {c : Char} (numeral : isNumeral c = true) :
    Text.isMargin c = false := by
  unfold isNumeral at numeral
  rw [Bool.or_eq_true] at numeral
  rcases numeral with decimal | other
  · exact isMargin_of_isDecimal decimal
  · have listed : ['.', 'e', 'E', '+', '-'].all (!Text.isMargin ·) = true := by decide
    exact Bool.not_eq_true' _ ▸ List.all_eq_true.1 listed c (List.contains_iff_mem.1 other)

/-- A text that reads as a decimal is a float. -/
theorem readFloat_ok {c : Char} {rest : List Char} (decimal : Text.isDecimal c = true)
    (numeral : ∀ d ∈ c :: rest, isNumeral d = true) {result : Nat × Int}
    (reads : takeDecimal (c :: rest) = .some result) :
    ∃ value, readFloat (String.ofList (c :: rest)) = .ok value := by
  have trimmed := Text.trim_of_forall fun d inside => isMargin_of_isNumeral (numeral d inside)
  unfold readFloat
  rw [trimmed, String.toList_ofList, takeSign_of_isDecimal decimal]
  dsimp only
  split
  · exact ⟨_, rfl⟩
  · split
    · exact ⟨_, rfl⟩
    · rw [reads]
      exact ⟨_, rfl⟩

end Number

namespace Scan

/-- A numeral that cannot be converted: a digit in it is not a decimal one, or it is an integer with
too many digits. -/
def Unreadable (lexeme : List Char) : Prop :=
  (∃ c ∈ lexeme, Text.isDigit c = true ∧ Text.isDecimal c = false) ∨
    (∀ c ∈ lexeme, Text.isDigit c = true) ∧ Number.digitLimit < lexeme.length

/-- The mark of an exponent is one of six, or there is none. -/
theorem exponentHead_cases (text : List Char) :
    exponentHead text = [] ∨ ∃ mark sign, exponentHead text = mark :: sign ∧
      (mark = 'e' ∨ mark = 'E') ∧ (sign = [] ∨ sign = ['+'] ∨ sign = ['-']) := by
  unfold exponentHead
  split <;> simp

/-- A fraction is a point with digits, or there is none. -/
theorem fraction_cases (text : List Char) :
    fraction text = [] ∨ ∃ digits, fraction text = '.' :: digits ∧
      ∀ c ∈ digits, Text.isDigit c = true := by
  unfold fraction
  split
  · split
    · exact .inr ⟨_, rfl, fun c inside => List.all_eq_true.1 List.all_takeWhile c inside⟩
    · exact .inl rfl
  · exact .inl rfl

/-- Digits that are all decimal in a lexeme that can be converted. -/
theorem decimal_of_readable {lexeme digits : List Char}
    (readable : ∀ c ∈ lexeme, Text.isDigit c = true → Text.isDecimal c = true)
    (part : ∀ c ∈ digits, c ∈ lexeme) (digit : ∀ c ∈ digits, Text.isDigit c = true) :
    ∀ c ∈ digits, Text.isDecimal c = true :=
  fun c inside => readable c (part c inside) (digit c inside)

/-- The digits before the point have digit values. -/
theorem digit_of_whole (text : List Char) : ∀ c ∈ (parts text).whole, Text.isDigit c = true :=
  fun c inside => List.all_eq_true.1 List.all_takeWhile c inside

/-- The digits of the exponent have digit values. -/
theorem digit_of_power (text : List Char) : ∀ c ∈ (parts text).power, Text.isDigit c = true :=
  fun c inside => List.all_eq_true.1 List.all_takeWhile c inside

/-- Decimal digits are characters of numerals. -/
theorem numeral_of_decimal {digits : List Char} (decimal : ∀ c ∈ digits, Text.isDecimal c = true) :
    ∀ c ∈ digits, Number.isNumeral c = true :=
  fun c inside => by simp [Number.isNumeral, decimal c inside]

/-- The end of a float has characters of numerals only. -/
theorem numeral_of_exponent {tail : List Char} (exponent : Number.Exponent tail) :
    ∀ c ∈ tail, Number.isNumeral c = true := by
  cases exponent with
  | none => exact fun _ inside => nomatch inside
  | some is signs _ decimal =>
    intro c inside
    rcases List.mem_cons.1 inside with rfl | later
    · rcases is with rfl | rfl <;> decide
    · rcases List.mem_append.1 later with inSign | inPower
      · rcases signs with rfl | rfl | rfl
        · cases inSign
        · obtain rfl := List.mem_singleton.1 inSign
          decide
        · obtain rfl := List.mem_singleton.1 inSign
          decide
      · exact numeral_of_decimal decimal c inPower

/-- Digits, maybe a fraction, and the end of a float are converted. -/
theorem readFloat_of_parts {whole part tail : List Char} (some : whole ≠ [])
    (decimal : ∀ c ∈ whole, Text.isDecimal c = true)
    (fraction : part = [] ∨ ∃ digits, part = '.' :: digits ∧
      ∀ c ∈ digits, Text.isDecimal c = true)
    (exponent : Number.Exponent tail) :
    ∃ value, Number.readFloat (String.ofList (whole ++ (part ++ tail))) = .ok value := by
  have reads : ∃ result, Number.takeDecimal (whole ++ (part ++ tail)) = .some result := by
    rcases fraction with rfl | ⟨digits, rfl, decimals⟩
    · exact Number.takeDecimal_whole some decimal exponent
    · exact Number.takeDecimal_fraction some decimal decimals exponent
  have inPart : ∀ c ∈ part, Number.isNumeral c = true := by
    rcases fraction with rfl | ⟨digits, rfl, decimals⟩
    · exact fun _ inside => nomatch inside
    · intro c inside
      rcases List.mem_cons.1 inside with rfl | later
      · decide
      · exact numeral_of_decimal decimals c later
  have numeral : ∀ c ∈ whole ++ (part ++ tail), Number.isNumeral c = true := by
    intro c inside
    rcases List.mem_append.1 inside with first | later
    · exact numeral_of_decimal decimal c first
    · rcases List.mem_append.1 later with second | third
      · exact inPart c second
      · exact numeral_of_exponent exponent c third
  obtain ⟨first, rest, rfl⟩ := List.exists_cons_of_ne_nil some
  obtain ⟨result, reads⟩ := reads
  exact Number.readFloat_ok (decimal first List.mem_cons_self) numeral reads

/-- A float with decimal digits only is converted. -/
theorem float_of_decimal {text : List Char} (some : (parts text).whole ≠ [])
    (complete : (parts text).mark = [] ∨ (parts text).power ≠ [])
    (isFloat : (parts text).isFloat = true)
    (readable : ∀ c ∈ (parts text).lexeme, Text.isDigit c = true → Text.isDecimal c = true) :
    ∃ value, Number.readFloat (String.ofList (parts text).lexeme) = .ok value := by
  have inWhole := decimal_of_readable readable
    (fun c inside => by simp [Parts.lexeme, inside]) (digit_of_whole text)
  have inPower := decimal_of_readable readable
    (fun c inside => by simp [Parts.lexeme, inside]) (digit_of_power text)
  have inPart : ∀ digits, (parts text).part = '.' :: digits →
      (∀ c ∈ digits, Text.isDigit c = true) → ∀ c ∈ digits, Text.isDecimal c = true :=
    fun digits is digit => decimal_of_readable readable
      (fun c inside => by simp [Parts.lexeme, is, inside]) digit
  have fractions := fraction_cases (text.drop (parts text).whole.length)
  have marks := exponentHead_cases
    (text.drop ((parts text).whole ++ (parts text).part).length)
  change (parts text).part = [] ∨ ∃ digits, (parts text).part = '.' :: digits ∧ _ at fractions
  change (parts text).mark = [] ∨ ∃ mark sign, (parts text).mark = mark :: sign ∧ _ at marks
  rcases marks with noMark | ⟨mark, sign, hasMark, is, signs⟩
  · -- Without an exponent the number has a fraction; its digits go on up to the end.
    rcases fractions with noPart | ⟨digits, hasPart, digit⟩
    · simp [Parts.isFloat, noMark, noPart] at isFloat
    · have decimals : ∀ c ∈ digits ++ (parts text).power, Text.isDecimal c = true := by
        intro c inside
        rcases List.mem_append.1 inside with first | second
        · exact inPart digits hasPart digit c first
        · exact inPower c second
      have converted := readFloat_of_parts some inWhole (.inr ⟨_, rfl, decimals⟩) .none
      simpa [Parts.lexeme, noMark, hasPart] using converted
  · have hasPower : (parts text).power ≠ [] := by
      rcases complete with noMark | hasPower
      · rw [hasMark] at noMark
        cases noMark
      · exact hasPower
    have fractionDecimal : (parts text).part = [] ∨ ∃ digits, (parts text).part = '.' :: digits ∧
        ∀ c ∈ digits, Text.isDecimal c = true := by
      rcases fractions with noPart | ⟨digits, hasPart, digit⟩
      · exact .inl noPart
      · exact .inr ⟨digits, hasPart, inPart digits hasPart digit⟩
    have converted := readFloat_of_parts some inWhole fractionDecimal
      (.some is signs hasPower inPower)
    simpa [Parts.lexeme, hasMark] using converted

/-- An integer with decimal digits only, not too many, is converted. -/
theorem int_of_decimal {text : List Char} (some : (parts text).whole ≠ [])
    (isInt : (parts text).isFloat = false)
    (readable : ∀ c ∈ (parts text).lexeme, Text.isDigit c = true → Text.isDecimal c = true) :
    (∀ c ∈ (parts text).lexeme, Text.isDigit c = true) ∧
      ((parts text).lexeme.length ≤ Number.digitLimit →
        ∃ value, Number.readInt (String.ofList (parts text).lexeme) = .ok value) := by
  simp only [Parts.isFloat, Bool.or_eq_false_iff, Bool.not_eq_false', List.isEmpty_iff] at isInt
  have lexeme : (parts text).lexeme = (parts text).whole ++ (parts text).power := by
    simp [Parts.lexeme, isInt.1, isInt.2]
  have digits : ∀ c ∈ (parts text).lexeme, Text.isDigit c = true := by
    intro c inside
    rw [lexeme] at inside
    rcases List.mem_append.1 inside with first | second
    · exact digit_of_whole text c first
    · exact digit_of_power text c second
  refine ⟨digits, fun short => ?_⟩
  refine Number.readInt_ok ?_ (fun c inside => readable c inside (digits c inside)) short
  rw [lexeme]
  simp [some]

/-- A number whose conversion fails has a numeral that cannot be converted. -/
theorem unreadable_of_number {c : Char} {rest : List Char} {fault : Fault}
    (digit : Text.isDigit c = true) (failed : number (c :: rest) = .error fault) :
    fault.Within (c :: rest) ∨
      ∃ reason lexeme, fault = .numeral reason ∧ lexeme <+: c :: rest ∧ Unreadable lexeme := by
  rcases number_cases (c :: rest) with ⟨complete, same⟩ | ⟨other, failsToo, within⟩
  · rw [same] at failed
    have some : (parts (c :: rest)).whole ≠ [] := whole_ne_nil digit
    refine .inr ?_
    have unreadable : Unreadable (parts (c :: rest)).lexeme := by
      by_cases readable : ∀ d ∈ (parts (c :: rest)).lexeme,
        Text.isDigit d = true → Text.isDecimal d = true
      · unfold numberPiece at failed
        dsimp only at failed
        split at failed
        · rename_i isFloat
          obtain ⟨value, converted⟩ := float_of_decimal some complete isFloat readable
          rw [converted] at failed
          cases failed
        · rename_i isInt
          obtain ⟨digits, converts⟩ :=
            int_of_decimal some (by simpa using isInt) readable
          by_cases short : (parts (c :: rest)).lexeme.length ≤ Number.digitLimit
          · obtain ⟨value, converted⟩ := converts short
            rw [converted] at failed
            cases failed
          · exact .inr ⟨digits, Nat.lt_of_not_le short⟩
      · refine .inl ?_
        simpa using readable
    unfold numberPiece at failed
    dsimp only at failed
    split at failed
    · split at failed
      · cases failed
      · cases failed
        exact ⟨_, _, rfl, prefix_lexeme _, unreadable⟩
    · split at failed
      · cases failed
      · cases failed
        exact ⟨_, _, rfl, prefix_lexeme _, unreadable⟩
  · rw [failsToo] at failed
    cases failed
    exact .inl within

/-- A fault at the front of a text has a place within it, or it is about a numeral there that cannot
be converted. -/
theorem fault_of_piece {c : Char} {rest : List Char} {fault : Fault}
    (failed : piece c rest = .error fault) :
    fault.Within (c :: rest) ∨
      ∃ reason lexeme, fault = .numeral reason ∧ lexeme <+: c :: rest ∧ Unreadable lexeme := by
  unfold piece at failed
  split at failed
  · rename_i quote
    subst quote
    exact .inl (within_string failed)
  · split at failed
    · rename_i digit
      exact unreadable_of_number digit failed
    · split at failed
      · cases failed
      · split at failed
        · split at failed
          · cases failed
          · exact .inl (within_sign failed)
        · exact .inl (within_sign failed)

end Scan

end Lag
