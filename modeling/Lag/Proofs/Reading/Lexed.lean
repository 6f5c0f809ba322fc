import Lag.Proofs.Reading.Grammar
import Mathlib.Algebra.GroupWithZero.Nat

/-!
# Lexemes of written texts

What the text of an expression is made of is cut into the lexemes that it was made from: a numeral,
a quoted text or a word reaches as far as it was written, as long as nothing follows it that it
could go on with.
-/
namespace Lag.Host

/-- What may follow an operand: nothing, a blank, or a sign that ends it. -/
def Closed (rest : List Char) : Prop :=
  ∀ c ∈ rest.head?, c = ' ' ∨ c = ')' ∨ c = ',' ∨ c = '('

/-- Nothing may follow an operand. -/
theorem closed_nil : Closed [] := fun _ inside => nomatch inside

/-- A blank or a sign may follow an operand. -/
theorem closed_cons {c : Char} (ends : c = ' ' ∨ c = ')' ∨ c = ',' ∨ c = '(') (rest : List Char) :
    Closed (c :: rest) := by
  intro first inside
  obtain rfl : c = first := by simpa using inside
  exact ends

/-- No word goes on with what may follow an operand. -/
theorem Closed.not_word {rest : List Char} (closed : Closed rest) :
    ∀ c ∈ rest.head?, isWordChar c = false := by
  intro c inside
  rcases closed c inside with rfl | rfl | rfl | rfl <;> decide

/-- Blanks are passed over. -/
theorem lexemes_blank (rest : List Char) : lexemes (' ' :: rest) = lexemes rest := by
  rw [lexemes, if_pos rfl]

/-- A lexeme at the front of a text comes first. -/
theorem lexemes_next {c : Char} {rest left : List Char} {lexeme : Lexeme} (seen : c ≠ ' ')
    (next : nextLexeme c rest = some (lexeme, left)) (shorter : left.length ≤ rest.length) :
    lexemes (c :: rest) = (lexemes left).map (lexeme :: ·) := by
  rw [lexemes, if_neg seen, next]
  dsimp only
  rw [if_pos shorter]

/-- A sign of one character is a lexeme. -/
theorem lexemes_sign {c : Char} (sign : c = '(' ∨ c = ')' ∨ c = ',' ∨ c = '.' ∨ c = '-')
    (rest : List Char) :
    lexemes (c :: rest) = (lexemes rest).map (.sign c.toString :: ·) := by
  refine lexemes_next ?_ ?_ (Nat.le_refl _)
  · rcases sign with rfl | rfl | rfl | rfl | rfl <;> decide
  · have long : longSigns.contains (c :: rest.take 1) = false := by
      rcases sign with rfl | rfl | rfl | rfl | rfl <;> simp [longSigns]
    unfold nextLexeme
    rw [long]
    rcases sign with rfl | rfl | rfl | rfl | rfl <;> rfl

/-- A word is a lexeme. -/
theorem lexemes_word {first : Char} {others rest : List Char} (starts : isWordChar first = true)
    (letter : first.isDigit = false) (goes : ∀ c ∈ others, isWordChar c = true)
    (ends : ∀ c ∈ rest.head?, isWordChar c = false) :
    lexemes (first :: others ++ rest) =
      (lexemes rest).map (.word (String.ofList (first :: others)) :: ·) := by
  have taken : (others ++ rest).takeWhile isWordChar = others := by
    rw [List.takeWhile_append_of_pos goes]
    cases rest with
    | nil => simp
    | cons c rest =>
      have stops : isWordChar c = false := ends c rfl
      rw [List.takeWhile_cons, stops]
      simp
  have dropped : (others ++ rest).dropWhile isWordChar = rest := by
    rw [List.dropWhile_append_of_pos goes]
    cases rest with
    | nil => rfl
    | cons c rest =>
      have stops : isWordChar c = false := ends c rfl
      rw [List.dropWhile_cons, stops]
      rfl
  rw [List.cons_append]
  refine lexemes_next ?_ ?_ ?_
  · rintro rfl
    exact absurd starts (by decide)
  · have mark : ¬(first = Text.apostrophe ∨ first = Text.doubleQuote) := by
      rintro (rfl | rfl) <;> exact absurd starts (by decide)
    unfold nextLexeme
    rw [letter, if_neg (by decide), if_neg mark, if_pos starts]
    dsimp only
    rw [taken, dropped]
  · rw [List.length_append]
    omega

/-! ## Numerals -/

/-- A numeral does not go on with what may follow an operand. -/
theorem splitNumeral_append {rest : List Char} (closed : Closed rest) (text : List Char) :
    ∀ signed, splitNumeral signed (text ++ rest) =
      ((splitNumeral signed text).1, (splitNumeral signed text).2 ++ rest) := by
  induction text with
  | nil =>
    intro signed
    cases rest with
    | nil => rfl
    | cons c rest =>
      rw [List.nil_append, splitNumeral]
      rcases closed c rfl with rfl | rfl | rfl | rfl <;> cases signed <;> rfl
  | cons c text ih =>
    intro signed
    rw [List.cons_append, splitNumeral, splitNumeral]
    split
    · rw [ih]
    · rfl

/-- What is left after a numeral is not longer than the text. -/
theorem length_splitNumeral (text : List Char) :
    ∀ signed, (splitNumeral signed text).2.length ≤ text.length := by
  induction text with
  | nil => exact fun _ => Nat.le_refl _
  | cons c text ih =>
    intro signed
    rw [splitNumeral]
    split
    · have below := ih (c == 'e')
      rw [List.length_cons]
      dsimp only
      omega
    · exact Nat.le_refl _

/-- Digits are a numeral. -/
theorem splitNumeral_digits {digits : List Char} (all : ∀ c ∈ digits, c.isDigit = true) :
    ∀ signed, splitNumeral signed digits = (digits, []) := by
  induction digits with
  | nil => exact fun _ => rfl
  | cons c digits ih =>
    intro signed
    have isDigit := all c List.mem_cons_self
    rw [splitNumeral, isDigit, ih fun other inside => all other (List.mem_cons_of_mem _ inside)]
    rfl

/-- A numeral is a lexeme. -/
theorem lexemes_numeral {first : Char} {others rest left : List Char} {value : Literal}
    (digit : first.isDigit = true) (closed : Closed rest) {numeral : List Char}
    (splits : splitNumeral false (first :: others) = (numeral, left))
    (reads : numeralValue? numeral = some value) :
    lexemes (first :: others ++ rest) = (lexemes (left ++ rest)).map (.numeral value :: ·) := by
  have below := length_splitNumeral (first :: others) false
  have whole := splitNumeral_append closed (first :: others) false
  rw [splits] at below whole
  have shorter : left.length ≤ others.length := by
    have consumed : splitNumeral false (first :: others) =
        (first :: (splitNumeral (first == 'e') others).1,
          (splitNumeral (first == 'e') others).2) := by
      rw [splitNumeral, digit]
      rfl
    rw [consumed, Prod.mk.injEq] at splits
    rw [← splits.2]
    exact length_splitNumeral others _
  rw [List.cons_append] at whole ⊢
  refine lexemes_next ?_ ?_ ?_
  · rintro rfl
    exact absurd digit (by decide)
  · unfold nextLexeme
    rw [if_pos digit, whole]
    dsimp only
    rw [reads, Option.map_some]
  · rw [List.length_append, List.length_append]
    omega

/-- A whole number is a lexeme. -/
theorem lexemes_int (value : Nat) {rest : List Char} (closed : Closed rest) :
    lexemes ((toString value).toList ++ rest) =
      (lexemes rest).map (.numeral (.int value) :: ·) := by
  have digits : (toString value).toList = Nat.toDigits 10 value := Nat.toList_repr
  have all : ∀ c ∈ Nat.toDigits 10 value, c.isDigit = true := fun c inside =>
    Nat.isDigit_of_mem_toDigits (by omega) (Nat.le_refl 10) inside
  rw [digits]
  cases shape : Nat.toDigits 10 value with
  | nil => exact absurd shape Nat.toDigits_ne_nil
  | cons first others =>
    rw [shape] at all
    refine lexemes_numeral (all first List.mem_cons_self) closed (splitNumeral_digits all _) ?_
    have isAll : (first :: others).all Char.isDigit = true := List.all_eq_true.2 all
    rw [numeralValue?, if_pos isAll, ← shape, Nat.ofDigitChars_ten_toDigits]

/-- A float whose text is read as one numeral with its value. -/
def ReadsBack (value : Float) : Prop :=
  lexemes (Number.floatText value).toList = some [.numeral (.float value)]

instance (value : Float) : Decidable (ReadsBack value) :=
  inferInstanceAs (Decidable (lexemes (Number.floatText value).toList =
    some [.numeral (.float value)]))

/-- A text without lexemes is blank. -/
theorem lexemes_append_of_nil {text : List Char} (blank : lexemes text = some [])
    (rest : List Char) : lexemes (text ++ rest) = lexemes rest := by
  induction text with
  | nil => rfl
  | cons c text ih =>
    by_cases isBlank : c = ' '
    · subst isBlank
      rw [lexemes_blank] at blank
      rw [List.cons_append, lexemes_blank, ih blank]
    · rw [lexemes, if_neg isBlank] at blank
      split at blank
      · cases blank
      · split at blank
        · obtain ⟨_, _, impossible⟩ := Option.map_eq_some_iff.1 blank
          cases impossible
        · cases blank

/-- Only digits start a numeral. -/
theorem nextLexeme_numeral {c : Char} {rest left : List Char} {value : Literal}
    (next : nextLexeme c rest = some (.numeral value, left)) :
    c.isDigit = true ∧ ∃ numeral, splitNumeral false (c :: rest) = (numeral, left) ∧
      numeralValue? numeral = some value := by
  unfold nextLexeme at next
  split at next
  · rename_i digit
    refine ⟨digit, ?_⟩
    obtain ⟨found, reads, same⟩ := Option.map_eq_some_iff.1 next
    rw [Prod.mk.injEq, Lexeme.numeral.injEq] at same
    obtain ⟨rfl, rfl⟩ := same
    exact ⟨_, rfl, reads⟩
  · split at next
    · obtain ⟨_, _, same⟩ := Option.map_eq_some_iff.1 next
      cases same
    · split at next
      · cases next
      · split at next
        · cases next
        · split at next <;> cases next

/-- A text that is read as one numeral is so where an operand ends. -/
theorem lexemes_append_of_numeral {text : List Char} {value : Literal}
    (alone : lexemes text = some [.numeral value]) {rest : List Char} (closed : Closed rest) :
    lexemes (text ++ rest) = (lexemes rest).map (.numeral value :: ·) := by
  induction text with
  | nil => simp [lexemes] at alone
  | cons c text ih =>
    by_cases isBlank : c = ' '
    · subst isBlank
      rw [lexemes_blank] at alone
      rw [List.cons_append, lexemes_blank, ih alone]
    · rw [lexemes, if_neg isBlank] at alone
      split at alone
      · cases alone
      · rename_i lexeme left next
        split at alone
        · obtain ⟨others, blank, same⟩ := Option.map_eq_some_iff.1 alone
          rw [List.cons.injEq] at same
          obtain ⟨rfl, rfl⟩ := same
          obtain ⟨digit, numeral, splits, reads⟩ := nextLexeme_numeral next
          rw [lexemes_numeral digit closed splits reads, lexemes_append_of_nil blank]
        · cases alone

/-- A float that is read back is a lexeme. -/
theorem lexemes_float {value : Float} (reads : ReadsBack value) {rest : List Char}
    (closed : Closed rest) :
    lexemes ((Number.floatText value).toList ++ rest) =
      (lexemes rest).map (.numeral (.float value) :: ·) :=
  lexemes_append_of_numeral reads closed

/-! ## Quoted texts -/

/-- A hexadecimal digit has its value. -/
theorem hexValue?_hexDigit {value : Nat} (below : value < 16) :
    hexValue? (Text.hexDigit value) = some value := by
  have all : ∀ digit : Fin 16, hexValue? (Text.hexDigit digit.val) = some digit.val := by decide
  exact all ⟨value, below⟩

/-- Hexadecimal digits are read one part after the other. -/
theorem readHex_append (first second value : Nat) (text : List Char) :
    readHex (first + second) value text =
      (readHex first value text).bind fun (found, rest) => readHex second found rest := by
  induction first generalizing value text with
  | zero =>
    rw [Nat.zero_add]
    rfl
  | succ first ih =>
    rw [Nat.add_right_comm]
    cases text with
    | nil => rfl
    | cons c text =>
      rw [readHex, readHex]
      cases hexValue? c with
      | none => rfl
      | some digit => exact ih _ _

/-- A number is read from its hexadecimal digits. -/
theorem readHex_hexDigits (width number value : Nat) (rest : List Char) :
    readHex width value (Text.hexDigits width number ++ rest) =
      some (value * 16 ^ width + number % 16 ^ width, rest) := by
  induction width generalizing number rest with
  | zero => simp [readHex, Text.hexDigits, Nat.mod_one]
  | succ width ih =>
    have digit := hexValue?_hexDigit (Nat.mod_lt number (by omega : 0 < 16))
    rw [Text.hexDigits, List.append_assoc, readHex_append, ih]
    show readHex 1 _ (Text.hexDigit (number % 16) :: rest) = _
    rw [readHex, digit]
    show some (_, rest) = _
    have split : number % 16 ^ (width + 1) = number / 16 % 16 ^ width * 16 + number % 16 := by
      rw [Nat.pow_succ, Nat.mul_comm (16 ^ width), Nat.mod_mul]
      omega
    rw [split, Nat.pow_succ]
    refine congrArg some (Prod.ext ?_ rfl)
    show (value * 16 ^ width + number / 16 % 16 ^ width) * 16 + number % 16 = _
    rw [Nat.add_mul, Nat.mul_assoc, Nat.add_assoc]

/-- A code is read back as its character. -/
theorem readChar_charCode (c : Char) (rest : List Char) :
    readChar (Text.charCode c ++ rest) = some (c, rest) := by
  have small : c.toNat < 16 ^ 8 := by
    have valid := c.valid
    have below : c.toNat < 0x110000 := by
      rcases valid with low | high
      · have small : c.toNat < 0xd800 := low
        omega
      · exact high.2
    omega
  have back : Char.ofNat c.toNat = c := Char.ofNat_toNat c
  unfold Text.charCode
  split
  · rename_i below
    rw [List.cons_append, List.cons_append, readChar]
    show (readHex 2 0 _).bind _ = _
    rw [readHex_hexDigits, Nat.mod_eq_of_lt (b := 16 ^ 2) below, Nat.zero_mul, Nat.zero_add]
    show some (Char.ofNat c.toNat, rest) = _
    rw [back]
  · split
    · rename_i below
      rw [List.cons_append, List.cons_append, readChar]
      show (readHex 4 0 _).bind _ = _
      rw [readHex_hexDigits, Nat.mod_eq_of_lt (b := 16 ^ 4) below, Nat.zero_mul, Nat.zero_add]
      show some (Char.ofNat c.toNat, rest) = _
      rw [back]
    · rw [List.cons_append, List.cons_append, readChar]
      show (readHex 8 0 _).bind _ = _
      rw [readHex_hexDigits, Nat.mod_eq_of_lt small, Nat.zero_mul, Nat.zero_add]
      show some (Char.ofNat c.toNat, rest) = _
      rw [back]

/-- A character is read back as it stands between quotation marks. -/
theorem readChar_quotedChar {mark : Char} (isMark : mark = Text.apostrophe ∨ mark = Text.doubleQuote)
    (c : Char) (rest : List Char) :
    readChar (Text.quotedChar mark c ++ rest) = some (c, rest) := by
  unfold Text.quotedChar
  split
  · rename_i special
    rcases special with rfl | rfl
    · rcases isMark with rfl | rfl <;> rfl
    · rfl
  · rename_i plain
    rw [not_or] at plain
    split
    · rename_i is
      subst is
      rfl
    · split
      · rename_i is
        subst is
        rfl
      · split
        · rename_i is
          subst is
          rfl
        · rename_i notLine notReturn _
          split
          · show readChar (c :: rest) = _
            have kept : ¬(c = '\n' ∨ c = '\r') := by simp [notLine, notReturn]
            unfold readChar
            split
            · rename_i impossible
              cases impossible
            · rename_i same
              exact absurd (List.cons.inj same).1 plain.2
            · rename_i same
              exact absurd (List.cons.inj same).1 plain.2
            · rename_i same
              obtain ⟨rfl, rfl⟩ := List.cons.inj same
              rw [if_neg kept]
          · exact readChar_charCode c rest

/-- No character starts with the mark as it stands between quotation marks. -/
theorem head_quotedChar {mark : Char} (isMark : mark = Text.apostrophe ∨ mark = Text.doubleQuote)
    (c : Char) : ∃ first others, Text.quotedChar mark c = first :: others ∧ first ≠ mark := by
  have backslash : '\\' ≠ mark := by rcases isMark with rfl | rfl <;> decide
  unfold Text.quotedChar
  split
  · exact ⟨_, _, rfl, backslash⟩
  · rename_i plain
    split
    · exact ⟨_, _, rfl, backslash⟩
    · split
      · exact ⟨_, _, rfl, backslash⟩
      · split
        · exact ⟨_, _, rfl, backslash⟩
        · split
          · exact ⟨_, _, rfl, fun same => plain (.inl same)⟩
          · unfold Text.charCode
            split
            · exact ⟨_, _, rfl, backslash⟩
            · split <;> exact ⟨_, _, rfl, backslash⟩

/-- A quoted text is read up to its mark. -/
theorem readQuoted_quoted {mark : Char} (isMark : mark = Text.apostrophe ∨ mark = Text.doubleQuote)
    (text rest : List Char) : ∀ {bound : Nat}, text.length < bound →
      readQuoted mark bound (text.flatMap (Text.quotedChar mark) ++ mark :: rest) =
        some (text, rest) := by
  induction text with
  | nil =>
    intro bound enough
    cases bound with
    | zero => omega
    | succ bound =>
      rw [List.flatMap_nil, List.nil_append, readQuoted, if_pos rfl]
  | cons c text ih =>
    intro bound enough
    cases bound with
    | zero => omega
    | succ bound =>
      obtain ⟨first, others, shape, different⟩ := head_quotedChar isMark c
      have reads := readChar_quotedChar isMark c
        (text.flatMap (Text.quotedChar mark) ++ mark :: rest)
      rw [List.flatMap_cons, List.append_assoc]
      rw [shape] at reads ⊢
      rw [List.cons_append, readQuoted, if_neg different]
      rw [List.cons_append] at reads
      rw [reads]
      show (readQuoted mark bound _).bind _ = _
      have later : text.length < bound := by
        rw [List.length_cons] at enough
        omega
      rw [ih later]
      rfl

/-- A text is not longer between quotation marks. -/
theorem length_le_flatMap (mark : Char)
    (isMark : mark = Text.apostrophe ∨ mark = Text.doubleQuote) (text : List Char) :
    text.length ≤ (text.flatMap (Text.quotedChar mark)).length := by
  induction text with
  | nil => exact Nat.le_refl _
  | cons c text ih =>
    obtain ⟨first, others, shape, _⟩ := head_quotedChar isMark c
    rw [List.flatMap_cons, shape, List.length_append, List.length_cons, List.length_cons]
    omega

/-- A quoted text stands between marks. -/
theorem toList_quoted (value : String) : ∃ mark,
    (mark = Text.apostrophe ∨ mark = Text.doubleQuote) ∧
      (Text.quoted value).toList = mark :: (value.toList.flatMap (Text.quotedChar mark) ++ [mark]) := by
  refine ⟨Text.quotationMark value.toList, ?_, ?_⟩
  · unfold Text.quotationMark
    split
    · exact .inr rfl
    · exact .inl rfl
  · rw [Text.quoted, String.toList_ofList, Text.quotedChars_eq]
    rfl

/-- A quoted text is a lexeme. -/
theorem lexemes_text (value : String) (rest : List Char) :
    lexemes ((Text.quoted value).toList ++ rest) =
      (lexemes rest).map (.text value :: ·) := by
  obtain ⟨mark, isMark, shape⟩ := toList_quoted value
  have longer := length_le_flatMap _ isMark value.toList
  have written : (Text.quoted value).toList ++ rest =
      mark :: (value.toList.flatMap (Text.quotedChar mark) ++ mark :: rest) := by simp [shape]
  rw [written]
  refine lexemes_next ?_ ?_ ?_
  · rcases isMark with rfl | rfl <;> decide
  · have digit : mark.isDigit = false := by rcases isMark with rfl | rfl <;> decide
    have enough : value.toList.length <
        (value.toList.flatMap (Text.quotedChar mark) ++ mark :: rest).length + 1 := by
      rw [List.length_append]
      omega
    have reads := readQuoted_quoted isMark value.toList rest enough
    unfold nextLexeme
    rw [digit, if_neg (by decide), if_pos isMark, reads]
    simp
  · rw [List.length_append, List.length_cons]
    omega

/-! ## Operators -/

/-- The lexeme of an operator. -/
def Operator.lexeme : Operator → Lexeme
  | .and => .word "and"
  | .or => .word "or"
  | op => .sign op.spelling

/-- An operator between blanks is a lexeme. -/
theorem lexemes_operator (op : Operator) (rest : List Char) :
    lexemes (op.spelling.toList ++ ' ' :: rest) = (lexemes rest).map (op.lexeme :: ·) := by
  rw [← lexemes_blank rest]
  cases op with
  | and =>
    exact @lexemes_word 'a' ['n', 'd'] (' ' :: rest) (by decide) (by decide)
      (List.all_eq_true.1 (by decide))
      (closed_cons (.inl rfl) rest).not_word
  | or =>
    exact @lexemes_word 'o' ['r'] (' ' :: rest) (by decide) (by decide)
      (List.all_eq_true.1 (by decide))
      (closed_cons (.inl rfl) rest).not_word
  | _ =>
    refine lexemes_next (by decide) rfl ?_
    simp

/-- An operator is that of its lexeme. -/
theorem operator?_lexeme (op : Operator) (level : Level) :
    operator? level op.lexeme = if op.level = level then some op else none := by
  have found : (operators.find? (·.1 == op.lexeme)).map (·.2) = some op := by
    cases op <;> decide
  rw [operator?, found, Option.filter]
  simp only [beq_iff_eq]

end Lag.Host
