import Lag.Proofs.Limits.Words
import Lag.Proofs.Reading.Written

/-!
# Words of written expressions

The words in the text of an expression are names of the host if its names are: all other words of a
text are made of ASCII characters, and quoted texts have none.
-/
namespace Lag.Host

open Standing

/-- A text whose words are names, and after which there is no word or quoted text to go on with. -/
def Finishes (text : String) : Prop := steps .outside text.toList = some .outside

/-- A text whose words are names, and after which the last of them may go on. -/
def Passes (text : String) : Prop := Finishes text ∨ steps .outside text.toList = some .word

/-- A text that goes on with no word, and after which there is none to go on with. -/
def Closes (text : String) : Prop := Finishes text ∧ steps .word text.toList = some .outside

instance (text : String) : Decidable (Finishes text) :=
  inferInstanceAs (Decidable (steps .outside text.toList = some .outside))

instance (text : String) : Decidable (Passes text) :=
  inferInstanceAs (Decidable (Finishes text ∨ steps .outside text.toList = some .word))

instance (text : String) : Decidable (Closes text) :=
  inferInstanceAs (Decidable (Finishes text ∧ steps .word text.toList = some .outside))

/-- The words of a text may be followed by others. -/
theorem Finishes.passes {first second : String} (finishes : Finishes first) (passes : Passes second) :
    Passes (first ++ second) := by
  unfold Passes Finishes
  rw [String.toList_append, steps_eq_append finishes]
  exact passes

/-- A text that ends may be followed by one that ends. -/
theorem Finishes.append {first second : String} (finishes : Finishes first) (others : Finishes second) :
    Finishes (first ++ second) := by
  unfold Finishes
  rw [String.toList_append, steps_eq_append finishes]
  exact others

/-- A word may be closed. -/
theorem Passes.append {first second : String} (passes : Passes first) (closes : Closes second) :
    Finishes (first ++ second) := by
  unfold Finishes
  rw [String.toList_append]
  rcases passes with finishes | word
  · rw [steps_eq_append finishes]
    exact closes.1
  · rw [steps_eq_append word]
    exact closes.2

/-- A text whose words are names has no word that is none. -/
theorem Passes.isSome {text : String} (passes : Passes text) :
    (steps .outside text.toList).isSome = true := by
  rcases passes with finishes | word
  · rw [finishes]
    rfl
  · rw [word]
    rfl

/-! ## ASCII texts -/

/-- An ASCII character that is no quotation mark. -/
def isSimple (c : Char) : Prop := c.toNat < 0x80 ∧ ¬isMark c

/-- Below the ASCII bound the characters of words may stand in names. -/
theorem ascii_word : ∀ code < 0x80, isWordChar (Char.ofNat code) = true →
    Text.mayContinueWord (Char.ofNat code) = true ∧
      ((Char.ofNat code).isDigit = false → Text.mayStartWord (Char.ofNat code) = true) := by
  decide +kernel

/-- A simple character after a word or outside words is so, too. -/
theorem step_simple {c : Char} (simple : isSimple c) {standing : Standing}
    (plain : standing = .outside ∨ standing = .word) :
    standing.step c = some .outside ∨ standing.step c = some .word := by
  obtain ⟨ascii, notMark⟩ := simple
  have fits := ascii_word c.toNat ascii
  rw [Char.ofNat_toNat] at fits
  have leaves : leave c = some .outside ∨ leave c = some .word := by
    rw [leave, if_neg notMark]
    split
    · rename_i letter
      simp only [Bool.and_eq_true, Bool.not_eq_true'] at letter
      rw [(fits letter.1).2 letter.2]
      exact .inr rfl
    · exact .inl rfl
  rcases plain with rfl | rfl
  · exact leaves
  · rw [step]
    split
    · rename_i letter
      rw [(fits letter).1]
      exact .inr rfl
    · exact leaves

/-- A text of simple characters passes. -/
theorem passes_simple {text : String} (simple : ∀ c ∈ text.toList, isSimple c) : Passes text := by
  have goes : ∀ (chars : List Char) (standing : Standing), (∀ c ∈ chars, isSimple c) →
      standing = .outside ∨ standing = .word →
        steps standing chars = some .outside ∨ steps standing chars = some .word := by
    intro chars
    induction chars with
    | nil =>
      rintro _ _ (rfl | rfl)
      · exact .inl rfl
      · exact .inr rfl
    | cons c rest ih =>
      intro standing all plain
      obtain ⟨first, others⟩ := List.forall_mem_cons.1 all
      rcases step_simple first plain with next | next
      · rw [steps, next]
        exact ih _ others (.inl rfl)
      · rw [steps, next]
        exact ih _ others (.inr rfl)
  exact goes text.toList .outside simple (.inl rfl)

/-! ## Quoted texts -/

/-- Hexadecimal digits are neither marks nor backslashes. -/
theorem hexDigit_plain (value : Nat) :
    ¬isMark (Text.hexDigit (value % 16)) ∧ Text.hexDigit (value % 16) ≠ '\\' := by
  have all : ∀ digit : Fin 16,
      ¬isMark (Text.hexDigit digit.val) ∧ Text.hexDigit digit.val ≠ '\\' := by decide
  exact all ⟨value % 16, Nat.mod_lt _ (by omega)⟩

/-- A character that is neither the mark nor a backslash keeps a quoted text open. -/
theorem step_quoted {mark c : Char} (notMark : c ≠ mark) (notBackslash : c ≠ '\\') :
    (quoted mark).step c = some (.quoted mark) := by
  rw [step, if_neg notBackslash, if_neg notMark]

/-- Hexadecimal digits keep a quoted text open. -/
theorem steps_hexDigits {mark : Char} (isMark' : isMark mark) (width value : Nat) :
    steps (.quoted mark) (Text.hexDigits width value) = some (.quoted mark) := by
  induction width generalizing value with
  | zero => rfl
  | succ width ih =>
    obtain ⟨notMark, notBackslash⟩ := hexDigit_plain value
    have other : Text.hexDigit (value % 16) ≠ mark := fun same => notMark (same ▸ isMark')
    rw [Text.hexDigits, steps_eq_append (ih _), steps, step_quoted other notBackslash]
    rfl

/-- A character keeps a quoted text open as it stands in it. -/
theorem steps_quotedChar {mark : Char} (isMark' : isMark mark) (c : Char) :
    steps (.quoted mark) (Text.quotedChar mark c) = some (.quoted mark) := by
  unfold Text.quotedChar
  split
  · rfl
  · rename_i plain
    rw [not_or] at plain
    split
    · rfl
    · split
      · rfl
      · split
        · rfl
        · split
          · rw [steps, step_quoted plain.1 plain.2]
            rfl
          · unfold Text.charCode
            split
            · exact steps_hexDigits isMark' 2 c.toNat
            · split
              · exact steps_hexDigits isMark' 4 c.toNat
              · exact steps_hexDigits isMark' 8 c.toNat

/-- A quoted text ends. -/
theorem finishes_quoted (value : String) : Finishes (Text.quoted value) := by
  obtain ⟨mark, (marks : isMark mark), shape⟩ := toList_quoted value
  unfold Finishes
  rw [shape]
  have inside : steps (.quoted mark) (value.toList.flatMap (Text.quotedChar mark)) =
      some (.quoted mark) := by
    induction value.toList with
    | nil => rfl
    | cons c rest ih => rw [List.flatMap_cons, steps_eq_append (steps_quotedChar marks c), ih]
  have opens : step .outside mark = some (.quoted mark) := by rw [step, leave, if_pos marks]
  have closes : step (.quoted mark) mark = some .outside := by
    have notBackslash : mark ≠ '\\' := by rcases marks with rfl | rfl <;> decide
    rw [step, if_neg notBackslash, if_pos rfl]
  rw [steps, opens]
  show steps (.quoted mark) _ = _
  rw [steps_eq_append inside, steps, closes]
  rfl

/-! ## Names and numerals -/

/-- Below the ASCII bound the characters of names are characters of words. -/
theorem ascii_fits : ∀ code < 0x80,
    (Text.mayStartWord (Char.ofNat code) = true →
      isWordChar (Char.ofNat code) = true ∧ (Char.ofNat code).isDigit = false) ∧
        (Text.mayContinueWord (Char.ofNat code) = true → isWordChar (Char.ofNat code) = true) := by
  decide +kernel

/-- A character that may start a name starts a word, and one that may continue it goes on. -/
theorem isWordChar_of_fits (c : Char) :
    (Text.mayStartWord c = true → isWordChar c = true ∧ c.isDigit = false) ∧
      (Text.mayContinueWord c = true → isWordChar c = true) := by
  by_cases ascii : c.toNat < 0x80
  · have fits := ascii_fits c.toNat ascii
    rwa [Char.ofNat_toNat] at fits
  · have beyond : 0x80 ≤ c.toNat := by omega
    have letter : isWordChar c = true := by simp [isWordChar, beyond]
    have digit : c.isDigit = false := by
      cases digit : c.isDigit with
      | false => rfl
      | true =>
        simp only [Char.isDigit, Bool.and_eq_true, decide_eq_true_eq] at digit
        have below : c.val.toNat ≤ 57 := UInt32.le_iff_toNat_le.1 digit.2
        have same : c.val.toNat = c.toNat := rfl
        omega
    exact ⟨fun _ => ⟨letter, digit⟩, fun _ => letter⟩

/-- A name of the host passes. -/
theorem passes_name {name : String} (fits : isIdentifier name = true) : Passes name := by
  unfold isIdentifier at fits
  unfold Passes
  cases shape : name.toList with
  | nil =>
    rw [shape] at fits
    cases fits
  | cons first rest =>
    rw [shape] at fits
    simp only [Bool.and_eq_true] at fits
    obtain ⟨starts, continues⟩ := fits
    obtain ⟨letter, digit⟩ := (isWordChar_of_fits first).1 starts
    have opens : step .outside first = some .word := by
      rw [step, leave, if_neg (plain_of_isWordChar letter).1, letter, digit, starts]
      rfl
    have goes : steps .word rest = some .word := by
      clear shape
      induction rest with
      | nil => rfl
      | cons c rest ih =>
        rw [List.all_cons, Bool.and_eq_true] at continues
        rw [steps, step, (isWordChar_of_fits c).2 continues.1, continues.1]
        exact ih continues.2
    right
    rw [steps, opens]
    exact goes

/-- A text all of whose characters have a property. -/
def Every (holds : Char → Prop) (text : String) : Prop := ∀ c ∈ text.toList, holds c

instance (holds : Char → Prop) [DecidablePred holds] (text : String) :
    Decidable (Every holds text) := List.decidableBAll holds text.toList

section Every

variable {holds : Char → Prop}

/-- What holds of the characters of two texts holds of those of both together. -/
theorem Every.append {first second : String} (every : Every holds first)
    (others : Every holds second) : Every holds (first ++ second) := by
  intro c inside
  rw [String.toList_append] at inside
  rcases List.mem_append.1 inside with before | after
  · exact every c before
  · exact others c after

/-- What holds of characters holds of those of their text. -/
theorem every_ofList {chars : List Char} (every : ∀ c ∈ chars, holds c) :
    Every holds (String.ofList chars) := by
  unfold Every
  rwa [String.toList_ofList]

/-- A number has no characters but digits. -/
theorem every_toString (digits : ∀ c : Char, c.isDigit = true → holds c) (number : Nat) :
    Every holds (toString number) := by
  have shape : (toString number).toList = Nat.toDigits 10 number := Nat.toList_repr
  intro c inside
  rw [shape] at inside
  exact digits c (Nat.isDigit_of_mem_toDigits (by omega) (Nat.le_refl 10) inside)

end Every

/-- A character of a numeral. -/
def isNumeral (c : Char) : Prop := c.isDigit = true ∨ c = '.' ∨ c = 'e' ∨ c = '+' ∨ c = '-'

instance : DecidablePred isNumeral := fun c =>
  inferInstanceAs (Decidable (c.isDigit = true ∨ c = '.' ∨ c = 'e' ∨ c = '+' ∨ c = '-'))

/-- A number is a numeral. -/
theorem numeral_toString (number : Nat) : Every isNumeral (toString number) :=
  every_toString (fun _ => .inl) number

/-- The text of a decimal is a numeral. -/
theorem numeral_decimal (decimal : Number.Decimal) : Every isNumeral decimal.toText := by
  have digits : ∀ c ∈ (toString decimal.digits).toList, isNumeral c :=
    numeral_toString decimal.digits
  have zeros : ∀ count, ∀ c ∈ List.replicate count '0', isNumeral c := by
    intro count c inside
    rw [List.eq_of_mem_replicate inside]
    decide
  have first : ∀ count,
      Every isNumeral (String.ofList ((toString decimal.digits).toList.take count)) :=
    fun count => every_ofList fun c inside => digits c (List.mem_of_mem_take inside)
  have others : ∀ count,
      Every isNumeral (String.ofList ((toString decimal.digits).toList.drop count)) :=
    fun count => every_ofList fun c inside => digits c (List.mem_of_mem_drop inside)
  have power : Every isNumeral (Number.twoDigits
      ((toString decimal.digits).toList.length + decimal.exponent - 1).natAbs) := by
    unfold Number.twoDigits
    split
    · exact (by decide : Every isNumeral "0").append (numeral_toString _)
    · exact numeral_toString _
  unfold Number.Decimal.toText
  dsimp only
  split
  · split
    · refine (by decide : Every isNumeral "0.").append (every_ofList fun c inside => ?_)
      rcases List.mem_append.1 inside with zero | digit
      · exact zeros _ c zero
      · exact digits c digit
    · split
      · exact ((first _).append (by decide)).append (others _)
      · refine Every.append (every_ofList fun c inside => ?_) (by decide : Every isNumeral ".0")
        rcases List.mem_append.1 inside with digit | zero
        · exact digits c digit
        · exact zeros _ c zero
  · refine Every.append (Every.append (Every.append (Every.append (first _) ?_) ?_) ?_) power
    · split
      · decide
      · exact (by decide : Every isNumeral ".").append (others _)
    · decide
    · split <;> decide

/-- The text of a float is a word for one that is not finite, or a numeral. -/
theorem floatText_cases (value : Float) :
    Number.floatText value ∈ ["nan", "inf", "-inf"] ∨ Every isNumeral (Number.floatText value) := by
  unfold Number.floatText
  split
  · exact .inl (by decide)
  · left
    split <;> decide
  · right
    refine Every.append ?_ ?_
    · split <;> decide
    · split
      · decide
      · exact numeral_decimal _

/-- A character of a numeral is simple. -/
theorem isNumeral.simple {c : Char} (numeral : isNumeral c) : isSimple c := by
  rcases numeral with digit | rfl | rfl | rfl | rfl
  · have below : c.toNat < 0x80 := by
      simp only [Char.isDigit, Bool.and_eq_true, decide_eq_true_eq] at digit
      have below : c.val.toNat ≤ 57 := UInt32.le_iff_toNat_le.1 digit.2
      have same : c.val.toNat = c.toNat := rfl
      omega
    refine ⟨below, ?_⟩
    rintro (rfl | rfl) <;> exact absurd digit (by decide)
  all_goals exact ⟨by decide, by rintro (impossible | impossible) <;> cases impossible⟩

/-- A numeral passes. -/
theorem passes_numeral {text : String} (numeral : Every isNumeral text) : Passes text :=
  passes_simple fun c inside => (numeral c inside).simple

/-- The text of a float passes. -/
theorem passes_floatText (value : Float) : Passes (Number.floatText value) := by
  rcases floatText_cases value with word | numeral
  · generalize Number.floatText value = text at word
    revert text
    decide +kernel
  · exact passes_numeral numeral

/-! ## Expressions -/

mutual

/-- The names in an expression. -/
def Expr.names : Expr → List String
  | .int _ | .float _ | .text _ | .truth _ => []
  | .read name => [name]
  | .not operand | .negate operand => operand.names
  | .binary _ left right => left.names ++ right.names
  | .call function arguments => function :: Expr.allNames arguments
  | .builtin _ arguments => Expr.allNames arguments
  | .toFloat value => value.names

/-- The names in expressions. -/
def Expr.allNames : List Expr → List String
  | [] => []
  | expr :: rest => expr.names ++ Expr.allNames rest

end

/-- A text passes in its place. -/
theorem Passes.inPlace {text : String} (passes : Passes text) (minimum level : Level) :
    Passes (atLevel minimum level text) := by
  unfold atLevel
  split
  · have opens : Finishes "(" := by decide +kernel
    have closes : Closes ")" := by decide +kernel
    exact .inl ((opens.passes passes).append closes)
  · exact passes

/-- Texts with commas between them pass. -/
theorem passes_intercalate : ∀ {texts : List String}, (∀ text ∈ texts, Passes text) →
    Passes (", ".intercalate texts)
  | [], _ => .inl rfl
  | [text], all => by
    rw [String.intercalate_singleton]
    exact all text List.mem_cons_self
  | text :: next :: rest, all => by
    obtain ⟨first, others⟩ := List.forall_mem_cons.1 all
    have closes : Closes ", " := by decide +kernel
    rw [String.intercalate_cons_cons]
    exact (first.append closes).passes (passes_intercalate others)

/-- The call of a built-in function passes if its argument does. -/
theorem passes_builtin (function : Builtin) {texts : List String}
    (all : ∀ text ∈ texts, Passes text) : Passes (builtinText function texts) := by
  have argument : Passes (texts.headD "") := by
    cases texts with
    | nil => exact .inl rfl
    | cons text _ => exact all text List.mem_cons_self
  have closes : Closes ")" := by decide +kernel
  cases function with
  | print =>
    have opens : Finishes "_lag_logger.info('%s', _lag_str(" := by decide +kernel
    exact .inl ((opens.passes argument).append (by decide +kernel : Closes "))"))
  | str =>
    have opens : Finishes "_lag_str(" := by decide +kernel
    exact .inl ((opens.passes argument).append closes)
  | len =>
    have opens : Finishes "len(" := by decide +kernel
    exact .inl ((opens.passes argument).append closes)
  | sqrt =>
    have opens : Finishes "_lag_math.sqrt(" := by decide +kernel
    exact .inl ((opens.passes argument).append closes)
  | floor =>
    have opens : Finishes "_lag_math.floor(" := by decide +kernel
    exact .inl ((opens.passes argument).append closes)

mutual

/-- The text of an expression passes if its names are names of the host. -/
theorem Expr.passes : ∀ expr : Expr, (∀ name ∈ expr.names, isIdentifier name = true) →
    Passes expr.toText
  | .int value, _ => passes_numeral (numeral_toString value)
  | .float value, _ => passes_floatText value
  | .text value, _ => .inl (finishes_quoted value)
  | .truth value, _ => by
    cases value with
    | true => exact (by decide +kernel : Passes "True")
    | false => exact (by decide +kernel : Passes "False")
  | .read name, fits => passes_name (fits name List.mem_cons_self)
  | .not operand, fits => by
    have opens : Finishes "not " := by decide +kernel
    exact opens.passes ((operand.passes fits).inPlace _ _)
  | .negate operand, fits => by
    have opens : Finishes "-" := by decide +kernel
    exact opens.passes ((operand.passes fits).inPlace _ _)
  | .binary op left right, fits => by
    have leftPasses := (left.passes fun name inside =>
      fits name (List.mem_append_left _ inside)).inPlace op.leftLevel left.level
    have rightPasses := (right.passes fun name inside =>
      fits name (List.mem_append_right _ inside)).inPlace op.rightLevel right.level
    have sign : Passes op.spelling := by cases op <;> decide +kernel
    have blank : Closes " " := by decide +kernel
    rw [Expr.toText_binary]
    exact (((leftPasses.append blank).passes sign).append blank).passes rightPasses
  | .call function arguments, fits => by
    obtain ⟨called, others⟩ := List.forall_mem_cons.1 fits
    have texts := passes_intercalate (Expr.allPass arguments others)
    have opens : Closes "(" := by decide +kernel
    have closes : Closes ")" := by decide +kernel
    exact .inl ((((passes_name called).append opens).passes texts).append closes)
  | .builtin function arguments, fits => passes_builtin function (Expr.allPass arguments fits)
  | .toFloat value, fits => by
    have opens : Finishes "float(" := by decide +kernel
    have closes : Closes ")" := by decide +kernel
    exact .inl ((opens.passes (value.passes fits)).append closes)

/-- The texts of expressions pass if their names are names of the host. -/
theorem Expr.allPass : ∀ exprs : List Expr,
    (∀ name ∈ Expr.allNames exprs, isIdentifier name = true) →
      ∀ text ∈ Expr.texts exprs, Passes text
  | [], _ => fun _ inside => absurd inside List.not_mem_nil
  | expr :: rest, fits =>
    List.forall_mem_cons.2
      ⟨expr.passes fun name inside => fits name (List.mem_append_left _ inside),
        Expr.allPass rest fun name inside => fits name (List.mem_append_right _ inside)⟩

end

end Lag.Host
