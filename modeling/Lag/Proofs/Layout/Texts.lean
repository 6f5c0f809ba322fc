import Lag.Proofs.Limits.Lines
import Lag.Proofs.Naming.Free
import Lag.Proofs.Reading.Written

/-!
# Texts of expressions on their lines

The text of an expression stands on one line, is not taken for a statement of another kind, and
opens nothing: its first word starts no statement, no value is given after it, and its last
character is neither a colon nor a brace.
-/
namespace Lag.Host

/-- The words that statements start with, expressions aside. -/
def statementWords : List String := [
  "pass", "return", "global", "import", "if", "elif", "else", "while", "for", "def"]

/-- What may follow the first word of an expression: nothing, a sign, or an operator after a blank.
A single equals sign after a blank gives a value instead. -/
inductive Continues : List Char → Prop where
  /-- Nothing follows. -/
  | nil : Continues []
  /-- A sign follows at once. -/
  | sign {c : Char} {rest : List Char} (sign : isWordChar c = false) (seen : c ≠ ' ') :
      Continues (c :: rest)
  /-- Something follows after a blank. -/
  | blank {c : Char} {rest : List Char} (differs : c ≠ '=') : Continues (' ' :: c :: rest)
  /-- A test for equality follows. -/
  | equal {rest : List Char} : Continues (' ' :: '=' :: '=' :: rest)

/-- A character that the text of an expression may start with. -/
def mayStart (c : Char) : Prop := c ≠ ' ' ∧ c ≠ '#' ∧ c ≠ '=' ∧ c ≠ '\x7b' ∧ c ≠ '\n'

instance (c : Char) : Decidable (mayStart c) :=
  inferInstanceAs (Decidable (c ≠ ' ' ∧ c ≠ '#' ∧ c ≠ '=' ∧ c ≠ '\x7b' ∧ c ≠ '\n'))

/-- A character that the text of an expression may end with. -/
def mayEnd (c : Char) : Prop := c ≠ ':' ∧ c ≠ '\x7b'

instance (c : Char) : Decidable (mayEnd c) := inferInstanceAs (Decidable (c ≠ ':' ∧ c ≠ '\x7b'))

/-- A text that starts like an expression: its first word, which may be empty, starts no other
statement. -/
structure Opens (text : List Char) (word rest : List Char) : Prop where
  /-- The text is the word and what follows it. -/
  shape : text = word ++ rest
  /-- The word is one. -/
  letters : ∀ c ∈ word, isWordChar c = true
  /-- The word starts no statement. -/
  plain : String.ofList word ∉ statementWords
  /-- No value is given after the word. -/
  continues : Continues rest
  /-- The text may start so. -/
  starts : ∃ c ∈ text.head?, mayStart c

/-- The text of an expression on its line. -/
structure IsExpression (text : String) : Prop where
  /-- It starts like an expression. -/
  opens : ∃ word rest, Opens text.toList word rest
  /-- It does not end like the first line of a body. -/
  closes : ∃ c ∈ text.toList.getLast?, mayEnd c
  /-- It has no line feed. -/
  single : '\n' ∉ text.toList

/-! ## Parts of texts -/

/-- Texts without line feeds one after the other. -/
theorem single_append {first second : String} (single : '\n' ∉ first.toList)
    (others : '\n' ∉ second.toList) : '\n' ∉ (first ++ second).toList := by
  rw [String.toList_append, List.mem_append]
  exact not_or.2 ⟨single, others⟩

/-- Texts without line feeds with commas between them. -/
theorem single_intercalate : ∀ {texts : List String}, (∀ text ∈ texts, '\n' ∉ text.toList) →
    '\n' ∉ (", ".intercalate texts).toList
  | [], _ => by decide
  | [text], all => by
    rw [String.intercalate_singleton]
    exact all text List.mem_cons_self
  | text :: next :: rest, all => by
    obtain ⟨first, others⟩ := List.forall_mem_cons.1 all
    rw [String.intercalate_cons_cons]
    exact single_append (single_append first (by decide)) (single_intercalate others)

/-- A text ends as its last part ends. -/
theorem closes_append {first second : String} (closes : ∃ c ∈ second.toList.getLast?, mayEnd c) :
    ∃ c ∈ (first ++ second).toList.getLast?, mayEnd c := by
  obtain ⟨c, last, ends⟩ := closes
  rw [String.toList_append, List.getLast?_append, Option.mem_def.1 last]
  exact ⟨c, rfl, ends⟩

/-- A text starts as its first part starts. -/
theorem starts_append {first second : List Char} (starts : ∃ c ∈ first.head?, mayStart c) :
    ∃ c ∈ (first ++ second).head?, mayStart c := by
  obtain ⟨c, head, may⟩ := starts
  rw [List.head?_append, Option.mem_def.1 head]
  exact ⟨c, rfl, may⟩

/-- The text of an expression may start and end with a word character, which is no line feed. -/
theorem plain_of_letter {c : Char} (letter : isWordChar c = true) :
    mayStart c ∧ mayEnd c ∧ c ≠ '\n' := by
  refine ⟨⟨?_, ?_, ?_, ?_, ?_⟩, ⟨?_, ?_⟩, ?_⟩ <;> rintro rfl <;> exact absurd letter (by decide)

/-! ## Words -/

/-- A word that starts no other statement opens a text, with what continues it. -/
theorem opens_word {word : List Char} {first : Char} {others : List Char}
    (shape : word = first :: others) (letters : ∀ c ∈ word, isWordChar c = true)
    (plain : String.ofList word ∉ statementWords) {rest : List Char} (continues : Continues rest) :
    Opens (word ++ rest) word rest := by
  subst shape
  have may := (plain_of_letter (letters first List.mem_cons_self)).1
  exact ⟨rfl, letters, plain, continues, first, rfl, may⟩

/-- A sign opens a text. -/
theorem opens_sign {c : Char} (sign : isWordChar c = false) (may : mayStart c) (rest : List Char) :
    Opens (c :: rest) [] (c :: rest) :=
  ⟨rfl, fun _ inside => absurd inside List.not_mem_nil, by decide, .sign sign may.1, c, rfl, may⟩

/-- The words that statements start with are keywords. -/
theorem keywords_statement : ∀ word ∈ statementWords, keywords.contains word = true := by decide

/-- The parts of a name. -/
theorem name_parts {name : String} (isName : isWord name = true) :
    (∃ first others, name.toList = first :: others) ∧ (∀ c ∈ name.toList, isWordChar c = true) ∧
      String.ofList name.toList ∉ statementWords := by
  obtain ⟨letters, starts, unreserved⟩ := isWord_iff.1 isName
  refine ⟨?_, List.all_eq_true.1 letters, fun statement => ?_⟩
  · cases shape : name.toList with
    | nil =>
      rw [shape] at starts
      cases starts
    | cons first others => exact ⟨first, others, rfl⟩
  · rw [String.ofList_toList] at statement
    rw [keywords_statement name statement] at unreserved
    cases unreserved

/-- A name has no line feed. -/
theorem name_single {name : String} (isName : isWord name = true) : '\n' ∉ name.toList :=
  fun inside => absurd ((name_parts isName).2.1 _ inside) (by decide)

/-- A name is the text of an expression. -/
theorem isExpression_name {name : String} (isName : isWord name = true) : IsExpression name := by
  obtain ⟨⟨first, others, shape⟩, letters, plain⟩ := name_parts isName
  have opens := opens_word shape letters plain .nil
  rw [List.append_nil] at opens
  refine ⟨⟨_, _, opens⟩, ?_, name_single isName⟩
  have last := List.getLast?_eq_some_getLast (shape ▸ List.cons_ne_nil first others)
  exact ⟨_, last, (plain_of_letter (letters _ (List.getLast_mem _))).2.1⟩

/-- A numeral is the text of an expression. -/
theorem isExpression_numeral {text : String} (numeral : Every isNumeral text) (some : text ≠ "") :
    IsExpression text := by
  have signs : ∀ c, isNumeral c → mayStart c ∧ mayEnd c ∧ c ≠ '\n' ∧
      (isWordChar c = true → c.isDigit = true ∨ c = 'e') := by
    rintro c (digit | rfl | rfl | rfl | rfl)
    · have letter : isWordChar c = true := by simp [isWordChar, Char.isAlphanum, digit]
      obtain ⟨may, ends, single⟩ := plain_of_letter letter
      exact ⟨may, ends, single, fun _ => .inl digit⟩
    all_goals decide
  have nonempty : text.toList ≠ [] := fun empty => some (String.toList_eq_nil_iff.1 empty)
  have word : ∀ c ∈ text.toList.takeWhile isWordChar, isWordChar c = true :=
    List.all_eq_true.1 List.all_takeWhile
  refine ⟨⟨text.toList.takeWhile isWordChar, text.toList.dropWhile isWordChar,
    List.takeWhile_append_dropWhile.symm, word, ?_, ?_, ?_⟩, ?_, fun inside => ?_⟩
  · -- No statement starts with a word of digits and the letter of an exponent.
    intro statement
    have letters : ∀ other ∈ statementWords,
        other.toList.any (fun c => !c.isDigit && c != 'e') = true := by decide
    obtain ⟨c, inside, other⟩ := List.any_eq_true.1 (letters _ statement)
    rw [String.toList_ofList] at inside
    rcases (signs c (numeral c (List.takeWhile_subset isWordChar inside))).2.2.2 (word c inside) with
      isDigit | rfl
    · rw [isDigit] at other
      cases other
    · exact absurd other (by decide)
  · cases rest : text.toList.dropWhile isWordChar with
    | nil => exact .nil
    | cons c others =>
      have sign : isWordChar c = false := by
        have stops := List.head?_dropWhile_not isWordChar text.toList
        rw [rest] at stops
        simpa using stops
      have inside : c ∈ text.toList :=
        (List.dropWhile_sublist isWordChar).subset (rest ▸ List.mem_cons_self)
      exact .sign sign (signs c (numeral c inside)).1.1
  · obtain ⟨c, rest, shape⟩ := List.exists_cons_of_ne_nil nonempty
    exact ⟨c, by rw [shape]; rfl, (signs c (numeral c (shape ▸ List.mem_cons_self))).1⟩
  · have last := List.getLast?_eq_some_getLast nonempty
    exact ⟨_, last, (signs _ (numeral _ (List.getLast_mem nonempty))).2.1⟩
  · exact (signs _ (numeral _ inside)).2.2.1 rfl

/-- Numbers are not empty. -/
theorem toString_ne_empty (number : Nat) : toString number ≠ "" := by
  intro empty
  have digits : (toString number).toList = Nat.toDigits 10 number := Nat.toList_repr
  obtain ⟨digit, rest, shape, _⟩ := toDigits_eq_cons number
  rw [empty, shape] at digits
  cases digits

/-- Decimals are not empty. -/
theorem decimal_ne_empty (decimal : Number.Decimal) : decimal.toText ≠ "" := by
  unfold Number.Decimal.toText
  dsimp only
  split
  · split
    · simp
    · split <;> simp
  · simp

/-- The text of a float is that of an expression. -/
theorem isExpression_float (value : Float) : IsExpression (Number.floatText value) := by
  have sign : ∀ word : List Char, (∃ first others, word = first :: others) →
      (∀ c ∈ word, isWordChar c = true) → String.ofList word ∉ statementWords →
        Opens word word [] := fun word ⟨_, _, shape⟩ letters plain => by
    have opens := opens_word shape letters plain .nil
    rwa [List.append_nil] at opens
  rcases floatText_cases value with word | numeral
  · generalize Number.floatText value = text at word
    simp only [List.mem_cons, List.not_mem_nil, or_false] at word
    rcases word with rfl | rfl | rfl
    · have opens := sign "nan".toList ⟨_, _, rfl⟩ (List.all_eq_true.1 (by decide)) (by decide)
      exact ⟨⟨_, _, opens⟩, ⟨'n', by decide⟩, by decide⟩
    · have opens := sign "inf".toList ⟨_, _, rfl⟩ (List.all_eq_true.1 (by decide)) (by decide)
      exact ⟨⟨_, _, opens⟩, ⟨'f', by decide⟩, by decide⟩
    · exact ⟨⟨_, _, opens_sign (by decide) (by decide) "inf".toList⟩, ⟨'f', by decide⟩, by decide⟩
  · refine isExpression_numeral numeral ?_
    unfold Number.floatText
    split
    · decide
    · split <;> decide
    · split
      · simp
      · split
        · simp
        · simp [decimal_ne_empty]

/-! ## Quoted texts -/

/-- A quoted character is not written by a line feed. -/
theorem single_quotedChar {mark : Char} (isMark : mark = Text.apostrophe ∨ mark = Text.doubleQuote)
    (c : Char) : '\n' ∉ Text.quotedChar mark c := by
  have digits : ∀ width value, '\n' ∉ Text.hexDigits width value := by
    intro width
    induction width with
    | zero => exact fun _ => List.not_mem_nil
    | succ width ih =>
      intro value inside
      rcases List.mem_append.1 inside with before | last
      · exact ih _ before
      · have all : ∀ digit : Fin 16, '\n' ≠ Text.hexDigit digit.val := by decide
        exact all ⟨value % 16, Nat.mod_lt _ (by omega)⟩ (List.mem_singleton.1 last)
  have code : '\n' ∉ Text.charCode c := by
    unfold Text.charCode
    split
    · simp [digits]
    · split <;> simp [digits]
  unfold Text.quotedChar
  split
  · rename_i special
    rcases special with rfl | rfl
    · rcases isMark with rfl | rfl <;> decide
    · decide
  · split
    · decide
    · split
      · decide
      · split
        · decide
        · split
          · rename_i plain _ _ _
            simpa using Ne.symm plain
          · exact code

/-- A quoted text is the text of an expression. -/
theorem isExpression_quoted (value : String) : IsExpression (Text.quoted value) := by
  obtain ⟨mark, isMark, shape⟩ := toList_quoted value
  have plain : isWordChar mark = false ∧ mayStart mark ∧ mayEnd mark ∧ '\n' ≠ mark := by
    rcases isMark with rfl | rfl <;> decide
  have opens := opens_sign plain.1 plain.2.1
    (value.toList.flatMap (Text.quotedChar mark) ++ [mark])
  rw [← shape] at opens
  refine ⟨⟨_, _, opens⟩, ⟨mark, ?_, plain.2.2.1⟩, fun inside => ?_⟩
  · rw [shape, ← List.cons_append]
    exact List.getLast?_concat
  · rw [shape] at inside
    rcases List.mem_cons.1 inside with first | others
    · exact plain.2.2.2 first
    · rcases List.mem_append.1 others with within | last
      · obtain ⟨c, _, member⟩ := List.mem_flatMap.1 within
        exact single_quotedChar isMark c member
      · exact plain.2.2.2 (List.mem_singleton.1 last)

/-! ## Operations -/

/-- An expression in parentheses is one. -/
theorem isExpression_parentheses {text : String} (isExpression : IsExpression text) :
    IsExpression ("(" ++ text ++ ")") := by
  have opens := @opens_sign '(' (by decide) (by decide) (text.toList ++ [')'])
  have shape : ("(" ++ text ++ ")").toList = '(' :: (text.toList ++ [')']) := by simp
  rw [← shape] at opens
  exact ⟨⟨_, _, opens⟩, closes_append ⟨')', by decide⟩,
    single_append (single_append (by decide) isExpression.single) (by decide)⟩

/-- An expression in its place is one. -/
theorem IsExpression.inPlace {text : String} (isExpression : IsExpression text)
    (minimum level : Level) : IsExpression (atLevel minimum level text) := by
  unfold atLevel
  split
  · exact isExpression_parentheses isExpression
  · exact isExpression

/-- What continues an expression continues it with an operator after it. -/
theorem Continues.operator {rest : List Char} (continues : Continues rest) (op : Operator)
    (right : List Char) : Continues (rest ++ ' ' :: (op.spelling.toList ++ ' ' :: right)) := by
  cases continues with
  | nil => cases op <;> first | exact .equal | exact .blank (by decide)
  | sign sign seen => exact .sign sign seen
  | blank differs => exact .blank differs
  | equal => exact .equal

/-- An operator between expressions makes an expression. -/
theorem isExpression_binary {left right : String} (op : Operator) (first : IsExpression left)
    (second : IsExpression right) : IsExpression (left ++ " " ++ op.spelling ++ " " ++ right) := by
  obtain ⟨word, rest, shape, letters, plain, continues, starts⟩ := first.opens
  have sign : '\n' ∉ op.spelling.toList := by cases op <;> decide
  have whole : (left ++ " " ++ op.spelling ++ " " ++ right).toList =
      left.toList ++ ' ' :: (op.spelling.toList ++ ' ' :: right.toList) := by simp
  refine ⟨⟨word, _, ?_, letters, plain, continues.operator op right.toList, ?_⟩,
    closes_append second.closes, ?_⟩
  · rw [whole, shape, List.append_assoc]
  · rw [whole]
    exact starts_append starts
  · have blank : '\n' ∉ " ".toList := by decide
    have front := single_append (single_append first.single blank) sign
    exact single_append (single_append front blank) second.single

/-- A negation of truth is an expression. -/
theorem isExpression_not {text : String} (isExpression : IsExpression text) :
    IsExpression ("not " ++ text) := by
  obtain ⟨c, head, may⟩ := isExpression.opens.choose_spec.choose_spec.starts
  obtain ⟨rest, shape⟩ : ∃ rest, text.toList = c :: rest := List.head?_eq_some_iff.1 head
  have whole : ("not " ++ text).toList = "not".toList ++ ' ' :: c :: rest := by
    rw [String.toList_append, shape]
    rfl
  have opens := @opens_word "not".toList _ _ rfl (List.all_eq_true.1 (by decide)) (by decide) _
    (@Continues.blank c rest may.2.2.1)
  rw [← whole] at opens
  exact ⟨⟨_, _, opens⟩, closes_append isExpression.closes,
    single_append (by decide) isExpression.single⟩

/-- A change of sign is an expression. -/
theorem isExpression_negate {text : String} (isExpression : IsExpression text) :
    IsExpression ("-" ++ text) := by
  have opens := @opens_sign '-' (by decide) (by decide) text.toList
  have shape : ("-" ++ text).toList = '-' :: text.toList := by simp
  rw [← shape] at opens
  exact ⟨⟨_, _, opens⟩, closes_append isExpression.closes,
    single_append (by decide) isExpression.single⟩

/-- A call is an expression, whatever stands between its parentheses on the line. -/
theorem isExpression_call {opening inside closing : String} {word : List Char} {c : Char}
    {rest : List Char} (shape : opening.toList = word ++ c :: rest) (some : word ≠ [])
    (letters : word.all isWordChar = true) (plain : String.ofList word ∉ statementWords)
    (sign : isWordChar c = false ∧ c ≠ ' ') (first : '\n' ∉ opening.toList)
    (single : '\n' ∉ inside.toList)
    (ends : (∃ c ∈ closing.toList.getLast?, mayEnd c) ∧ '\n' ∉ closing.toList) :
    IsExpression (opening ++ inside ++ closing) := by
  obtain ⟨letter, others, isWord⟩ := List.exists_cons_of_ne_nil some
  have whole : (opening ++ inside ++ closing).toList =
      word ++ c :: (rest ++ inside.toList ++ closing.toList) := by
    rw [String.toList_append, String.toList_append, shape]
    simp
  have opens := opens_word isWord (List.all_eq_true.1 letters) plain
    (@Continues.sign c (rest ++ inside.toList ++ closing.toList) sign.1 sign.2)
  rw [← whole] at opens
  exact ⟨⟨_, _, opens⟩, closes_append ends.1, single_append (single_append first single) ends.2⟩

/-- A call of a built-in function is an expression. -/
theorem isExpression_builtin (function : Builtin) {texts : List String}
    (single : ∀ text ∈ texts, '\n' ∉ text.toList) : IsExpression (builtinText function texts) := by
  have argument : '\n' ∉ (texts.headD "").toList := by
    cases texts with
    | nil => decide
    | cons text _ => exact single text List.mem_cons_self
  have closes : (∃ c ∈ ")".toList.getLast?, mayEnd c) ∧ '\n' ∉ ")".toList :=
    ⟨⟨')', by decide⟩, by decide⟩
  cases function with
  | print =>
    exact @isExpression_call "_lag_logger.info('%s', _lag_str(" _ "))" "_lag_logger".toList '.' _ rfl
      (by decide) (by decide) (by decide) (by decide) (by decide) argument
      ⟨⟨')', by decide⟩, by decide⟩
  | str =>
    exact @isExpression_call "_lag_str(" _ ")" "_lag_str".toList '(' _ rfl (by decide) (by decide)
      (by decide) (by decide) (by decide) argument closes
  | len =>
    exact @isExpression_call "len(" _ ")" "len".toList '(' _ rfl (by decide) (by decide)
      (by decide) (by decide) (by decide) argument closes
  | sqrt =>
    exact @isExpression_call "_lag_math.sqrt(" _ ")" "_lag_math".toList '.' _ rfl (by decide)
      (by decide) (by decide) (by decide) (by decide) argument closes
  | floor =>
    exact @isExpression_call "_lag_math.floor(" _ ")" "_lag_math".toList '.' _ rfl (by decide)
      (by decide) (by decide) (by decide) (by decide) argument closes

mutual

/-- The text of an expression is one if the names in it are names. -/
theorem Expr.isExpression : ∀ expr : Expr, (∀ name ∈ expr.names, isWord name = true) →
    IsExpression expr.toText
  | .int value, _ => isExpression_numeral (numeral_toString value) (toString_ne_empty value)
  | .float value, _ => isExpression_float value
  | .text value, _ => isExpression_quoted value
  | .truth value, _ => by
    cases value with
    | true =>
      have opens := @opens_word "True".toList _ _ rfl (List.all_eq_true.1 (by decide)) (by decide)
        _ .nil
      exact ⟨⟨_, _, opens⟩, ⟨'e', by decide⟩, (by decide : '\n' ∉ "True".toList)⟩
    | false =>
      have opens := @opens_word "False".toList _ _ rfl (List.all_eq_true.1 (by decide)) (by decide)
        _ .nil
      exact ⟨⟨_, _, opens⟩, ⟨'e', by decide⟩, (by decide : '\n' ∉ "False".toList)⟩
  | .read name, named => isExpression_name (named name List.mem_cons_self)
  | .not operand, named => isExpression_not ((operand.isExpression named).inPlace _ _)
  | .negate operand, named => isExpression_negate ((operand.isExpression named).inPlace _ _)
  | .binary op left right, named => by
    obtain ⟨leftNamed, rightNamed⟩ := List.forall_mem_append.1 named
    have first := (left.isExpression leftNamed).inPlace op.leftLevel left.level
    have second := (right.isExpression rightNamed).inPlace op.rightLevel right.level
    rw [Expr.toText_binary]
    exact isExpression_binary op first second
  | .call function arguments, named => by
    obtain ⟨called, others⟩ := List.forall_mem_cons.1 named
    obtain ⟨⟨first, rest, shape⟩, letters, plain⟩ := name_parts called
    have single := single_intercalate fun text inside =>
      (Expr.allExpressions arguments others text inside).single
    have opening : (function ++ "(").toList = function.toList ++ '(' :: [] := by simp
    exact isExpression_call opening (shape ▸ List.cons_ne_nil first rest)
      (List.all_eq_true.2 letters) plain ⟨by decide, by decide⟩
      (single_append (name_single called) (by decide)) single ⟨⟨')', by decide⟩, by decide⟩
  | .builtin function arguments, named => isExpression_builtin function fun text inside =>
    (Expr.allExpressions arguments named text inside).single
  | .toFloat value, named =>
    @isExpression_call "float(" _ ")" "float".toList '(' _ rfl (by decide) (by decide) (by decide)
      (by decide) (by decide) (value.isExpression named).single ⟨⟨')', by decide⟩, by decide⟩

/-- The texts of expressions are ones if the names in them are names. -/
theorem Expr.allExpressions : ∀ exprs : List Expr,
    (∀ name ∈ Expr.allNames exprs, isWord name = true) → ∀ text ∈ Expr.texts exprs, IsExpression text
  | [], _ => fun _ inside => absurd inside List.not_mem_nil
  | expr :: rest, named => by
    obtain ⟨here, others⟩ := List.forall_mem_append.1 named
    exact List.forall_mem_cons.2 ⟨expr.isExpression here, Expr.allExpressions rest others⟩

end

/-! ## Lines -/

/-- A text that stands on its line: it is on one line, is not blank, and is no comment. -/
structure Stands (text : String) : Prop where
  /-- It starts neither with a blank nor like a comment. -/
  starts : ∃ c ∈ text.toList.head?, c ≠ ' ' ∧ c ≠ '#'
  /-- It has no line feed. -/
  single : '\n' ∉ text.toList

/-- An expression stands on its line. -/
theorem IsExpression.stands {text : String} (isExpression : IsExpression text) : Stands text := by
  obtain ⟨c, head, may⟩ := isExpression.opens.choose_spec.choose_spec.starts
  exact ⟨⟨c, head, may.1, may.2.1⟩, isExpression.single⟩

/-- What stands on its line may go on. -/
theorem Stands.append {first second : String} (stands : Stands first)
    (single : '\n' ∉ second.toList) : Stands (first ++ second) := by
  obtain ⟨c, head, plain⟩ := stands.starts
  refine ⟨⟨c, ?_, plain⟩, single_append stands.single single⟩
  rw [String.toList_append, List.head?_append, Option.mem_def.1 head]
  rfl

/-- The texts of all lines after the prelude stand on their lines. -/
theorem covers_stands : Covers (isWord · = true) Stands where
  fixed text inside := by
    have starts : ∀ text ∈ fixedTexts,
        text.toList.head?.any (fun c => c != ' ' && c != '#') = true := by decide
    have single : ∀ text ∈ fixedTexts, '\n' ∉ text.toList := by decide
    obtain ⟨c, head, plain⟩ := (Option.any_eq_true _ _).1 (starts text inside)
    rw [Bool.and_eq_true, bne_iff_ne, bne_iff_ne] at plain
    exact ⟨⟨c, head, plain⟩, single text inside⟩
  assign {name value} isName named := by
    have equals : '\n' ∉ " = ".toList := by decide
    exact ((isExpression_name isName).stands.append equals).append (value.isExpression named).single
  evaluate {value} named := (value.isExpression named).stands
  leave {value} named := by
    have opens : Stands "return " := ⟨⟨'r', by decide⟩, by decide⟩
    exact opens.append (value.isExpression named).single
  test {word test} conditional named := by
    have opens : Stands word := by
      simp only [List.mem_cons, List.not_mem_nil, or_false] at conditional
      rcases conditional with rfl | rfl | rfl <;> exact ⟨⟨_, rfl, by decide⟩, by decide⟩
    have blank : '\n' ∉ " ".toList := by decide
    have colon : '\n' ∉ ":".toList := by decide
    exact ((opens.append blank).append (test.isExpression named).single).append colon
  loop {counter first bound} isName firstNamed boundNamed := by
    have opens : Stands "for " := ⟨⟨'f', by decide⟩, by decide⟩
    have range : '\n' ∉ " in range(".toList := by decide
    have comma : '\n' ∉ ", ".toList := by decide
    have closes : '\n' ∉ "):".toList := by decide
    have lower := ((opens.append (name_single isName)).append range).append
      (first.isExpression firstNamed).single
    exact ((lower.append comma).append (bound.isExpression boundNamed).single).append closes
  listed {names} named := by
    have opens : Stands "global " := ⟨⟨'g', by decide⟩, by decide⟩
    exact opens.append (single_intercalate fun name inside => name_single (named name inside))
  define {name params} isName paramsNamed := by
    have opens : Stands "def " := ⟨⟨'d', by decide⟩, by decide⟩
    have parenthesis : '\n' ∉ "(".toList := by decide
    have closes : '\n' ∉ "):".toList := by decide
    have listed := single_intercalate fun param inside => name_single (paramsNamed param inside)
    exact (((opens.append (name_single isName)).append parenthesis).append listed).append closes
  entry {exported name} isName := by
    have colon : '\n' ∉ ": ".toList := by decide
    have comma : '\n' ∉ ",".toList := by decide
    exact (((isExpression_quoted exported).stands.append colon).append (name_single isName)).append
      comma

end Lag.Host
