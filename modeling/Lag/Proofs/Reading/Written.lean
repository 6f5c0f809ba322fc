import Lag.Host.Print
import Lag.Proofs.Reading.Parsed

/-!
# Expressions that are written and read back

The text of an expression is read back as the expression: every operand stands in parentheses where
its place asks for a higher level than it has, so every operator keeps its operands. The calls of
built-in functions are read back as the calls that they stand for.
-/
namespace Lag.Host

/-! ## Texts of lexemes -/

/-- A text that is cut into lexemes wherever an operand may stand. -/
def Lexes (text : String) (found : List Lexeme) : Prop :=
  ∀ rest, Closed rest → lexemes (text.toList ++ rest) = (lexemes rest).map (found ++ ·)

/-- Lexemes in front of lexemes in front of a text. -/
theorem map_append_map (found others : List Lexeme) (rest : Option (List Lexeme)) :
    (rest.map (others ++ ·)).map (found ++ ·) = rest.map (found ++ others ++ ·) := by
  cases rest with
  | none => rfl
  | some rest =>
    show some (found ++ (others ++ rest)) = some (found ++ others ++ rest)
    rw [List.append_assoc]

/-- Whether a text is a name of the grammar. -/
def isWord (name : String) : Bool :=
  name.toList.all isWordChar && name.toList.head?.any (!·.isDigit) && !keywords.contains name

/-- The parts of a name of the grammar. -/
theorem isWord_iff {name : String} : isWord name = true ↔
    name.toList.all isWordChar = true ∧ name.toList.head?.any (!·.isDigit) = true ∧
      keywords.contains name = false := by
  simp only [isWord, Bool.and_eq_true, Bool.not_eq_true', and_assoc]

/-- A word is one lexeme. -/
theorem lexes_word {name : String} (letters : name.toList.all isWordChar = true)
    (starts : name.toList.head?.any (!·.isDigit) = true) {rest : List Char}
    (ends : ∀ c ∈ rest.head?, isWordChar c = false) :
    lexemes (name.toList ++ rest) = (lexemes rest).map ([.word name] ++ ·) := by
  cases shape : name.toList with
  | nil =>
    rw [shape] at starts
    cases starts
  | cons first others =>
    rw [shape] at letters starts
    have isLetter := List.all_eq_true.1 letters
    have digit : first.isDigit = false := by simpa using starts
    have whole : String.ofList (first :: others) = name := by
      rw [← shape, String.ofList_toList]
    rw [lexemes_word (isLetter first List.mem_cons_self) digit
      (fun c inside => isLetter c (List.mem_cons_of_mem _ inside)) ends, whole]
    rfl

/-- A text between parentheses. -/
theorem lexes_parentheses {text : String} {found : List Lexeme} (lexes : Lexes text found) :
    Lexes ("(" ++ text ++ ")") (.sign "(" :: found ++ [.sign ")"]) := by
  intro rest closed
  have chars : ("(" ++ text ++ ")").toList ++ rest = '(' :: (text.toList ++ ')' :: rest) := by
    simp
  rw [chars, lexemes_sign (.inl rfl), lexes _ (closed_cons (.inr (.inl rfl)) rest),
    lexemes_sign (.inr (.inl rfl))]
  cases lexemes rest with
  | none => rfl
  | some rest => simp

/-- An operator between its operands. -/
theorem lexes_operator (op : Operator) {left right : String} {leftFound rightFound : List Lexeme}
    (leftLexes : Lexes left leftFound) (rightLexes : Lexes right rightFound) :
    Lexes (left ++ " " ++ op.spelling ++ " " ++ right)
      (leftFound ++ op.lexeme :: rightFound) := by
  intro rest closed
  have chars : (left ++ " " ++ op.spelling ++ " " ++ right).toList ++ rest =
      left.toList ++ ' ' :: (op.spelling.toList ++ ' ' :: (right.toList ++ rest)) := by
    simp
  rw [chars, leftLexes _ (closed_cons (.inl rfl) _), lexemes_blank, lexemes_operator,
    rightLexes _ closed]
  cases lexemes rest with
  | none => rfl
  | some rest => simp

/-- A negation of truth in front of its operand. -/
theorem lexes_not {text : String} {found : List Lexeme} (lexes : Lexes text found) :
    Lexes ("not " ++ text) (.word "not" :: found) := by
  intro rest closed
  have chars : ("not " ++ text).toList ++ rest =
      "not".toList ++ ' ' :: (text.toList ++ rest) := by
    simp
  have ends : ∀ c ∈ (' ' :: (text.toList ++ rest)).head?, isWordChar c = false :=
    (closed_cons (.inl rfl) _).not_word
  rw [chars, lexes_word (by decide) (by decide) ends, lexemes_blank, lexes _ closed,
    map_append_map]
  rfl

/-- A change of sign in front of its operand. -/
theorem lexes_negate {text : String} {found : List Lexeme} (lexes : Lexes text found) :
    Lexes ("-" ++ text) (.sign "-" :: found) := by
  intro rest closed
  have chars : ("-" ++ text).toList ++ rest = '-' :: (text.toList ++ rest) := by simp
  rw [chars, lexemes_sign (.inr (.inr (.inr (.inr rfl)))), lexes _ closed]
  exact map_append_map [.sign "-"] found _

/-- A part of what a name stands for. -/
theorem lexes_part {holder name : String} (isHolder : isWord holder = true)
    (isName : isWord name = true) :
    Lexes (holder ++ "." ++ name) [.word holder, .sign ".", .word name] := by
  intro rest closed
  obtain ⟨holderLetters, holderStarts, _⟩ := isWord_iff.1 isHolder
  obtain ⟨letters, starts, _⟩ := isWord_iff.1 isName
  have chars : (holder ++ "." ++ name).toList ++ rest =
      holder.toList ++ '.' :: (name.toList ++ rest) := by
    simp
  have ends : ∀ c ∈ ('.' :: (name.toList ++ rest)).head?, isWordChar c = false := by
    intro c inside
    obtain rfl : '.' = c := by simpa using inside
    decide
  rw [chars, lexes_word holderLetters holderStarts ends,
    lexemes_sign (.inr (.inr (.inr (.inl rfl)))), lexes_word letters starts closed.not_word]
  cases lexemes rest with
  | none => rfl
  | some rest => rfl

/-- Arguments with commas between them. -/
theorem lexes_separated {texts : List String} {founds : List (List Lexeme)}
    (all : List.Forall₂ Lexes texts founds) :
    Lexes (", ".intercalate texts) (separated founds) := by
  induction all with
  | nil =>
    intro rest _
    rw [String.intercalate_nil]
    show lexemes rest = (lexemes rest).map ([] ++ ·)
    cases lexemes rest <;> rfl
  | @cons text found texts founds lexes others ih =>
    cases others with
    | nil =>
      rw [String.intercalate_singleton, separated, List.flatMap_nil, List.append_nil]
      exact lexes
    | @cons next nextFound texts founds nextLexes others =>
      intro rest closed
      have chars : (", ".intercalate (text :: next :: texts)).toList ++ rest =
          text.toList ++ ',' :: ' ' :: ((", ".intercalate (next :: texts)).toList ++ rest) := by
        rw [String.intercalate_cons_cons, String.toList_append, String.toList_append]
        simp
      have parts : separated (found :: nextFound :: founds) =
          found ++ .sign "," :: separated (nextFound :: founds) := by
        rw [separated, separated, List.flatMap_cons, List.cons_append]
      rw [chars, lexes _ (closed_cons (.inr (.inr (.inl rfl))) _),
        lexemes_sign (.inr (.inr (.inl rfl))), lexemes_blank, ih _ closed, parts]
      cases lexemes rest with
      | none => rfl
      | some rest => simp

/-- A call of a function with its arguments. -/
theorem lexes_call {function : String} {called : List Lexeme} (lexes : Lexes function called)
    {texts : List String} {founds : List (List Lexeme)} (all : List.Forall₂ Lexes texts founds) :
    Lexes (function ++ "(" ++ ", ".intercalate texts ++ ")")
      (called ++ .sign "(" :: separated founds ++ [.sign ")"]) := by
  intro rest closed
  have chars : (function ++ "(" ++ ", ".intercalate texts ++ ")").toList ++ rest =
      function.toList ++ '(' :: ((", ".intercalate texts).toList ++ ')' :: rest) := by
    simp only [String.toList_append, List.append_assoc]
    rfl
  rw [chars, lexes _ (closed_cons (.inr (.inr (.inr rfl))) _), lexemes_sign (.inl rfl),
    lexes_separated all _ (closed_cons (.inr (.inl rfl)) rest), lexemes_sign (.inr (.inl rfl))]
  cases lexemes rest with
  | none => rfl
  | some rest => simp

/-! ## Texts of phrases -/

/-- A text that is read as a phrase of a level. -/
def Writes (level : Level) (text : String) (phrase : Phrase) : Prop :=
  ∃ found, Lexes text found ∧ Reads level found phrase

/-- A text that is read as something that parts and calls may follow. -/
def Leads (text : String) (phrase : Phrase) : Prop :=
  ∃ found, Lexes text found ∧ Heads found phrase

/-- What parts and calls may follow is a phrase without them. -/
theorem Leads.writes {text : String} {phrase : Phrase} (leads : Leads text phrase) :
    Writes atomLevel text phrase := by
  obtain ⟨found, lexes, heads⟩ := leads
  exact ⟨found, lexes, heads.reads⟩

/-- A name is read as one. -/
theorem leads_name {name : String} (isName : isWord name = true) : Leads name (.name name) := by
  obtain ⟨letters, starts, plain⟩ := isWord_iff.1 isName
  exact ⟨[.word name], fun rest closed => lexes_word letters starts closed.not_word,
    heads_name plain⟩

/-- A part of what a name stands for is read as one. -/
theorem leads_part {holder name : String} (isHolder : isWord holder = true)
    (isName : isWord name = true) : Leads (holder ++ "." ++ name) (.part (.name holder) name) :=
  ⟨_, lexes_part isHolder isName, heads_part (isWord_iff.1 isHolder).2.2 (isWord_iff.1 isName).2.2⟩

/-- The text of a phrase of a level is one for every place. -/
theorem Writes.inPlace {level minimum : Nat} {text : String} {phrase : Phrase}
    (writes : Writes level text phrase) (positive : 0 < level) (below : level ≤ atomLevel)
    (minimumPositive : 0 < minimum) (minimumBelow : minimum ≤ atomLevel) :
    Writes minimum (atLevel minimum level text) phrase := by
  obtain ⟨found, lexes, reads⟩ := writes
  unfold atLevel
  split
  · have whole : Reads 1 found phrase := reads.lower below (by omega) positive
    have atom := reads_parentheses whole
    exact ⟨_, lexes_parentheses lexes, atom.lower (Nat.le_refl _) minimumPositive minimumBelow⟩
  · rename_i strong
    exact ⟨found, lexes, reads.lower below minimumPositive (Nat.le_of_not_lt strong)⟩

/-- The text of a phrase of a level is one of the lowest level. -/
theorem Writes.whole {level : Nat} {text : String} {phrase : Phrase}
    (writes : Writes level text phrase) (positive : 0 < level) (below : level ≤ atomLevel) :
    Writes 1 text phrase := by
  obtain ⟨found, lexes, reads⟩ := writes
  exact ⟨found, lexes, reads.lower below Nat.one_pos positive⟩

/-- A text that is read as a phrase of the lowest level is read as that phrase. -/
theorem Writes.readPhrase {text : String} {phrase : Phrase} (writes : Writes 1 text phrase) :
    readPhrase text = some phrase := by
  obtain ⟨found, lexes, reads⟩ := writes
  have cut : lexemes text.toList = some found := by
    have whole := lexes [] closed_nil
    rwa [List.append_nil, lexemes, Option.map_some, List.append_nil] at whole
  have all := reads.alone (Nat.le_refl _) (stops_nil 1)
  rw [List.append_nil] at all
  rw [Host.readPhrase, cut]
  dsimp only
  rw [expression, all]

/-- The texts of arguments have lexemes that are read. -/
theorem exists_founds {texts : List String} {phrases : List Phrase}
    (all : List.Forall₂ (Writes 1) texts phrases) :
    ∃ founds, List.Forall₂ Lexes texts founds ∧ List.Forall₂ (Reads 1) founds phrases := by
  induction all with
  | nil => exact ⟨[], .nil, .nil⟩
  | cons writes _ ih =>
    obtain ⟨found, lexes, reads⟩ := writes
    obtain ⟨founds, allLexes, allReads⟩ := ih
    exact ⟨found :: founds, .cons lexes allLexes, .cons reads allReads⟩

/-- A call is read with its arguments. -/
theorem Leads.call {function : String} {called : Phrase} (leads : Leads function called)
    {texts : List String} {phrases : List Phrase} (all : List.Forall₂ (Writes 1) texts phrases) :
    Writes atomLevel (function ++ "(" ++ ", ".intercalate texts ++ ")")
      (.call called phrases) := by
  obtain ⟨found, lexes, heads⟩ := leads
  obtain ⟨founds, allLexes, allReads⟩ := exists_founds all
  exact ⟨_, lexes_call lexes allLexes, reads_call heads allReads⟩

/-- A call with one argument is read with it. -/
theorem Leads.callOne {function opening : String} {called : Phrase} (leads : Leads function called)
    (opens : function ++ "(" = opening) {text : String} {phrase : Phrase}
    (writes : Writes 1 text phrase) :
    Writes atomLevel (opening ++ text ++ ")") (.call called [phrase]) := by
  have call := leads.call (.cons writes .nil)
  rwa [String.intercalate_singleton, opens] at call

/-! ## Expressions -/

/-- The call that stands for one of a built-in function. -/
def builtinPhrase (function : Builtin) (arguments : List Phrase) : Phrase :=
  match function with
  | .print =>
    .call (.part (.name "_lag_logger") "info")
      [.literal (.string "%s"), .call (.name "_lag_str") arguments]
  | .str => .call (.name "_lag_str") arguments
  | .len => .call (.name "len") arguments
  | .sqrt => .call (.part (.name "_lag_math") "sqrt") arguments
  | .floor => .call (.part (.name "_lag_math") "floor") arguments

/-- An operator with its operands: a comparison is a chain of its own. -/
def operatorPhrase (op : Operator) (left right : Phrase) : Phrase :=
  if op.level = comparisonLevel then .compare left [(op, right)] else .binary op left right

mutual

/-- The phrase that an expression is. -/
def Expr.phrase : Expr → Phrase
  | .int value => .literal (.int value)
  | .float value => .literal (.float value)
  | .text value => .literal (.string value)
  | .truth value => .literal (.bool value)
  | .read name => .name name
  | .not operand => .not operand.phrase
  | .negate operand => .negate operand.phrase
  | .binary op left right => operatorPhrase op left.phrase right.phrase
  | .call function arguments => .call (.name function) (Expr.phrases arguments)
  | .builtin function arguments => builtinPhrase function (Expr.phrases arguments)
  | .toFloat value => .call (.name "float") [value.phrase]

/-- The phrases that expressions are. -/
def Expr.phrases : List Expr → List Phrase
  | [] => []
  | expr :: rest => expr.phrase :: Expr.phrases rest

end

mutual

/-- An expression whose floats are read back, whose names are names of the grammar, and whose calls
of built-in functions have one argument. -/
def Expr.Readable : Expr → Prop
  | .int _ | .text _ | .truth _ => True
  | .float value => ReadsBack value
  | .read name => isWord name = true
  | .not operand | .negate operand => operand.Readable
  | .binary _ left right => left.Readable ∧ right.Readable
  | .call function arguments => isWord function = true ∧ Expr.AllReadable arguments
  | .builtin _ arguments => arguments.length = 1 ∧ Expr.AllReadable arguments
  | .toFloat value => value.Readable

/-- Expressions that can be read back. -/
def Expr.AllReadable : List Expr → Prop
  | [] => True
  | expr :: rest => expr.Readable ∧ Expr.AllReadable rest

end

/-- The operators after an expression are written after its text. -/
theorem Expr.spine_eq : ∀ (expr : Expr) (rest : List (Operator × String)),
    expr.spine rest = continueText rest expr.level expr.toText
  | .binary op left right, rest => by
    rw [toText, spine, spine, spine_eq left, spine_eq left]
    rfl
  | .int _, _ | .float _, _ | .text _, _ | .truth _, _ | .read _, _ | .not _, _ | .negate _, _
  | .call _ _, _ | .builtin _ _, _ | .toFloat _, _ => rfl

/-- The text of an operator between its operands. -/
theorem Expr.toText_binary (op : Operator) (left right : Expr) :
    (Expr.binary op left right).toText =
      atLevel op.leftLevel left.level left.toText ++ " " ++ op.spelling ++ " " ++
        atLevel op.rightLevel right.level right.toText := by
  rw [toText, spine, spine_eq left]
  rfl

/-- The levels of operators are below those of their right operands. -/
theorem Operator.level_bounds (op : Operator) : 0 < op.level ∧ op.level + 1 ≤ atomLevel := by
  cases op <;> exact ⟨by decide, by decide⟩

/-- The levels of expressions are those of the grammar. -/
theorem Expr.level_bounds (expr : Expr) : 0 < expr.level ∧ expr.level ≤ atomLevel := by
  cases expr with
  | binary op _ _ => exact ⟨op.level_bounds.1, Nat.le_of_succ_le op.level_bounds.2⟩
  | not _ => exact (by decide : 0 < notLevel ∧ notLevel ≤ atomLevel)
  | negate _ => exact (by decide : 0 < negateLevel ∧ negateLevel ≤ atomLevel)
  | _ => exact (by decide : 0 < atomLevel ∧ atomLevel ≤ atomLevel)

/-- An operator is read between operands that stand in their places. -/
theorem writes_operator (op : Operator) {left right : String} {leftPhrase rightPhrase : Phrase}
    (leftWrites : Writes op.leftLevel left leftPhrase)
    (rightWrites : Writes op.rightLevel right rightPhrase) :
    Writes op.level (left ++ " " ++ op.spelling ++ " " ++ right)
      (operatorPhrase op leftPhrase rightPhrase) := by
  obtain ⟨leftFound, leftLexes, leftReads⟩ := leftWrites
  obtain ⟨rightFound, rightLexes, rightReads⟩ := rightWrites
  refine ⟨_, lexes_operator op leftLexes rightLexes, ?_⟩
  unfold Operator.leftLevel at leftReads
  unfold Operator.rightLevel at rightReads
  unfold operatorPhrase
  split
  · rename_i compares
    rw [if_pos compares, compares] at leftReads
    rw [compares] at rightReads ⊢
    exact reads_compare compares leftReads rightReads
  · rename_i plain
    rw [if_neg plain] at leftReads
    exact reads_binary plain leftReads rightReads

/-- A call of a built-in function is read as the call that it stands for. -/
theorem writes_builtin (function : Builtin) {text : String} {phrase : Phrase}
    (writes : Writes 1 text phrase) :
    Writes atomLevel (builtinText function [text]) (builtinPhrase function [phrase]) := by
  have str : Writes atomLevel ("_lag_str(" ++ text ++ ")") (.call (.name "_lag_str") [phrase]) :=
    (leads_name (by decide +kernel)).callOne (by decide +kernel) writes
  cases function with
  | print =>
    have format : Writes atomLevel "'%s'" (.literal (.string "%s")) := by
      have quoted : Text.quoted "%s" = "'%s'" := by decide +kernel
      refine ⟨[.text "%s"], fun rest _ => ?_, (heads_text "%s").reads⟩
      rw [← quoted, lexemes_text]
      rfl
    have arguments : List.Forall₂ (Writes 1) ["'%s'", "_lag_str(" ++ text ++ ")"]
        [.literal (.string "%s"), .call (.name "_lag_str") [phrase]] :=
      .cons (format.whole (by decide) (Nat.le_refl _))
        (.cons (str.whole (by decide) (Nat.le_refl _)) .nil)
    have info : Leads ("_lag_logger" ++ "." ++ "info") (.part (.name "_lag_logger") "info") :=
      leads_part (by decide +kernel) (by decide +kernel)
    have opening : "_lag_logger.info('%s', _lag_str(" =
        "_lag_logger" ++ "." ++ "info" ++ "(" ++ ("'%s'" ++ ", " ++ "_lag_str(") := by
      decide +kernel
    have closing : "))" = ")" ++ ")" := by decide +kernel
    have call := info.call arguments
    rw [String.intercalate_cons_cons, String.intercalate_singleton] at call
    show Writes atomLevel ("_lag_logger.info('%s', _lag_str(" ++ text ++ "))") _
    rw [opening, closing]
    simp only [String.append_assoc] at call ⊢
    exact call
  | str => exact str
  | len =>
    have len : Leads "len" (.name "len") := leads_name (by decide +kernel)
    exact len.callOne (by decide +kernel) writes
  | sqrt =>
    have sqrt : Leads ("_lag_math" ++ "." ++ "sqrt") (.part (.name "_lag_math") "sqrt") :=
      leads_part (by decide +kernel) (by decide +kernel)
    exact sqrt.callOne (by decide +kernel) writes
  | floor =>
    have floor : Leads ("_lag_math" ++ "." ++ "floor") (.part (.name "_lag_math") "floor") :=
      leads_part (by decide +kernel) (by decide +kernel)
    exact floor.callOne (by decide +kernel) writes

mutual

/-- The text of an expression is read as its phrase, at its level. -/
theorem Expr.writes : ∀ expr : Expr, expr.Readable → Writes expr.level expr.toText expr.phrase
  | .int value, _ => by
    refine Leads.writes ⟨[.numeral (.int value)], fun rest closed => ?_, heads_numeral _⟩
    exact lexemes_int value closed
  | .float value, readable => by
    refine Leads.writes ⟨[.numeral (.float value)], fun rest closed => ?_, heads_numeral _⟩
    exact lexemes_float readable closed
  | .text value, _ => by
    refine Leads.writes ⟨[.text value], fun rest _ => ?_, heads_text _⟩
    exact lexemes_text value rest
  | .truth value, _ => by
    refine Leads.writes ⟨[.word _], fun rest closed => ?_, heads_truth value⟩
    cases value with
    | true => exact lexes_word (by decide) (by decide) closed.not_word
    | false => exact lexes_word (by decide) (by decide) closed.not_word
  | .read _, readable => (leads_name readable).writes
  | .not operand, readable => by
    have bounds := operand.level_bounds
    obtain ⟨found, lexes, reads⟩ := (operand.writes readable).inPlace bounds.1 bounds.2
      (by decide : 0 < notLevel) (by decide)
    exact ⟨_, lexes_not lexes, reads_not reads⟩
  | .negate operand, readable => by
    have bounds := operand.level_bounds
    obtain ⟨found, lexes, reads⟩ := (operand.writes readable).inPlace bounds.1 bounds.2
      (by decide : 0 < negateLevel) (by decide)
    exact ⟨_, lexes_negate lexes, reads_negate reads⟩
  | .binary op left right, readable => by
    have levels := op.level_bounds
    have leftBounds := left.level_bounds
    have rightBounds := right.level_bounds
    have leftMinimum : 0 < op.leftLevel ∧ op.leftLevel ≤ atomLevel := by
      cases op <;> exact ⟨by decide, by decide⟩
    have leftWrites := (left.writes readable.1).inPlace leftBounds.1 leftBounds.2
      leftMinimum.1 leftMinimum.2
    have rightWrites := (right.writes readable.2).inPlace rightBounds.1 rightBounds.2
      (Nat.succ_pos op.level) levels.2
    rw [Expr.toText_binary]
    exact writes_operator op leftWrites rightWrites
  | .call function arguments, readable => by
    have all := Expr.allWrite arguments readable.2
    exact (leads_name readable.1).call all
  | .builtin function [argument], readable => by
    have bounds := argument.level_bounds
    have writes := (argument.writes readable.2.1).whole bounds.1 bounds.2
    exact writes_builtin function writes
  | .builtin _ [], readable => absurd readable.1 (by decide)
  | .builtin _ (_ :: _ :: _), readable => absurd readable.1 (by simp)
  | .toFloat value, readable => by
    have bounds := value.level_bounds
    have writes := (value.writes readable).whole bounds.1 bounds.2
    have float : Leads "float" (.name "float") := leads_name (by decide +kernel)
    exact float.callOne (by decide +kernel) writes

/-- The texts of expressions are read as their phrases. -/
theorem Expr.allWrite : ∀ exprs : List Expr, Expr.AllReadable exprs →
    List.Forall₂ (Writes 1) (Expr.texts exprs) (Expr.phrases exprs)
  | [], _ => .nil
  | expr :: rest, readable => by
    have bounds := expr.level_bounds
    have first := (expr.writes readable.1).whole bounds.1 bounds.2
    exact .cons first (Expr.allWrite rest readable.2)

end

/-- The text of an expression is read back as its phrase. -/
theorem Expr.readPhrase_toText {expr : Expr} (readable : expr.Readable) :
    readPhrase expr.toText = some expr.phrase := by
  have bounds := expr.level_bounds
  exact ((expr.writes readable).whole bounds.1 bounds.2).readPhrase

end Lag.Host
