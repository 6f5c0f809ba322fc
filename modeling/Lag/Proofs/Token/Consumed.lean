import Lag.Proofs.Grammar.Reads
import Lag.Proofs.Tree.Scanned
import Mathlib.Data.List.Infix

/-!
# What scanning consumes

A token consumes characters at the front of the text, at least one, and a fault with a place is
about characters at the front, too: those before it and its own. A token carries a value exactly if
it is a literal, and no token but the last is the end of the text.
-/
namespace Lag.Scan

/-- A stretch at the front of a text and one after it are a stretch at the front. -/
theorem prefix_append {first second text : List Char} (head : first <+: text)
    (tail : second <+: text.drop first.length) : first ++ second <+: text := by
  obtain ⟨rest, rfl⟩ := head
  rw [List.drop_left] at tail
  exact (List.prefix_append_right_inj first).2 tail

/-- A fault with a place that is about characters at the front of a text. -/
def Fault.Within (text : List Char) (fault : Fault) : Prop :=
  ∃ cause before inside, fault = .located cause before inside ∧ before ++ inside <+: text

/-- A fault after some characters is within the whole text. -/
theorem within_append (read : List Char) {text : List Char} {cause : Cause} {before inside : List Char}
    (within : Fault.Within text (.located cause before inside)) :
    Fault.Within (read ++ text) (.located cause (read ++ before) inside) := by
  obtain ⟨_, _, _, same, front⟩ := within
  cases same
  refine ⟨_, _, _, rfl, ?_⟩
  rw [List.append_assoc]
  exact (List.prefix_append_right_inj read).2 front

/-- A fault after a part of a text is within the text. -/
theorem within_take {text : List Char} {cause : Cause} {before inside : List Char} {size : Nat}
    (within : Fault.Within (text.drop size) (.located cause before inside)) :
    Fault.Within text (.located cause (text.take size ++ before) inside) := by
  have whole := within_append (text.take size) within
  rwa [List.take_append_drop] at whole

/-- A comment to the end of the line is at the front of the text. -/
theorem take_comment (rest : List Char) :
    rest.take (rest.takeWhile (· != '\n')).length = rest.takeWhile (· != '\n') :=
  (List.prefix_iff_eq_take.1 (List.takeWhile_prefix _)).symm

/-- A fault in a gap is within the text. -/
theorem within_gapLength {text : List Char} {fault : Fault}
    (failed : gapLength text = .error fault) : fault.Within text := by
  fun_induction gapLength text generalizing fault with
  | case1 | case2 | case6 | case9 | case12 => cases failed
  | case3 =>
    rename_i rest comment cause before inside inner ih
    cases failed
    have within := within_take (ih inner)
    rw [take_comment] at within
    exact within_append ['/', '/'] within
  | case5 rest =>
    cases failed
    exact ⟨_, _, _, rfl, List.prefix_rfl⟩
  | case7 rest size _ cause before inside inner ih =>
    cases failed
    exact within_append ['/', '*'] (within_take (ih inner))
  | case10 c rest _ _ _ cause before inside inner ih =>
    cases failed
    exact within_append [c] (ih inner)
  | case4 | case8 | case11 =>
    rename_i other inner ih
    obtain ⟨cause, before, inside, located, _⟩ := ih inner
    exact absurd located (other cause before inside)

/-- What is at the front of the rest of a text, after characters that were passed. -/
theorem prefix_pass (read : List Char) {text : List Char} {fault : Fault}
    (within : ∃ cause before inside, fault = .located cause before inside ∧
      before ++ inside <+: text ∧ (cause = .unterminatedString → before = [])) :
    ∃ cause before inside, stringBody.pass read fault = .located cause before inside ∧
      before ++ inside <+: read ++ text ∧ (cause = .unterminatedString → before = []) := by
  obtain ⟨cause, before, inside, rfl, front, unclosed⟩ := within
  have whole := (List.prefix_append_right_inj read).2 front
  by_cases string : cause = .unterminatedString
  · subst string
    obtain rfl := unclosed rfl
    exact ⟨_, _, _, rfl, whole, fun _ => rfl⟩
  · refine ⟨cause, read ++ before, inside, ?_, by rwa [List.append_assoc],
      fun same => absurd same string⟩
    unfold stringBody.pass
    split <;> simp_all

/-- The characters of a text in quotes are at the front, and so are those of a fault in it; a text
that is not closed is at fault from its start. -/
theorem prefix_stringBody (text : List Char) :
    match stringBody text with
    | .ok (consumed, _) => consumed <+: text
    | .error fault => ∃ cause before inside, fault = .located cause before inside ∧
        before ++ inside <+: text ∧ (cause = .unterminatedString → before = []) := by
  fun_induction stringBody text with
  | case1 => exact ⟨_, _, _, rfl, List.nil_prefix, fun _ => rfl⟩
  | case2 rest => exact List.prefix_append ['\x22'] rest
  | case3 => exact ⟨_, _, _, rfl, List.nil_prefix, fun _ => rfl⟩
  | case4 => exact ⟨_, _, _, rfl, List.prefix_rfl, nofun⟩
  | case5 c rest => exact ⟨_, _, _, rfl, List.prefix_append ['\\', c] rest, nofun⟩
  | case6 c rest _ _ consumed _ inner ih =>
    rw [inner] at ih
    exact (List.prefix_append_right_inj ['\\', c]).2 ih
  | case7 c rest _ _ fault inner ih =>
    rw [inner] at ih
    exact prefix_pass _ ih
  | case8 c rest _ _ _ _ consumed _ inner ih =>
    rw [inner] at ih
    exact (List.prefix_append_right_inj [c]).2 ih
  | case9 c rest _ _ _ _ fault inner ih =>
    rw [inner] at ih
    exact prefix_pass _ ih

/-- What a text in quotes consumes is at the front. -/
theorem prefix_string {rest : List Char} {found : Piece} (scanned : string rest = .ok found) :
    found.lexeme <+: '\x22' :: rest ∧ found.lexeme ≠ [] := by
  have front := prefix_stringBody rest
  unfold string at scanned
  split at scanned
  · rename_i consumed _ inner
    rw [inner] at front
    cases scanned
    exact ⟨(List.prefix_append_right_inj ['\x22']).2 front, List.cons_ne_nil _ _⟩
  · cases scanned

/-- A fault in a text in quotes is within the text. -/
theorem within_string {rest : List Char} {fault : Fault} (failed : string rest = .error fault) :
    fault.Within ('\x22' :: rest) := by
  have front := prefix_stringBody rest
  unfold string at failed
  split at failed
  · cases failed
  · rename_i inner
    rw [inner] at front
    cases failed
    obtain ⟨cause, before, inside, located, within, _⟩ := prefix_pass ['\x22'] front
    exact ⟨cause, before, inside, located, within⟩

/-- A fraction is at the front of a text. -/
theorem prefix_fraction (text : List Char) : fraction text <+: text := by
  unfold fraction
  split
  · split
    · rename_i c rest _
      exact (List.prefix_append_right_inj ['.']).2 (List.takeWhile_prefix (l := c :: rest) _)
    · exact List.nil_prefix
  · exact List.nil_prefix

/-- The mark of an exponent is at the front of a text. -/
theorem prefix_exponentHead (text : List Char) : exponentHead text <+: text := by
  unfold exponentHead
  split
  · exact List.prefix_append ['e', '+'] _
  · exact List.prefix_append ['e', '-'] _
  · exact List.prefix_append ['E', '+'] _
  · exact List.prefix_append ['E', '-'] _
  · exact List.prefix_append ['e'] _
  · exact List.prefix_append ['E'] _
  · exact List.nil_prefix

/-- The parts of a number. -/
structure Parts where
  /-- The digits before the point. -/
  whole : List Char
  /-- The fraction, with its point. -/
  part : List Char
  /-- The mark and the sign of the exponent. -/
  mark : List Char
  /-- The digits of the exponent. -/
  power : List Char

/-- The parts of the number at the front of a text. -/
def parts (text : List Char) : Parts :=
  let whole := text.takeWhile Text.isDigit
  let part := fraction (text.drop whole.length)
  let mark := exponentHead (text.drop (whole ++ part).length)
  ⟨whole, part, mark, (text.drop ((whole ++ part).length + mark.length)).takeWhile Text.isDigit⟩

/-- The lexeme of a number. -/
def Parts.lexeme (parts : Parts) : List Char :=
  parts.whole ++ parts.part ++ parts.mark ++ parts.power

/-- Whether a number is a float. -/
def Parts.isFloat (parts : Parts) : Bool := !parts.part.isEmpty || !parts.mark.isEmpty

/-- The number at the front of a text is there. -/
theorem prefix_lexeme (text : List Char) : (parts text).lexeme <+: text := by
  unfold parts Parts.lexeme
  dsimp only
  refine prefix_append (prefix_append (prefix_append (List.takeWhile_prefix _)
    (prefix_fraction _)) (prefix_exponentHead _)) ?_
  rw [List.length_append, List.length_append, List.length_append]
  exact List.takeWhile_prefix _

/-- A number is malformed, or its lexeme is converted; an exponent has digits then. -/
theorem number_cases (text : List Char) :
    (((parts text).mark = [] ∨ (parts text).power ≠ []) ∧
      number text = numberPiece (parts text).isFloat (parts text).lexeme) ∨
      ∃ fault, number text = .error fault ∧ fault.Within text := by
  unfold number
  dsimp only
  split
  · exact .inr ⟨_, rfl, _, [], _, rfl, prefix_lexeme text⟩
  · rename_i complete
    split
    · refine .inr ⟨_, rfl, _, [], _, rfl, ?_⟩
      show (parts text).lexeme ++ _ <+: text
      exact prefix_append (prefix_lexeme text) (List.takeWhile_prefix _)
    · refine .inl ⟨?_, rfl⟩
      by_cases mark : (parts text).mark = []
      · exact .inl mark
      · refine .inr fun power => complete ?_
        rw [Bool.and_eq_true, Bool.not_eq_true', List.isEmpty_eq_false_iff, List.isEmpty_iff]
        exact ⟨mark, power⟩

/-- A number of a lexeme has that lexeme. -/
theorem lexeme_numberPiece {isFloat : Bool} {lexeme : List Char} {found : Piece}
    (scanned : numberPiece isFloat lexeme = .ok found) :
    found.lexeme = lexeme ∧ found.literal.isSome = found.kind.isLiteral ∧
      found.kind ≠ .endOfText := by
  unfold numberPiece at scanned
  dsimp only at scanned
  split at scanned
  · split at scanned
    · cases scanned
      exact ⟨rfl, rfl, nofun⟩
    · cases scanned
  · split at scanned
    · cases scanned
      exact ⟨rfl, rfl, nofun⟩
    · cases scanned

/-- A token that is fit to stand at the front of a text. -/
structure Piece.Fits (text : List Char) (found : Piece) : Prop where
  /-- Its characters are at the front. -/
  front : found.lexeme <+: text
  /-- It has characters. -/
  consumes : found.lexeme ≠ []
  /-- It carries a value exactly if it is a literal. -/
  value : found.literal.isSome = found.kind.isLiteral
  /-- It is not the end of the text. -/
  inner : found.kind ≠ .endOfText

/-- A number has a digit. -/
theorem whole_ne_nil {c : Char} {rest : List Char} (digit : Text.isDigit c = true) :
    (parts (c :: rest)).whole ≠ [] := by
  show (c :: rest).takeWhile Text.isDigit ≠ []
  rw [List.takeWhile_cons_of_pos digit]
  exact List.cons_ne_nil _ _

/-- The kind of a word is a name or one of the keywords. -/
theorem ofWord_cases (word : String) :
    TokenKind.ofWord word = .identifier ∨
      ∃ entry ∈ TokenKind.keywords, TokenKind.ofWord word = entry.2 := by
  unfold TokenKind.ofWord
  cases found : TokenKind.keywords.lookup word with
  | none => exact .inl rfl
  | some kind =>
    obtain ⟨before, after, same, _⟩ := List.lookup_eq_some_iff.1 found
    exact .inr ⟨(word, kind), by rw [same]; simp, rfl⟩

/-- A word is not the end of the text, and it is a literal only if it is a truth value. -/
theorem plain_of_ofWord (word : String) :
    TokenKind.ofWord word ≠ .endOfText ∧
      (TokenKind.ofWord word).isLiteral = decide (TokenKind.ofWord word = .boolLiteral) := by
  have keywords : ∀ entry ∈ TokenKind.keywords, entry.2 ≠ .endOfText ∧
      entry.2.isLiteral = decide (entry.2 = .boolLiteral) := by decide
  rcases ofWord_cases word with name | ⟨entry, inside, is⟩
  · rw [name]
    decide
  · rw [is]
    exact keywords entry inside

/-- A word carries a value exactly if it is a literal. -/
theorem value_of_word (text : List Char) :
    (word text).literal.isSome = (word text).kind.isLiteral := by
  show Option.isSome (if TokenKind.ofWord _ = .boolLiteral then some _ else none) =
    (TokenKind.ofWord _).isLiteral
  rw [(plain_of_ofWord _).2]
  split
  · rename_i is
    simp [is]
  · rename_i other
    simp [other]

/-- A sign of one character is no literal and not the end of the text. -/
theorem plain_of_ofChar? {c : Char} {kind : TokenKind} (found : TokenKind.ofChar? c = some kind) :
    kind.isLiteral = false ∧ kind ≠ .endOfText := by
  unfold TokenKind.ofChar? at found
  split at found <;> cases found <;> exact ⟨rfl, nofun⟩

/-- A sign of two characters is no literal and not the end of the text. -/
theorem plain_of_ofPair? {c next : Char} {kind : TokenKind}
    (found : TokenKind.ofPair? c next = some kind) :
    kind.isLiteral = false ∧ kind ≠ .endOfText := by
  unfold TokenKind.ofPair? at found
  split at found <;> cases found <;> exact ⟨rfl, nofun⟩

/-- A sign is fit to stand at the front of its text. -/
theorem fits_of_sign {c : Char} {rest : List Char} {found : Piece}
    (scanned : sign c = .ok found) : found.Fits (c :: rest) := by
  unfold sign at scanned
  split at scanned
  · rename_i kind is
    cases scanned
    have plain := plain_of_ofChar? is
    exact ⟨List.prefix_append [c] rest, List.cons_ne_nil _ _, plain.1.symm, plain.2⟩
  · cases scanned

/-- A fault in a sign is within its text. -/
theorem within_sign {c : Char} {rest : List Char} {fault : Fault}
    (failed : sign c = .error fault) : fault.Within (c :: rest) := by
  unfold sign at failed
  split at failed
  · cases failed
  · cases failed
    exact ⟨_, [], [c], rfl, List.prefix_append [c] rest⟩

/-- A token that is scanned is fit to stand at the front of its text. -/
theorem fits_of_piece {c : Char} {rest : List Char} {found : Piece}
    (scanned : piece c rest = .ok found) : found.Fits (c :: rest) := by
  unfold piece at scanned
  split at scanned
  · rename_i quote
    subst quote
    have front := prefix_string scanned
    unfold string at scanned
    split at scanned
    · cases scanned
      exact ⟨front.1, front.2, rfl, nofun⟩
    · cases scanned
  · split at scanned
    · rename_i digit
      rcases number_cases (c :: rest) with ⟨_, same⟩ | ⟨fault, failed, _⟩
      · rw [same] at scanned
        obtain ⟨lexeme, value, inner⟩ := lexeme_numberPiece scanned
        refine ⟨?_, ?_, value, inner⟩
        · rw [lexeme]
          exact prefix_lexeme _
        · rw [lexeme]
          simp [Parts.lexeme, whole_ne_nil digit]
      · rw [failed] at scanned
        cases scanned
    · split at scanned
      · rename_i starts
        cases scanned
        refine ⟨List.takeWhile_prefix _, ?_, value_of_word _, (plain_of_ofWord _).1⟩
        show (c :: rest).takeWhile isNameChar ≠ []
        rw [List.takeWhile_cons_of_pos (isNameChar_of_isNameStart starts)]
        exact List.cons_ne_nil _ _
      · split at scanned
        · split at scanned
          · rename_i next more _ kind is
            cases scanned
            have plain := plain_of_ofPair? is
            exact ⟨List.prefix_append [c, next] more, List.cons_ne_nil _ _, plain.1.symm, plain.2⟩
          · exact fits_of_sign scanned
        · exact fits_of_sign scanned

end Lag.Scan
