import Lag.Proofs.Tree.Numbered
import Lag.Proofs.Tree.Read

/-!
# Scanning gives sound tokens

An identifier that is scanned is a name, and a value that a token carries is that of a token. With
the readers of trees this makes every program that is read from a text regular.
-/
namespace Lag

namespace Scan

/-- A character that may start a name may stand in it. -/
theorem isNameChar_of_isNameStart {c : Char} (starts : isNameStart c = true) :
    isNameChar c = true := by
  simp only [isNameStart, isNameChar, Text.isAlphanumeric, Bool.or_eq_true] at starts ⊢
  rcases starts with letter | underscore
  · exact .inl (.inl (.inl letter))
  · exact .inr underscore

/-- The word at a character that may start a name is a name. -/
theorem isName_word {first : Char} {rest : List Char} (starts : isNameStart first = true) :
    IsName (String.ofList (word (first :: rest)).lexeme) := by
  refine ⟨first, rest.takeWhile isNameChar, ?_, starts, fun c inside => ?_⟩
  · rw [String.toList_ofList]
    show (first :: rest).takeWhile isNameChar = _
    rw [List.takeWhile_cons_of_pos (isNameChar_of_isNameStart starts)]
  · exact List.all_eq_true.1 List.all_takeWhile c inside

/-- No sign is an identifier. -/
theorem kind_of_ofChar? {c : Char} {kind : TokenKind} (found : TokenKind.ofChar? c = some kind) :
    kind ≠ .identifier := by
  rintro rfl
  unfold TokenKind.ofChar? at found
  split at found <;> simp at found

/-- No pair of signs is an identifier. -/
theorem kind_of_ofPair? {c next : Char} {kind : TokenKind}
    (found : TokenKind.ofPair? c next = some kind) : kind ≠ .identifier := by
  rintro rfl
  unfold TokenKind.ofPair? at found
  split at found <;> simp at found

/-- A sign is no identifier. -/
theorem kind_of_sign {c : Char} {found : Piece} (scanned : sign c = .ok found) :
    found.kind ≠ .identifier := by
  unfold sign at scanned
  split at scanned
  · rename_i kind is
    cases scanned
    exact kind_of_ofChar? is
  · cases scanned

/-- The value of a number belongs to no identifier. -/
theorem kind_of_numberPiece {isFloat : Bool} {lexeme : List Char} {found : Piece}
    (scanned : numberPiece isFloat lexeme = .ok found) : found.kind ≠ .identifier := by
  unfold numberPiece at scanned
  dsimp only at scanned
  split at scanned
  · split at scanned
    · cases scanned
      simp
    · cases scanned
  · split at scanned
    · cases scanned
      simp
    · cases scanned

/-- A number is no identifier. -/
theorem kind_of_number {text : List Char} {found : Piece} (scanned : number text = .ok found) :
    found.kind ≠ .identifier := by
  unfold number at scanned
  dsimp only at scanned
  split at scanned
  · cases scanned
  · split at scanned
    · cases scanned
    · exact kind_of_numberPiece scanned

/-- An identifier that is scanned is a name. -/
theorem isName_of_piece {first : Char} {rest : List Char} {found : Piece}
    (scanned : piece first rest = .ok found) (identifier : found.kind = .identifier) :
    IsName (String.ofList found.lexeme) := by
  unfold piece at scanned
  split at scanned
  · unfold string at scanned
    split at scanned
    · cases scanned
      cases identifier
    · cases scanned
  · split at scanned
    · exact absurd identifier (kind_of_number scanned)
    · split at scanned
      · rename_i starts
        cases scanned
        exact isName_word starts
      · split at scanned
        · split at scanned
          · rename_i kind is
            cases scanned
            exact absurd identifier (kind_of_ofPair? is)
          · exact absurd identifier (kind_of_sign scanned)
        · exact absurd identifier (kind_of_sign scanned)

/-- A token that was scanned is sound. -/
theorem sound_of_piece {first : Char} {rest : List Char} {found : Piece} {span : Source.Span}
    (scanned : piece first rest = .ok found) :
    Token.Sound ⟨found.kind, String.ofList found.lexeme, span, found.literal⟩ :=
  ⟨isName_of_piece scanned, fun _ given => ⟨first, rest, found, scanned, given⟩⟩

/-- The token for the end of the text is sound. -/
theorem sound_endOfText (span : Source.Span) : Token.Sound ⟨.endOfText, "", span, none⟩ :=
  ⟨(nomatch ·), by simp⟩

/-- What holds of the end of a text and of every token that is scanned holds of the tokens of a
text. -/
theorem forall_tokensFrom {holds : Token → Prop}
    (final : ∀ span, holds ⟨.endOfText, "", span, none⟩)
    (each : ∀ {c rest found span}, piece c rest = .ok found →
      holds ⟨found.kind, String.ofList found.lexeme, span, found.literal⟩)
    (file : Option String) (place : Source.Location) (text : List Char) :
    ∀ token ∈ (tokensFrom file place text).1, holds token := by
  fun_induction tokensFrom file place text with
  | case1 => simp
  | case2 =>
    intro token inside
    obtain rfl := List.mem_singleton.1 inside
    exact final _
  | case3 => simp
  | case4 _ _ _ _ _ _ _ _ found scanned =>
    intro token inside
    obtain rfl := List.mem_singleton.1 inside
    exact each scanned
  | case5 _ _ _ _ _ _ _ _ found scanned _ _ _ tokens failure later ih =>
    intro token inside
    rcases List.mem_cons.1 inside with rfl | after
    · exact each scanned
    · exact ih token (by rw [later]; exact after)

/-- The tokens of a text are sound. -/
theorem sound_tokensFrom (file : Option String) (place : Source.Location) (text : List Char) :
    ∀ token ∈ (tokensFrom file place text).1, token.Sound :=
  forall_tokensFrom sound_endOfText sound_of_piece file place text

/-- The tokens of a source text are sound. -/
theorem sound_scan {source : String} {file : Option String} {tokens : List Token}
    (scanned : scan source file = (tokens, none)) : ∀ token ∈ tokens, token.Sound := by
  have sound := sound_tokensFrom file {} source.toList
  unfold scan at scanned
  rwa [scanned] at sound

end Scan

namespace Parse

/-- A program that is read from sound tokens is regular, and its declarations have ascending
numbers. -/
theorem regular_of_ofTokens {depth : Nat} {file : Option String} {tokens : List Token}
    (sound : ∀ token ∈ tokens, token.Sound) {tree : Program Node}
    (parsed : ofTokens depth file tokens = .ok tree) :
    tree.Regular ∧ (tree.ids Node.id).Pairwise (· < ·) := by
  have final : (tokens.getLastD ⟨.endOfText, "", ⟨file, {}, {}⟩, none⟩).Sound := by
    rw [List.getLastD_eq_getLast?]
    cases last : tokens.getLast? with
    | none => exact Scan.sound_endOfText _
    | some token => exact sound token (List.mem_of_getLast? last)
  have ahead : ∀ token ∈ tokens.dropLast, token.Sound :=
    fun token inside => sound token (List.dropLast_subset tokens inside)
  unfold ofTokens at parsed
  dsimp only at parsed
  split at parsed
  · rename_i program next read
    cases parsed
    obtain ⟨_, regular⟩ := gives_program depth file _ ⟨ahead, final⟩ program next read
    refine ⟨?_, Program.number_ids program⟩
    rw [← Program.regular_map Node.span, Program.number_map]
    exact regular
  · cases parsed

end Parse

end Lag
