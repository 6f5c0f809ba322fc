import Lag.Proofs.Token.Numerals

/-!
# The places of tokens and of faults

The tokens of a source text lie inside it, one after another, and so does a fault that ends them; a
fault without a place is about a numeral of the text that cannot be converted. Without a fault the
tokens end with the end of the text.
-/
namespace Lag

/-- A span that is a stretch of a text: some characters lie before it, its own follow. -/
def Source.Span.Inside (text : List Char) (span : Span) : Prop :=
  ∃ before inside after, text = before ++ inside ++ after ∧
    span.start = ({} : Location).after before ∧ span.stop = span.start.after inside

namespace Scan

/-- What a failure to find the tokens of a text is about: a stretch of the text, or a numeral in it
that cannot be converted. -/
def Error.About (text : List Char) : Error → Prop
  | .located _ span => span.Inside text
  | .numeral _ => ∃ lexeme, lexeme <:+: text ∧ Unreadable lexeme

/-- A fault with a place is inside the whole text. -/
theorem about_of_within {done rest : List Char} {file : Option String} {fault : Fault}
    (within : fault.Within rest) :
    (fault.toError file (({} : Source.Location).after done)).About (done ++ rest) := by
  obtain ⟨cause, before, inside, rfl, after, rfl⟩ := within
  refine ⟨done ++ before, inside, after, by simp, ?_, ?_⟩
  · rw [Source.Location.after_append]
  · rfl

/-- A fault at the front of what follows some characters is about the whole text. -/
theorem about_of_piece {done rest : List Char} {c : Char} {file : Option String} {fault : Fault}
    (failed : piece c rest = .error fault) :
    (fault.toError file (({} : Source.Location).after done)).About (done ++ c :: rest) := by
  rcases fault_of_piece failed with within | ⟨reason, lexeme, rfl, front, unreadable⟩
  · exact about_of_within within
  · exact ⟨lexeme, front.isInfix.trans (List.suffix_append done _).isInfix, unreadable⟩

/-- The text after a gap, which has been passed. -/
theorem after_gap {done text rest : List Char} {gap : Nat} (ahead : text.drop gap = rest) :
    done ++ text = (done ++ text.take gap) ++ rest := by
  rw [List.append_assoc, ← ahead, List.take_append_drop]

/-- The tokens that follow some characters are inside the whole text, and a failure is about it. -/
theorem placed_tokensFrom (file : Option String) (place : Source.Location) (text : List Char)
    {done : List Char} (reached : place = ({} : Source.Location).after done) :
    (∀ token ∈ (tokensFrom file place text).1, token.span.Inside (done ++ text)) ∧
      ∀ error ∈ (tokensFrom file place text).2, error.About (done ++ text) := by
  fun_induction tokensFrom file place text generalizing done with
  | case1 place text fault failed =>
    subst reached
    refine ⟨fun _ inside => absurd inside List.not_mem_nil, fun error same => ?_⟩
    cases same
    exact about_of_within (within_gapLength failed)
  | case2 =>
    rename_i place text gap _ start ended
    have starts : start = ({} : Source.Location).after (done ++ text.take gap) := by
      rw [Source.Location.after_append, ← reached]
    refine ⟨fun token inside => ?_, fun error same => absurd same (Option.not_mem_none error)⟩
    obtain rfl := List.mem_singleton.1 inside
    rw [after_gap ended]
    exact ⟨_, [], [], by simp, starts, rfl⟩
  | case3 =>
    rename_i place text gap _ start c more ahead fault failed
    have starts : start = ({} : Source.Location).after (done ++ text.take gap) := by
      rw [Source.Location.after_append, ← reached]
    refine ⟨fun _ inside => absurd inside List.not_mem_nil, fun error same => ?_⟩
    cases same
    rw [after_gap ahead, starts]
    exact about_of_piece failed
  | case4 =>
    rename_i place text gap _ start c more ahead found scanned stop token empty
    exact absurd (List.isEmpty_iff.1 empty) (fits_of_piece scanned).consumes
  | case5 =>
    rename_i place text gap _ start c more ahead found scanned stop token _ tokens failure later ih
    have starts : start = ({} : Source.Location).after (done ++ text.take gap) := by
      rw [Source.Location.after_append, ← reached]
    have front := (fits_of_piece scanned).front
    obtain ⟨rest, whole⟩ := front
    have stops : stop = ({} : Source.Location).after (done ++ text.take gap ++ found.lexeme) := by
      rw [Source.Location.after_append, ← starts]
    have dropped : (c :: more).drop found.lexeme.length = rest := by
      rw [← whole, List.drop_left]
    have split : done ++ text = done ++ text.take gap ++ found.lexeme ++ rest := by
      rw [after_gap ahead, ← whole]
      simp only [List.append_assoc]
    have others := ih stops
    rw [later, dropped, ← split] at others
    refine ⟨fun other inside => ?_, others.2⟩
    rcases List.mem_cons.1 inside with rfl | inRest
    · exact ⟨_, _, _, split, starts, rfl⟩
    · exact others.1 other inRest

/-- The tokens of a source text, without a failure: those before the end of the text, and that. -/
structure Complete (tokens : List Token) (inner : List Token) (final : Token) : Prop where
  /-- The end of the text comes last. -/
  split : tokens = inner ++ [final]
  /-- The end of the text. -/
  ends : final.kind = .endOfText
  /-- The end of the text carries no value. -/
  value : final.Apt
  /-- The tokens before are those of a text. -/
  before : ∀ token ∈ inner, token.Apt ∧ token.kind ≠ .endOfText

/-- Without a failure, the tokens of a text are complete. -/
theorem complete_tokensFrom {file : Option String} {place : Source.Location} {text : List Char}
    (scanned : (tokensFrom file place text).2 = none) :
    ∃ inner final, Complete (tokensFrom file place text).1 inner final := by
  fun_induction tokensFrom file place text with
  | case1 => cases scanned
  | case2 => exact ⟨[], _, rfl, rfl, rfl, fun _ inside => absurd inside List.not_mem_nil⟩
  | case3 => cases scanned
  | case4 =>
    rename_i found piece _ _ empty
    exact absurd (List.isEmpty_iff.1 empty) (fits_of_piece piece).consumes
  | case5 =>
    rename_i found piece _ token _ tokens failure later ih
    rw [later] at ih
    obtain ⟨inner, final, complete⟩ := ih scanned
    have fits := fits_of_piece piece
    refine ⟨token :: inner, final, ?_, complete.ends, complete.value, ?_⟩
    · show token :: tokens = _
      rw [show tokens = inner ++ [final] from complete.split]
      rfl
    · intro other inside
      rcases List.mem_cons.1 inside with rfl | inRest
      · exact ⟨fits.value, fits.inner⟩
      · exact complete.before other inRest

/-- The tokens of a source text are complete. -/
theorem complete_scan {source : String} {file : Option String} {tokens : List Token}
    (scanned : scan source file = (tokens, none)) : ∃ inner final, Complete tokens inner final := by
  have none : (tokensFrom file {} source.toList).2 = none := by rw [← scan, scanned]
  have whole := complete_tokensFrom none
  rwa [← scan, scanned] at whole

end Scan

end Lag
