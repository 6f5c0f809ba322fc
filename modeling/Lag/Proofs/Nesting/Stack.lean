import Lag.Proofs.Grammar.Decided
import Lag.Proofs.Nesting.Readers

/-!
# The open brackets of a parse

At every point of the parse of a source text the open brackets are those that the consumed tokens
leave open, so that a parser never closes a bracket where none is open, and has closed them all in
the end. A parse that fails does so at a token, with the brackets open that the tokens before leave
open; if one of them is to be closed there, it is the innermost one, and the message names it.

A closing bracket at which a parse fails is compared with the innermost open bracket only. Where no
bracket is open it is said to have no opening one, and where it is the partner of the innermost open
bracket something else is expected. Where the innermost open bracket is of the other kind, either
that bracket is said to be unclosed or the closing one to have no opening one, and the latter also if
its partner is open further outside.
-/
namespace Lag

namespace Parse

variable {source : String} {file : Option String} {tokens inner : List Token} {final : Token}
  {state : State} {error : Error}

/-- An opening bracket is described by its sign. -/
theorem describe_of_isOpener {opener : Token} (opens : opener.kind.isOpener = true) :
    opener.kind.spelling? = some opener.describe := by
  unfold Token.describe
  cases is : opener.kind <;> rw [is] at opens <;> first | rfl | cases opens

/-- The code of an unclosed bracket. -/
theorem Cause.unclosed_of_code {cause : Cause} (code : cause.code = "E103") :
    ∃ opener found, cause = .unclosed opener found := by
  cases cause with
  | unclosed opener found => exact ⟨opener, found, rfl⟩
  | unexpected _ _ | unexpectedEnd _ | unopened _ | tooDeep => simp [Cause.code] at code

/-- The code of a closing bracket without an opening one. -/
theorem Cause.unopened_of_code {cause : Cause} (code : cause.code = "E104") :
    ∃ found, cause = .unopened found := by
  cases cause with
  | unopened found => exact ⟨found, rfl⟩
  | unexpected _ _ | unexpectedEnd _ | unclosed _ _ | tooDeep => simp [Cause.code] at code

/-- The failure of a reader at a closing bracket. -/
theorem State.failure_of_isCloser (closes : state.current.kind.isCloser = true) (expected : String) :
    state.failure expected =
      if state.opened.head?.map (closing ·.kind) = some state.current.kind then
        ⟨.unexpected expected state.current, state.current.span, true⟩
      else ⟨.unopened state.current, state.current.span, true⟩ := by
  unfold failure
  dsimp only
  rw [if_neg (TokenKind.ne_endOfText_of_isCloser closes)]
  by_cases partner : state.opened.head?.map (closing ·.kind) = some state.current.kind
  · rw [if_neg fun both => both.2 partner, if_pos partner]
  · rw [if_pos ⟨TokenKind.isCloser_iff.1 closes, partner⟩, if_neg partner]

namespace State.Raises

/-- A failure is placed at the token in front. -/
theorem span (raises : state.Raises error) : error.span = state.current.span := by
  cases raises with
  | unexpected expected =>
    unfold failure
    dsimp only
    split
    · split <;> rfl
    · split <;> rfl
  | unclosed _ _ => rfl
  | tooDeep => rfl

/-- An unclosed bracket is the innermost open one, and its partner is not in front. -/
theorem of_unclosed {opener found : Token} (raises : state.Raises error)
    (cause : error.cause = .unclosed opener found) :
    found = state.current ∧ state.current.kind ≠ closing opener.kind ∧
      ∃ outer, state.opened = opener :: outer := by
  cases raises with
  | unexpected expected =>
    unfold failure at cause
    dsimp only at cause
    split at cause
    · rename_i ends
      split at cause
      · rename_i first outer opened
        cases cause
        have isCloser := TokenKind.isCloser_closing opener.kind
        refine ⟨rfl, fun same => ?_, outer, opened⟩
        rw [← same] at isCloser
        exact TokenKind.ne_endOfText_of_isCloser isCloser ends
      · cases cause
    · split at cause <;> cases cause
  | unclosed opened other =>
    cases cause
    exact ⟨rfl, other, _, opened⟩
  | tooDeep => cases cause

/-- A closing bracket is said to have no opening one only if it is not the partner of the innermost
open bracket. -/
theorem of_unopened {found : Token} (raises : state.Raises error)
    (cause : error.cause = .unopened found) :
    found = state.current ∧ state.current.kind.isCloser = true ∧
      state.opened.head?.map (closing ·.kind) ≠ some state.current.kind := by
  cases raises with
  | unexpected expected =>
    unfold failure at cause
    dsimp only at cause
    split at cause
    · split at cause <;> cases cause
    · split at cause
      · rename_i stray
        cases cause
        exact ⟨rfl, TokenKind.isCloser_iff.2 stray.1, stray.2⟩
      · cases cause
  | unclosed _ _ => cases cause
  | tooDeep => cases cause

/-- A closing bracket where no bracket is open. -/
theorem of_none_opened (raises : state.Raises error) (closes : state.current.kind.isCloser = true)
    (shallow : error.cause ≠ .tooDeep) (none : state.opened = []) :
    error.cause = .unopened state.current := by
  cases raises with
  | unexpected expected =>
    rw [State.failure_of_isCloser closes, if_neg (by simp [none])]
  | unclosed opened _ =>
    rw [none] at opened
    cases opened
  | tooDeep => exact absurd rfl shallow

/-- The partner of the innermost open bracket. -/
theorem of_partner {opener : Token} {outer : List Token} (raises : state.Raises error)
    (shallow : error.cause ≠ .tooDeep) (opened : state.opened = opener :: outer)
    (closes : state.current.kind = closing opener.kind) :
    ∃ expected, error.cause = .unexpected expected state.current := by
  have isCloser : state.current.kind.isCloser = true := by
    rw [closes]
    exact TokenKind.isCloser_closing opener.kind
  cases raises with
  | unexpected expected =>
    rw [State.failure_of_isCloser isCloser, if_pos (by simp [opened, closes])]
    exact ⟨expected, rfl⟩
  | unclosed other different =>
    rw [opened] at other
    cases other
    exact absurd closes different
  | tooDeep => exact absurd rfl shallow

/-- A closing bracket of the other kind than the innermost open bracket. -/
theorem of_other {opener : Token} {outer : List Token} (raises : state.Raises error)
    (closes : state.current.kind.isCloser = true) (shallow : error.cause ≠ .tooDeep)
    (opened : state.opened = opener :: outer) (other : state.current.kind ≠ closing opener.kind) :
    error.cause = .unopened state.current ∨ error.cause = .unclosed opener state.current := by
  cases raises with
  | unexpected expected =>
    have stray : state.opened.head?.map (closing ·.kind) ≠ some state.current.kind := by
      simpa [opened] using Ne.symm other
    rw [State.failure_of_isCloser closes, if_neg stray]
    exact .inl rfl
  | unclosed innermost _ =>
    rw [opened] at innermost
    cases innermost
    exact .inr rfl
  | tooDeep => exact absurd rfl shallow

end State.Raises

/-- At the start nothing is consumed and nothing is open. -/
theorem State.follows_start (inner : List Token) (final : Token) :
    (State.start inner final).Follows (State.start inner final) :=
  ⟨[], .refl _, .balanced .nil⟩

/-- A program tracks brackets from the start on. -/
theorem tracks_start (complete : Scan.Complete tokens inner final) (depth : Nat)
    (file : Option String) :
    Throughout (State.start inner final).Tracked (program depth file) (State.start inner final) ∧
      ∀ result next, program depth file (State.start inner final) = .ok (result, next) →
        (State.start inner final).Follows next ∧ next.opened = [] :=
  keeps_program depth file [] _ (scanned_start complete) (State.follows_start inner final) rfl

/-- The token in front of a state comes after those consumed. -/
theorem State.Passed.split {root state : State} {done : List Token} (passed : root.Passed done state) :
    ∃ rest, root.ahead ++ [root.final] = done ++ state.current :: rest := by
  rw [passed.ahead, ← passed.final, List.append_assoc]
  unfold State.current
  cases state.ahead with
  | nil => exact ⟨[], rfl⟩
  | cons token rest => exact ⟨rest ++ [state.final], rfl⟩

/-- A parse fails at a token, with the brackets open that the tokens before it leave open. -/
theorem raised_of_program (complete : Scan.Complete tokens inner final) {depth : Nat}
    (failed : program depth file (State.start inner final) = .error error) :
    ∃ (point : State) (done rest : List Token), tokens = done ++ point.current :: rest ∧
      Leaves done point.opened ∧ point.Raises error := by
  have through := (tracks_start complete depth file).1
  obtain ⟨point, ⟨done, passed, leaves⟩, raises⟩ := through.raised error failed
  obtain ⟨rest, split⟩ := passed.split
  rw [complete.split]
  exact ⟨point, done, rest, split, leaves, raises⟩

/-- At every point of the parse of a source text the open brackets are those that the consumed
tokens leave open, and a bracket is closed only as the innermost of them. A parse that succeeds
passes a point before every token and has closed all brackets. A parse that fails does so at such a
point: if it fails for an unclosed bracket, it names the innermost one that is open before the token
at which it fails, and it never fails for a bracket that was not opened. -/
theorem brackets_tracked (scanned : Scan.scan source file = (tokens, none)) (depth : Nat) :
    ∃ inner final, tokens = inner ++ [final] ∧
      Throughout (State.start inner final).Tracked (program depth file) (State.start inner final) ∧
      match program depth file (State.start inner final) with
      | .ok (tree, last) => ofTokens depth file tokens = .ok tree.number ∧
          Passes (State.start inner final).Tracked (State.start inner final) last ∧
          last.ahead = [] ∧ last.opened = [] ∧ Balanced inner
      | .error error => ofTokens depth file tokens = .error error ∧
          (∃ point, (State.start inner final).Follows point ∧ point.Raises error) ∧
          (∀ other, error.cause ≠ (noneOpen other).cause) ∧
          (error.cause.code = "E103" → ∃ done found rest opener outer sign,
            tokens = done ++ found :: rest ∧ error.span = found.span ∧
            Leaves done (opener :: outer) ∧ found.kind ≠ closing opener.kind ∧
            opener.kind.spelling? = some sign ∧
            error.cause.message = "unmatched " ++ sign ++ " opened at " ++ opener.span.startText ++
              ": expected " ++ (closing opener.kind).spelling?.getD "closing delimiter" ++
              ", found " ++ found.describe) := by
  obtain ⟨inner, final, complete⟩ := Scan.complete_scan scanned
  obtain ⟨through, ends⟩ := tracks_start complete depth file
  refine ⟨inner, final, complete.split, through, ?_⟩
  have reads := reads_program depth file (show 5 * 0 ≤ depth + 3 by omega) (.start inner final)
    (scanned_start complete)
  rw [ofTokens_eq complete]
  cases ran : program depth file (.start inner final) with
  | ok reached =>
    rw [ran] at reads
    obtain ⟨_, _, _, finished⟩ := reads
    obtain ⟨⟨done, passed, leaves⟩, closed⟩ := ends reached.1 reached.2 ran
    refine ⟨rfl, through.passes reached.1 reached.2 ran, finished, closed, ?_⟩
    rw [closed, ← passed.whole finished] at leaves
    cases leaves with
    | balanced whole => exact whole
  | error error =>
    rw [ran] at reads
    refine ⟨rfl, through.raised error ran, reads.1.opened, fun code => ?_⟩
    obtain ⟨point, done, rest, split, leaves, raises⟩ := raised_of_program complete ran
    obtain ⟨opener, found, cause⟩ := Cause.unclosed_of_code code
    obtain ⟨rfl, other, outer, opened⟩ := raises.of_unclosed cause
    rw [opened] at leaves
    have sign := describe_of_isOpener (leaves.isOpener opener List.mem_cons_self)
    refine ⟨done, point.current, rest, opener, outer, opener.describe, split, raises.span, leaves,
      other, sign, ?_⟩
    rw [cause]
    rfl

/-- The failure of a parse that fails. -/
def failure? {α : Type} : Except Error α → Option Error
  | .ok _ => none
  | .error error => some error

/-- A parse has a failure exactly if it fails with it. -/
theorem failure?_eq_some_iff {α : Type} {result : Except Error α} :
    failure? result = some error ↔ result = .error error := by
  cases result <;> simp [failure?]

/-- A parenthesis is still open, inside a brace, where the brace is closed. -/
theorem brackets_tracked_mismatched : ∃ (tokens inner : List Token) (final : Token) (error : Error),
    Scan.scan "fn f() \x7b g(1 \x7d" none = (tokens, none) ∧ tokens = inner ++ [final] ∧
      Throughout (State.start inner final).Tracked (program depthLimit none)
        (State.start inner final) ∧
      program depthLimit none (State.start inner final) = .error error ∧
      error.cause.message = "unmatched '(' opened at 1:11: expected ')', found '\x7d'" := by
  let scanned := Scan.scan "fn f() \x7b g(1 \x7d" none
  have clean : scanned.2 = none := by decide +kernel
  have message : (failure? (ofTokens depthLimit none scanned.1)).map (·.cause.message) =
      some "unmatched '(' opened at 1:11: expected ')', found '\x7d'" := by
    decide +kernel
  obtain ⟨error, failed, message⟩ := Option.map_eq_some_iff.1 message
  rw [failure?_eq_some_iff] at failed
  obtain ⟨inner, final, split, through, ends⟩ :=
    brackets_tracked (Prod.ext rfl clean : Scan.scan _ none = (scanned.1, none)) depthLimit
  cases ran : program depthLimit none (State.start inner final) with
  | ok reached =>
    rw [ran, failed] at ends
    cases ends.1
  | error other =>
    rw [ran, failed] at ends
    cases ends.1
    exact ⟨scanned.1, inner, final, error, Prod.ext rfl clean, split, through, ran, message⟩

/-- A parse that fails does so at a token, with the brackets open that the tokens before it leave
open. A closing bracket is said to have no opening one only if it is not the partner of the innermost
of them. It is said so if no bracket is open; something else is expected if it is the partner of the
innermost one; and otherwise it is said so or the innermost one is said to be unclosed. -/
theorem closer_blamed (scanned : Scan.scan source file = (tokens, none)) (depth : Nat)
    (failed : ofTokens depth file tokens = .error error) :
    ∃ done found rest opened, tokens = done ++ found :: rest ∧ Leaves done opened ∧
      error.span = found.span ∧
      (∀ other, error.cause = .unopened other → other = found ∧ found.kind.isCloser = true ∧
        opened.head?.map (closing ·.kind) ≠ some found.kind) ∧
      (found.kind.isCloser = true → error.cause ≠ .tooDeep →
        (opened = [] → error.cause = .unopened found) ∧
        ∀ opener outer, opened = opener :: outer →
          (found.kind = closing opener.kind → ∃ expected, error.cause = .unexpected expected found) ∧
          (found.kind ≠ closing opener.kind →
            error.cause = .unopened found ∨ error.cause = .unclosed opener found)) := by
  obtain ⟨inner, final, complete⟩ := Scan.complete_scan scanned
  rw [ofTokens_eq complete] at failed
  cases ran : program depth file (.start inner final) with
  | ok reached =>
    rw [ran] at failed
    cases failed
  | error raised =>
    rw [ran] at failed
    cases failed
    obtain ⟨point, done, rest, split, leaves, raises⟩ := raised_of_program complete ran
    refine ⟨done, point.current, rest, point.opened, split, leaves, raises.span, ?_, ?_⟩
    · exact fun other cause => raises.of_unopened cause
    · intro closes shallow
      refine ⟨raises.of_none_opened closes shallow, fun opener outer opened => ?_⟩
      exact ⟨raises.of_partner shallow opened, raises.of_other closes shallow opened⟩

/-- A brace after a declaration has no opening one. -/
theorem closer_blamed_stray : ∃ (tokens done rest opened : List Token) (found : Token)
      (error : Error),
    Scan.scan "let x = 1; \x7d" none = (tokens, none) ∧
      ofTokens depthLimit none tokens = .error error ∧ tokens = done ++ found :: rest ∧
      Leaves done opened ∧ error.cause = .unopened found ∧
      opened.head?.map (closing ·.kind) ≠ some found.kind := by
  let scanned := Scan.scan "let x = 1; \x7d" none
  have clean : scanned.2 = none := by decide +kernel
  have refused : (failure? (ofTokens depthLimit none scanned.1)).map (·.cause.code) =
      some "E104" := by
    decide +kernel
  obtain ⟨error, failed, code⟩ := Option.map_eq_some_iff.1 refused
  rw [failure?_eq_some_iff] at failed
  obtain ⟨done, found, rest, opened, split, leaves, _, unopened, _⟩ :=
    closer_blamed (Prod.ext rfl clean : Scan.scan _ none = (scanned.1, none)) depthLimit failed
  obtain ⟨other, cause⟩ := Cause.unopened_of_code code
  obtain ⟨rfl, _, stray⟩ := unopened other cause
  exact ⟨scanned.1, done, rest, opened, other, error, Prod.ext rfl clean, failed, split, leaves,
    cause, stray⟩

/-- The brace of a function is still open, outside the parenthesis of a call, where it is closed. -/
theorem unopened_though_open : ∃ (tokens done rest opened : List Token) (found opener : Token)
      (error : Error),
    Scan.scan "fn f() \x7b g( \x7d" none = (tokens, none) ∧
      ofTokens depthLimit none tokens = .error error ∧ error.cause.code = "E104" ∧
      tokens = done ++ found :: rest ∧ error.span = found.span ∧ Leaves done opened ∧
      opener ∈ opened ∧ found.kind = closing opener.kind := by
  let scanned := Scan.scan "fn f() \x7b g( \x7d" none
  have clean : scanned.2 = none := by decide +kernel
  have evaluated : scanned.1[7]?.any (fun found =>
      decide ((failure? (ofTokens depthLimit none scanned.1)).map (fun error =>
        (error.cause.code, error.span)) = some ("E104", found.span)) &&
      (leftOpen (scanned.1.take 7)).any fun opened =>
        opened.any fun opener => decide (found.kind = closing opener.kind)) = true := by
    decide +kernel
  obtain ⟨found, placed, facts⟩ := (Option.any_eq_true _ _).1 evaluated
  rw [Bool.and_eq_true, decide_eq_true_eq] at facts
  obtain ⟨refused, stillOpen⟩ := facts
  obtain ⟨opened, leaves, inside⟩ := (Option.any_eq_true _ _).1 stillOpen
  obtain ⟨opener, among, partner⟩ := List.any_eq_true.1 inside
  obtain ⟨longer, rfl⟩ := List.getElem?_eq_some_iff.1 placed
  have split : scanned.1 = scanned.1.take 7 ++ scanned.1[7] :: scanned.1.drop 8 := by
    rw [← List.drop_eq_getElem_cons longer, List.take_append_drop]
  obtain ⟨error, failed, same⟩ := Option.map_eq_some_iff.1 refused
  rw [failure?_eq_some_iff] at failed
  injection same with code place
  exact ⟨scanned.1, _, _, opened, _, opener, error, Prod.ext rfl clean, failed, code, split, place,
    leftOpen_eq_some_iff.1 leaves, among, of_decide_eq_true partner⟩

end Parse

end Lag
