import Lag.Proofs.Grammar.Rules

/-!
# What readers do

A reader either consumes some of the tokens ahead, and then they and its result satisfy a
postcondition, or it fails. A failure blames one of the tokens that were ahead, or the end of the
text, and it never is about a closing bracket while none is open. The readers have a limited depth;
a reader is too deep only when as many tokens are ahead as a limit says, so that few tokens never
are too deep for it.
-/
namespace Lag

/-- A token carries a value exactly if it is a literal. -/
def Token.Apt (token : Token) : Prop := token.literal.isSome = token.kind.isLiteral

namespace Parse

variable {α β : Type}

/-- A state whose tokens are those of a source text. -/
structure State.Scanned (state : State) : Prop where
  /-- The tokens carry the values of literals. -/
  values : ∀ token ∈ state.ahead, token.Apt
  /-- The text does not end before its end. -/
  inner : ∀ token ∈ state.ahead, token.kind ≠ .endOfText
  /-- The last token is the end of the text. -/
  final : state.final.kind = .endOfText
  /-- The end of the text carries no value. -/
  ended : state.final.Apt

/-- A state that is reached from another by consuming tokens. -/
structure State.Passed (state : State) (consumed : List Token) (next : State) : Prop where
  /-- The consumed tokens were in front. -/
  ahead : state.ahead = consumed ++ next.ahead
  /-- The end of the text stays. -/
  final : next.final = state.final
  /-- The token read last is the last one consumed. -/
  last : next.last = consumed.getLastD state.last

/-- A failure that blames a token of a state. -/
structure State.Blames (state : State) (error : Error) : Prop where
  /-- The place is that of a token. -/
  place : ∃ token ∈ state.ahead ++ [state.final], error.span = token.span
  /-- The failure is not about a bracket that was never opened. -/
  opened : ∀ other : State, error.cause ≠ (noneOpen other).cause

/-- What a reader does from a state on. -/
def Reads (state : State) (limit : Nat) (reader : Reader α)
    (post : List Token → α → State → Prop) : Prop :=
  state.Scanned →
    match reader state with
    | .ok (result, next) => ∃ consumed, state.Passed consumed next ∧ post consumed result next
    | .error error => state.Blames error ∧ (error.cause = .tooDeep → limit ≤ state.ahead.length)

namespace State

variable {state next last : State} {consumed more : List Token}

/-- Consuming nothing. -/
theorem Passed.refl (state : State) : state.Passed [] state := ⟨rfl, rfl, rfl⟩

/-- Consuming some tokens and then others. -/
theorem Passed.trans (first : state.Passed consumed next) (second : next.Passed more last) :
    state.Passed (consumed ++ more) last := by
  refine ⟨?_, second.final.trans first.final, ?_⟩
  · rw [first.ahead, second.ahead, List.append_assoc]
  · rw [second.last, first.last]
    cases more with
    | nil => simp
    | cons token rest => simp [List.getLastD_eq_getLast?]

/-- The tokens of a source text stay such tokens. -/
theorem Passed.scanned (passed : state.Passed consumed next) (scanned : state.Scanned) :
    next.Scanned where
  values token inside := scanned.values token (by rw [passed.ahead]; simp [inside])
  inner token inside := scanned.inner token (by rw [passed.ahead]; simp [inside])
  final := by rw [passed.final]; exact scanned.final
  ended := by rw [passed.final]; exact scanned.ended

/-- The number of tokens ahead falls by those consumed. -/
theorem Passed.length (passed : state.Passed consumed next) :
    state.ahead.length = consumed.length + next.ahead.length := by
  rw [passed.ahead, List.length_append]

/-- A failure further on blames a token that was ahead before. -/
theorem Passed.blames (passed : state.Passed consumed next) {error : Error}
    (blames : next.Blames error) : state.Blames error := by
  obtain ⟨⟨token, inside, place⟩, opened⟩ := blames
  refine ⟨⟨token, ?_, place⟩, opened⟩
  rw [passed.final] at inside
  rw [passed.ahead, List.append_assoc]
  exact List.mem_append_right _ inside

/-- The token in front is one of the tokens of a state. -/
theorem current_mem (state : State) : state.current ∈ state.ahead ++ [state.final] := by
  unfold State.current
  cases state.ahead <;> simp

/-- The token in front of tokens of a source text carries the value of a literal. -/
theorem Scanned.current (scanned : state.Scanned) : state.current.Apt := by
  unfold State.current
  cases ahead : state.ahead with
  | nil => exact scanned.ended
  | cons token rest => exact scanned.values token (by simp [ahead])

/-- A token in front that does not end the text is ahead. -/
theorem Scanned.ahead_of_current (scanned : state.Scanned)
    (goesOn : state.current.kind ≠ .endOfText) :
    ∃ rest, state.ahead = state.current :: rest := by
  unfold State.current at goesOn ⊢
  cases ahead : state.ahead with
  | nil => exact absurd scanned.final (by simpa [ahead] using goesOn)
  | cons token rest => exact ⟨rest, by simp⟩

/-- Consuming a token in front. -/
theorem passed_cons {token : Token} {rest : List Token} (ahead : state.ahead = token :: rest) :
    state.Passed [token] { state with ahead := rest, last := token } :=
  ⟨by rw [ahead]; rfl, rfl, rfl⟩

/-- The first token consumed was in front. -/
theorem Passed.current {token : Token} (passed : state.Passed (token :: more) next) :
    state.current = token := by
  rw [State.current, passed.ahead]
  rfl

/-- A failure of a reader that expects something else blames the token in front. -/
theorem blames_failure (state : State) {expected : String} (other : expected ≠ "closing delimiter") :
    state.Blames (state.failure expected) := by
  refine ⟨⟨state.current, state.current_mem, ?_⟩, fun other same => ?_⟩
  · unfold State.failure
    dsimp only
    split
    · split <;> rfl
    · split <;> rfl
  · unfold State.failure noneOpen at same
    dsimp only at same
    split at same
    · split at same <;> cases same
    · split at same
      · cases same
      · injection same
        contradiction

/-- A failure of a reader that expects something else is not about the depth. -/
theorem cause_failure (state : State) (expected : String) :
    (state.failure expected).cause ≠ .tooDeep := by
  unfold State.failure
  dsimp only
  split
  · split <;> simp
  · split <;> simp

end State

/-- The span up to another depends on where that other stops only. -/
theorem through_eq {first last other : Source.Span} (same : last.stop = other.stop) :
    first.through last = first.through other := by
  rw [Source.Span.through, same]
  rfl

namespace Reads

variable {state : State} {limit : Nat} {post : List Token → α → State → Prop}

/-- A reader that returns at once consumes nothing. -/
theorem pure {result : α} (holds : post [] result state) :
    Reads state limit (Pure.pure result) post :=
  fun _ => ⟨[], .refl state, holds⟩

/-- A reader of the tokens of a source text may rely on them. -/
theorem relying {reader : Reader α} (reads : state.Scanned → Reads state limit reader post) :
    Reads state limit reader post :=
  fun scanned => reads scanned scanned

/-- A postcondition may be weakened. -/
theorem mono {reader : Reader α} {weaker : List Token → α → State → Prop}
    (reads : Reads state limit reader post)
    (weaken : ∀ consumed result next, state.Passed consumed next → post consumed result next →
      weaker consumed result next) : Reads state limit reader weaker := by
  intro scanned
  have given := reads scanned
  cases ran : reader state with
  | error error =>
    rw [ran] at given
    exact given
  | ok reached =>
    rw [ran] at given
    obtain ⟨consumed, passed, holds⟩ := given
    exact ⟨consumed, passed, weaken _ _ _ passed holds⟩

/-- A reader goes on after another, from what that one left. -/
theorem bind {reader : Reader α} {next : α → Reader β} {between : List Token → α → State → Prop}
    {post : List Token → β → State → Prop} (first : Reads state limit reader between)
    (rest : ∀ consumed middle after, state.Passed consumed after → between consumed middle after →
      Reads after (limit - consumed.length) (next middle) fun more result last =>
        post (consumed ++ more) result last) :
    Reads state limit (reader >>= next) post := by
  intro scanned
  have given := first scanned
  rw [bind_apply]
  cases ran : reader state with
  | error error =>
    rw [ran] at given
    exact given
  | ok reached =>
    obtain ⟨middle, after⟩ := reached
    rw [ran] at given
    obtain ⟨consumed, passed, holds⟩ := given
    have later := rest consumed middle after passed holds (passed.scanned scanned)
    dsimp only at later ⊢
    cases finished : next middle after with
    | error error =>
      rw [finished] at later
      refine ⟨passed.blames later.1, fun deep => ?_⟩
      have enough := later.2 deep
      have length := passed.length
      omega
    | ok reached =>
      rw [finished] at later
      obtain ⟨more, passedOn, holdsOn⟩ := later
      exact ⟨consumed ++ more, passed.trans passedOn, holdsOn⟩

/-- A reader goes on after a look at its state. -/
theorem look {look : State → α} {next : α → Reader β} {post : List Token → β → State → Prop}
    (rest : Reads state limit (next (look state)) post) :
    Reads state limit ((fun state => .ok (look state, state)) >>= next) post := rest

/-- A reader that expects something else fails. -/
theorem unexpected {expected : String} (other : expected ≠ "closing delimiter") :
    Reads state limit (Parse.unexpected expected) post :=
  fun _ => ⟨state.blames_failure other, fun deep => absurd deep (state.cause_failure expected)⟩

/-- A reader without steps is too deep for any tokens. -/
theorem tooDeep (none : limit = 0) : Reads state limit Parse.tooDeep post := by
  intro _
  refine ⟨⟨⟨_, state.current_mem, rfl⟩, fun other same => ?_⟩, fun _ => by omega⟩
  cases same

/-- A reader goes on after a change of the open brackets. -/
theorem opening {change : State → List Token} {next : Unit → Reader α}
    (rest : Reads { state with opened := change state } limit (next ()) post) :
    Reads state limit ((modify fun state => { state with opened := change state }) >>= next)
      post := by
  intro scanned
  have given := rest ⟨scanned.values, scanned.inner, scanned.final, scanned.ended⟩
  show match next () { state with opened := change state } with
    | .ok (result, next) => ∃ consumed, state.Passed consumed next ∧ post consumed result next
    | .error error => state.Blames error ∧ (error.cause = .tooDeep → limit ≤ state.ahead.length)
  cases ran : next () { state with opened := change state } with
  | error error =>
    rw [ran] at given
    exact ⟨⟨given.1.place, given.1.opened⟩, given.2⟩
  | ok reached =>
    rw [ran] at given
    obtain ⟨consumed, passed, holds⟩ := given
    exact ⟨consumed, ⟨passed.ahead, passed.final, passed.last⟩, holds⟩

/-- A reader that only fails does not go on. -/
theorem fails {reader : Reader α} {next : α → Reader β} {post : List Token → β → State → Prop}
    (never : Reads state limit reader fun _ _ _ => False) :
    Reads state limit (reader >>= next) post :=
  never.bind fun _ _ _ _ impossible => impossible.elim

/-- A reader goes on after it has consumed the token in front. -/
theorem advance {next : Token → Reader α} (goesOn : state.current.kind ≠ .endOfText)
    (rest : ∀ after, after.opened = state.opened → after.last = state.current →
      state.Passed [state.current] after →
        Reads after (limit - 1) (next state.current) fun more result last =>
          post (state.current :: more) result last) :
    Reads state limit (Parse.advance >>= next) post := by
  have consumes : Reads state limit Parse.advance fun consumed token after =>
      consumed = [state.current] ∧ token = state.current ∧ after.opened = state.opened := by
    intro scanned
    obtain ⟨rest, ahead⟩ := scanned.ahead_of_current goesOn
    have passed := State.passed_cons ahead
    unfold Parse.advance
    rw [ahead]
    exact ⟨_, passed, rfl, rfl, rfl⟩
  refine consumes.bind ?_
  rintro consumed token after passed ⟨rfl, rfl, opened⟩
  exact rest after opened passed.last passed

/-- A reader goes on after it has consumed a token of a kind. -/
theorem expect {kind : TokenKind} {expected : String} {next : Token → Reader α}
    (inner : kind ≠ .endOfText) (other : expected ≠ "closing delimiter")
    (rest : ∀ token after, token.kind = kind → after.opened = state.opened → after.last = token →
      state.Passed [token] after → Reads after (limit - 1) (next token) fun more result last =>
        post (token :: more) result last) :
    Reads state limit (Parse.expect kind expected >>= next) post := by
  unfold Parse.expect Parse.facing
  rw [bind_assoc]
  refine look ?_
  by_cases is : state.current.kind = kind
  · rw [if_pos (by simpa using is)]
    refine advance (by rw [is]; exact inner) fun after opened last passed => ?_
    exact rest _ after is opened last passed
  · rw [if_neg (by simpa using is)]
    exact fails (unexpected other)

/-- A reader goes on after it has consumed a token of a kind, or where another token is in front. -/
theorem accept {kind : TokenKind} {next : Bool → Reader α} (inner : kind ≠ .endOfText)
    (found : ∀ token after, token.kind = kind → after.opened = state.opened →
      state.Passed [token] after → Reads after (limit - 1) (next true) fun more result last =>
        post (token :: more) result last)
    (missing : Reads state limit (next false) post) :
    Reads state limit (Parse.accept kind >>= next) post := by
  unfold Parse.accept Parse.facing
  rw [bind_assoc]
  refine look ?_
  by_cases is : state.current.kind = kind
  · rw [if_pos (by simpa using is), bind_assoc]
    refine advance (by rw [is]; exact inner) fun after opened _ passed => ?_
    exact found _ after is opened passed
  · rw [if_neg (by simpa using is)]
    exact missing

/-- A reader goes on after it has consumed an opening bracket, which is open then. -/
theorem openBracket {kind : TokenKind} {expected : String} {next : Unit → Reader α}
    (inner : kind ≠ .endOfText) (other : expected ≠ "closing delimiter")
    (rest : ∀ token after, token.kind = kind → after.opened = token :: state.opened →
      state.Passed [token] after → Reads after (limit - 1) (next ()) fun more result last =>
        post (token :: more) result last) :
    Reads state limit (Parse.openBracket kind expected >>= next) post := by
  unfold Parse.openBracket
  rw [bind_assoc]
  refine expect inner other fun token after is opened last passed => opening ?_
  exact rest token { after with opened := token :: after.opened } is (by rw [opened])
    ⟨passed.ahead, passed.final, passed.last⟩

/-- A reader goes on after it has consumed the closing bracket of an open bracket. -/
theorem closeBracket {kind : TokenKind} {next : Token → Reader α} {opener : Token}
    {others : List Token} (inner : kind ≠ .endOfText) (opened : state.opened = opener :: others)
    (rest : ∀ token after, token.kind = kind → after.opened = others → after.last = token →
      state.Passed [token] after → Reads after (limit - 1) (next token) fun more result last =>
        post (token :: more) result last) :
    Reads state limit (Parse.closeBracket kind >>= next) post := by
  unfold Parse.closeBracket Parse.facing
  rw [bind_assoc]
  refine look ?_
  by_cases is : state.current.kind = kind
  · rw [if_pos (by simpa using is), bind_assoc]
    refine opening ?_
    have same : State.current { state with opened := state.opened.tail } = state.current := rfl
    refine advance (by rw [same, is]; exact inner) fun after opens last passed => ?_
    refine rest _ after is (opens.trans ?_) last ⟨passed.ahead, passed.final, passed.last⟩
    rw [opened]
    rfl
  · rw [if_neg (by simpa using is)]
    refine fails fun _ => ?_
    simp only [opened]
    exact ⟨⟨⟨_, state.current_mem, rfl⟩, fun other same => by cases same⟩, fun deep => by cases deep⟩

end Reads

end Parse

end Lag
