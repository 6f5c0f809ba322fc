import Lag.Proofs.Grammar.Reads
import Lag.Proofs.Nesting.Brackets

/-!
# The points of a parse

A reader is composed of actions: it looks at what it keeps, it consumes a token, an opening or a
closing bracket, or it fails. A condition holds throughout a reader if it holds of every action and
of the state in which the action is done. The condition of this development is that the open
brackets of the state are those that the consumed tokens leave open. There is one rule for every way
in which the readers of constructs are put together.
-/
namespace Lag.Parse

variable {α β : Type}

/-- What a reader does at a point. -/
inductive Action where
  /-- It looks at what it keeps. -/
  | look
  /-- It consumes a token. -/
  | advance
  /-- It consumes an opening bracket and remembers it. -/
  | openBracket (kind : TokenKind)
  /-- It consumes the closing bracket of the innermost open bracket. -/
  | closeBracket (kind : TokenKind)
  /-- It fails since it expects something else. -/
  | unexpected
  /-- It fails since no step of the depth is left. -/
  | tooDeep

/-- A condition holds at every point of a reader from a state on. The readers of constructs change
their state by these actions only, so that the points of a reader are the states that it passes. -/
inductive Throughout (holds : Action → State → Prop) : {α : Type} → Reader α → State → Prop where
  /-- A reader that returns at once passes no point. -/
  | pure {α : Type} {result : α} {state : State} : Throughout holds (Pure.pure result) state
  /-- A look at the state. -/
  | look {α : Type} {look : State → α} {state : State} (here : holds .look state) :
    Throughout holds (fun state => .ok (look state, state)) state
  /-- A token. -/
  | advance {state : State} (here : holds .advance state) : Throughout holds advance state
  /-- An opening bracket. -/
  | openBracket {kind : TokenKind} {expected : String} {state : State}
    (here : holds (.openBracket kind) state) : Throughout holds (openBracket kind expected) state
  /-- A closing bracket. -/
  | closeBracket {kind : TokenKind} {state : State} (here : holds (.closeBracket kind) state) :
    Throughout holds (closeBracket kind) state
  /-- A failure at a token. -/
  | unexpected {α : Type} {expected : String} {state : State} (here : holds .unexpected state) :
    Throughout holds (unexpected (α := α) expected) state
  /-- A failure for the depth. -/
  | tooDeep {α : Type} {state : State} (here : holds .tooDeep state) :
    Throughout holds (tooDeep (α := α)) state
  /-- A reader and what goes on with its result. -/
  | bind {α β : Type} {reader : Reader α} {rest : α → Reader β} {state : State}
    (first : Throughout holds reader state)
    (next : ∀ result after, reader state = .ok (result, after) →
      Throughout holds (rest result) after) : Throughout holds (reader >>= rest) state

/-- The state after the token in front; the end of the text stays in front. -/
def State.advanced (state : State) : State :=
  match state.ahead with
  | [] => state
  | token :: rest => { state with ahead := rest, last := token }

/-- The open brackets stay. -/
@[simp]
theorem State.opened_advanced (state : State) : state.advanced.opened = state.opened := by
  unfold advanced
  split <;> rfl

/-- The token in front does not depend on the open brackets. -/
theorem State.advanced_opening (state : State) (opened : List Token) :
    State.advanced { state with opened := opened } = { state.advanced with opened := opened } := by
  unfold advanced
  cases ahead : state.ahead <;> simp [ahead]

/-- The second token is in front then. -/
theorem State.current_advanced (state : State) :
    state.advanced.current = state.ahead.tail.headD state.final := by
  unfold advanced
  cases ahead : state.ahead with
  | nil => simp [current, ahead]
  | cons token rest => rfl

/-- At most one token is consumed. -/
@[simp]
theorem State.ahead_advanced (state : State) : state.advanced.ahead = state.ahead.tail := by
  unfold advanced
  cases ahead : state.ahead <;> simp [ahead]

/-- A token is consumed without a failure. -/
theorem advance_apply (state : State) : advance state = .ok (state.current, state.advanced) := by
  unfold advance State.current State.advanced
  cases state.ahead <;> rfl

/-- An opening bracket is consumed and remembered if it is in front. -/
theorem openBracket_apply (kind : TokenKind) (expected : String) (state : State) :
    openBracket kind expected state =
      if state.current.kind = kind then
        .ok ((), { state.advanced with opened := state.current :: state.opened })
      else .error (state.failure expected) := by
  unfold openBracket expect facing
  rw [bind_apply, bind_apply]
  by_cases is : state.current.kind = kind
  · rw [if_pos is, ← state.opened_advanced]
    simp only [is, beq_self_eq_true, if_true, advance_apply]
    rfl
  · rw [if_neg is]
    simp only [beq_eq_false_iff_ne.2 is, Bool.false_eq_true, if_false]
    rfl

/-- A closing bracket is consumed and its partner forgotten if it is in front. -/
theorem closeBracket_apply (kind : TokenKind) (state : State) :
    closeBracket kind state =
      if state.current.kind = kind then
        .ok (state.current, { state.advanced with opened := state.opened.tail })
      else
        match state.opened with
        | opener :: _ => .error ⟨.unclosed opener state.current, state.current.span, true⟩
        | [] => .error (noneOpen state) := by
  unfold closeBracket facing
  rw [bind_apply]
  by_cases is : state.current.kind = kind
  · have consumed := advance_apply { state with opened := state.opened.tail }
    rw [State.advanced_opening] at consumed
    rw [if_pos is]
    simp only [is, beq_self_eq_true, if_true]
    exact consumed
  · rw [if_neg is]
    exact congrFun (if_neg (by simpa using is)) state

/-- What a reader passes if a condition holds throughout it: the rest of the tokens from every
consumed one on was ahead at some point, and there the condition held. -/
def Passes (holds : Action → State → Prop) (state last : State) : Prop :=
  last.ahead <:+ state.ahead ∧ ∀ text, text <:+ state.ahead → last.ahead.length < text.length →
    ∃ action point, holds action point ∧ point.ahead = text

namespace Passes

variable {holds : Action → State → Prop} {state next last : State} {action : Action}

/-- Nothing is consumed. -/
theorem of_same (same : last.ahead = state.ahead) : Passes holds state last := by
  constructor
  · simp [same]
  · intro text front longer
    have shorter := front.length_le
    rw [same] at longer
    omega

/-- One token is consumed. -/
theorem of_tail (here : holds action state) (one : last.ahead = state.ahead.tail) :
    Passes holds state last := by
  constructor
  · rw [one]
    exact List.tail_suffix _
  · intro text front longer
    have shorter := front.length_le
    rw [one, List.length_tail] at longer
    exact ⟨action, state, here, (front.eq_of_length (by omega)).symm⟩

/-- Tokens are consumed, and then others. -/
theorem trans (first : Passes holds state next) (second : Passes holds next last) :
    Passes holds state last := by
  refine ⟨second.1.trans first.1, fun text front longer => ?_⟩
  by_cases early : next.ahead.length < text.length
  · exact first.2 text front early
  · have later := List.suffix_of_suffix_length_le front first.1 (Nat.le_of_not_lt early)
    exact second.2 text later longer

end Passes

/-- A reader passes a point before every token that it consumes. -/
theorem Throughout.passes {holds : Action → State → Prop} {state : State} {reader : Reader α}
    (through : Throughout holds reader state) :
    ∀ result last, reader state = .ok (result, last) → Passes holds state last := by
  induction through with
  | pure =>
    intro result last ran
    cases ran
    exact .of_same rfl
  | look here =>
    intro result last ran
    cases ran
    exact .of_same rfl
  | @advance state here =>
    intro result last ran
    rw [advance_apply] at ran
    cases ran
    exact .of_tail here state.ahead_advanced
  | @openBracket kind expected state here =>
    intro result last ran
    rw [openBracket_apply] at ran
    split at ran
    · cases ran
      exact .of_tail here state.ahead_advanced
    · cases ran
  | @closeBracket kind state here =>
    intro result last ran
    rw [closeBracket_apply] at ran
    split at ran
    · cases ran
      exact .of_tail here state.ahead_advanced
    · split at ran <;> cases ran
  | unexpected here => exact fun result last ran => nomatch ran
  | tooDeep here => exact fun result last ran => nomatch ran
  | @bind α β reader rest state first _ firstPasses nextPasses =>
    intro result last ran
    rw [bind_apply] at ran
    cases read : reader state with
    | error error =>
      rw [read] at ran
      cases ran
    | ok reached =>
      rw [read] at ran
      have before := firstPasses reached.1 reached.2 read
      exact before.trans (nextPasses reached.1 reached.2 read result last ran)

namespace State

/-- The tokens consumed since a state leave open what another state keeps as open. -/
def Follows (root state : State) : Prop :=
  ∃ done, root.Passed done state ∧ Leaves done state.opened

/-- What holds at a point of a parse: the open brackets are those of the consumed tokens, and what
is closed is the innermost of them. -/
structure Tracked (root : State) (action : Action) (state : State) : Prop where
  /-- The open brackets. -/
  follows : root.Follows state
  /-- The bracket that is closed. -/
  closes : ∀ kind, action = .closeBracket kind →
    ∃ opener outer, state.opened = opener :: outer ∧ closing opener.kind = kind

/-- What is raised at a point. -/
inductive Raises (state : State) : Error → Prop where
  /-- Something else is expected. -/
  | unexpected (expected : String) : state.Raises (state.failure expected)
  /-- The innermost open bracket is to be closed, and its partner is not in front. -/
  | unclosed {opener : Token} {outer : List Token} (opened : state.opened = opener :: outer)
    (other : state.current.kind ≠ closing opener.kind) :
    state.Raises ⟨.unclosed opener state.current, state.current.span, true⟩
  /-- No step of the depth is left. -/
  | tooDeep : state.Raises ⟨.tooDeep, state.current.span, true⟩

variable {root state : State}

/-- The tokens after one that is in front of the tokens of a source text are ahead of it. -/
theorem passed_advanced (scanned : state.Scanned) (goesOn : state.current.kind ≠ .endOfText) :
    state.Passed [state.current] state.advanced := by
  obtain ⟨rest, ahead⟩ := scanned.ahead_of_current goesOn
  have passed := passed_cons ahead
  have is : state.advanced = { state with ahead := rest, last := state.current } := by
    rw [advanced, ahead]
  rwa [is]

/-- After a token that is no bracket the same brackets are open. -/
theorem Follows.advanced (follows : root.Follows state)
    (other : state.current.kind.isBracket = false) : root.Follows state.advanced := by
  obtain ⟨done, passed, leaves⟩ := follows
  unfold State.advanced
  cases ahead : state.ahead with
  | nil => exact ⟨done, passed, leaves⟩
  | cons token rest =>
    have is : state.current = token := by
      simp [State.current, ahead]
    rw [is] at other
    exact ⟨done ++ [token], passed.trans (passed_cons ahead), leaves.concat other⟩

/-- After an opening bracket it is the innermost one that is open. -/
theorem Follows.opening (scanned : root.Scanned) (follows : root.Follows state)
    (opens : state.current.kind.isOpener = true) :
    root.Follows { state.advanced with opened := state.current :: state.opened } := by
  obtain ⟨done, passed, leaves⟩ := follows
  have goesOn := TokenKind.ne_endOfText_of_isOpener opens
  have onward := passed.trans (passed_advanced (passed.scanned scanned) goesOn)
  exact ⟨_, ⟨onward.ahead, onward.final, onward.last⟩, leaves.opens opens⟩

/-- After the partner of the innermost open bracket the bracket is open no longer. -/
theorem Follows.closing {opener : Token} {outer : List Token} (scanned : root.Scanned)
    (follows : root.Follows state) (opened : state.opened = opener :: outer)
    (closes : state.current.kind = Parse.closing opener.kind) :
    root.Follows { state.advanced with opened := outer } := by
  obtain ⟨done, passed, leaves⟩ := follows
  have isCloser := TokenKind.isCloser_closing opener.kind
  rw [← closes] at isCloser
  have goesOn := TokenKind.ne_endOfText_of_isCloser isCloser
  have onward := passed.trans (passed_advanced (passed.scanned scanned) goesOn)
  rw [opened] at leaves
  exact ⟨_, ⟨onward.ahead, onward.final, onward.last⟩, leaves.closes closes⟩

end State

/-- A reader that fails does so at one of its points. -/
theorem Throughout.raised {root state : State} {reader : Reader α}
    (through : Throughout root.Tracked reader state) :
    ∀ error, reader state = .error error → ∃ point, root.Follows point ∧ point.Raises error := by
  induction through with
  | pure => exact fun error failed => nomatch failed
  | look _ => exact fun error failed => nomatch failed
  | @advance state here =>
    intro error failed
    rw [advance_apply] at failed
    cases failed
  | @openBracket kind expected state here =>
    intro error failed
    rw [openBracket_apply] at failed
    split at failed
    · cases failed
    · injection failed with same
      rw [← same]
      exact ⟨state, here.follows, .unexpected expected⟩
  | @closeBracket kind state here =>
    intro error failed
    obtain ⟨opener, outer, opened, rfl⟩ := here.closes kind rfl
    rw [closeBracket_apply] at failed
    split at failed
    · cases failed
    · rename_i other
      simp only [opened, Except.error.injEq] at failed
      rw [← failed]
      exact ⟨state, here.follows, .unclosed opened other⟩
  | @unexpected α expected state here =>
    intro error failed
    unfold Parse.unexpected at failed
    injection failed with same
    rw [← same]
    exact ⟨state, here.follows, .unexpected expected⟩
  | @tooDeep α state here =>
    intro error failed
    cases failed
    exact ⟨state, here.follows, .tooDeep⟩
  | @bind α β reader rest state first _ firstRaised nextRaised =>
    intro error failed
    rw [bind_apply] at failed
    cases ran : reader state with
    | error other =>
      rw [ran] at failed
      cases failed
      exact firstRaised error ran
    | ok reached =>
      rw [ran] at failed
      exact nextRaised reached.1 reached.2 ran error failed

/-- A reader tracks brackets if the open brackets are those of the consumed tokens at every point of
it and in the end, given those that are open before it and after it. -/
def Tracks (root : State) (before after : List Token) (state : State) (reader : Reader α) : Prop :=
  root.Scanned → root.Follows state → state.opened = before →
    Throughout root.Tracked reader state ∧
      ∀ result next, reader state = .ok (result, next) → root.Follows next ∧ next.opened = after

/-- A reader that tracks brackets closes all that it opens. -/
def Keeps (root : State) (reader : Reader α) : Prop :=
  ∀ opened state, Tracks root opened opened state reader

namespace Tracks

variable {root state : State} {before between after : List Token}

/-- A reader that returns at once. -/
theorem pure {result : α} : Tracks root before before state (Pure.pure result) := by
  intro _ follows opened
  refine ⟨.pure, fun result next ran => ?_⟩
  cases ran
  exact ⟨follows, opened⟩

/-- A reader may rely on the tokens of a source text. -/
theorem relying {reader : Reader α} (tracks : state.Scanned → Tracks root before after state reader) :
    Tracks root before after state reader := by
  intro scanned follows
  obtain ⟨done, passed, leaves⟩ := follows
  exact tracks (passed.scanned scanned) scanned ⟨done, passed, leaves⟩

/-- A reader goes on after another. -/
theorem bind {reader : Reader α} {rest : α → Reader β}
    (first : Tracks root before between state reader)
    (next : ∀ result reached, Tracks root between after reached (rest result)) :
    Tracks root before after state (reader >>= rest) := by
  intro scanned follows opened
  obtain ⟨through, ends⟩ := first scanned follows opened
  constructor
  · refine .bind through fun result reached ran => ?_
    obtain ⟨followed, left⟩ := ends result reached ran
    exact (next result reached scanned followed left).1
  · intro result last ran
    rw [bind_apply] at ran
    cases read : reader state with
    | error error =>
      rw [read] at ran
      cases ran
    | ok reached =>
      rw [read] at ran
      obtain ⟨followed, left⟩ := ends reached.1 reached.2 read
      exact (next reached.1 reached.2 scanned followed left).2 result last ran

/-- A reader whose result is changed. -/
theorem map {reader : Reader α} {change : α → β} (tracks : Tracks root before after state reader) :
    Tracks root before after state (change <$> reader) := by
  rw [map_eq_pure_bind]
  exact tracks.bind fun _ _ => pure

/-- A reader that is known to succeed goes on from the state that it reaches. -/
theorem step {reader : Reader α} {rest : α → Reader β} {result : α} {reached : State}
    (here : root.Scanned → root.Follows state → state.opened = before →
      Throughout root.Tracked reader state ∧ root.Follows reached ∧ reached.opened = between)
    (ran : reader state = .ok (result, reached))
    (next : Tracks root between after reached (rest result)) :
    Tracks root before after state (reader >>= rest) := by
  intro scanned follows opened
  obtain ⟨through, followed, left⟩ := here scanned follows opened
  obtain ⟨later, ends⟩ := next scanned followed left
  constructor
  · refine .bind through fun other last same => ?_
    rw [ran] at same
    cases same
    exact later
  · rw [bind_apply, ran]
    exact ends

/-- A reader that is known to fail. -/
theorem fails {reader : Reader α} {error : Error}
    (here : root.Scanned → root.Follows state → state.opened = before →
      Throughout root.Tracked reader state)
    (ran : reader state = .error error) : Tracks root before after state reader := by
  intro scanned follows opened
  refine ⟨here scanned follows opened, fun result next same => ?_⟩
  rw [ran] at same
  cases same

/-- Nothing goes on after a reader that is known to fail. -/
theorem stops {reader : Reader α} {rest : α → Reader β} {error : Error}
    (here : root.Scanned → root.Follows state → state.opened = before →
      Throughout root.Tracked reader state)
    (ran : reader state = .error error) : Tracks root before after state (reader >>= rest) := by
  refine fails (fun scanned follows opened => ?_) (by rw [bind_apply, ran])
  refine .bind (here scanned follows opened) fun result reached same => ?_
  rw [ran] at same
  cases same

/-- A failure at a token. -/
theorem unexpected {expected : String} :
    Tracks root before after state (Parse.unexpected expected : Reader α) :=
  fails (fun _ follows _ => .unexpected ⟨follows, nofun⟩) rfl

/-- A failure for the depth. -/
theorem tooDeep : Tracks root before after state (Parse.tooDeep : Reader α) :=
  fails (fun _ follows _ => .tooDeep ⟨follows, nofun⟩) rfl

/-- A look at the state. -/
theorem looks {look : State → α} :
    Tracks root before before state (fun state => .ok (look state, state)) := by
  intro _ follows opened
  refine ⟨.look ⟨follows, nofun⟩, fun result next ran => ?_⟩
  cases ran
  exact ⟨follows, opened⟩

/-- A reader goes on after a look at the state. -/
theorem look {look : State → α} {next : α → Reader β}
    (rest : Tracks root before after state (next (look state))) :
    Tracks root before after state ((fun state => .ok (look state, state)) >>= next) :=
  step (fun _ follows opened => ⟨.look ⟨follows, nofun⟩, follows, opened⟩) rfl rest

/-- A token that is no bracket. -/
theorem advance {next : Token → Reader α} (other : state.current.kind.isBracket = false)
    (rest : Tracks root before after state.advanced (next state.current)) :
    Tracks root before after state (Parse.advance >>= next) :=
  step (fun _ follows opened => ⟨.advance ⟨follows, nofun⟩, follows.advanced other,
    state.opened_advanced.trans opened⟩) (advance_apply state) rest

/-- A token of a kind that is no bracket. -/
theorem expect {kind : TokenKind} {expected : String} {next : Token → Reader α}
    (other : kind.isBracket = false)
    (rest : ∀ token reached, Tracks root before after reached (next token)) :
    Tracks root before after state (Parse.expect kind expected >>= next) := by
  unfold Parse.expect Parse.facing
  rw [bind_assoc]
  refine look ?_
  by_cases is : state.current.kind = kind
  · rw [if_pos (by simpa using is)]
    exact advance (by rw [is]; exact other) (rest _ _)
  · rw [if_neg (by simpa using is)]
    exact bind unexpected rest

/-- A token of a kind that is no bracket, if it is in front. -/
theorem keeps_accept {kind : TokenKind} (other : kind.isBracket = false) :
    Keeps root (Parse.accept kind) := by
  intro opened state
  unfold Parse.accept Parse.facing
  refine look ?_
  by_cases is : state.current.kind = kind
  · rw [if_pos (by simpa using is)]
    exact advance (by rw [is]; exact other) pure
  · rw [if_neg (by simpa using is)]
    exact pure

/-- An opening bracket is open after it. -/
theorem openBracket {kind : TokenKind} {expected : String} {next : Unit → Reader α}
    (opens : kind.isOpener = true)
    (rest : ∀ opener reached, opener.kind = kind →
      Tracks root (opener :: before) after reached (next ())) :
    Tracks root before after state (Parse.openBracket kind expected >>= next) := by
  have applied := openBracket_apply kind expected state
  by_cases is : state.current.kind = kind
  · rw [if_pos is] at applied
    refine step (fun scanned follows opened => ?_) applied (rest state.current _ is)
    refine ⟨.openBracket ⟨follows, nofun⟩, follows.opening scanned (by rw [is]; exact opens), ?_⟩
    rw [opened]
  · rw [if_neg is] at applied
    exact stops (fun _ follows _ => .openBracket ⟨follows, nofun⟩) applied

/-- The partner of the innermost open bracket closes it. -/
theorem closeBracket {kind : TokenKind} {opener : Token} {outer : List Token}
    (closes : closing opener.kind = kind) :
    Tracks root (opener :: outer) outer state (Parse.closeBracket kind) := by
  intro scanned follows opened
  have here : root.Tracked (.closeBracket kind) state := by
    refine ⟨follows, fun other same => ?_⟩
    cases same
    exact ⟨opener, outer, opened, closes⟩
  refine ⟨.closeBracket here, fun token next ran => ?_⟩
  rw [closeBracket_apply, opened] at ran
  split at ran
  · rename_i is
    cases ran
    exact ⟨follows.closing scanned opened (is.trans closes.symm), rfl⟩
  · cases ran

end Tracks

end Lag.Parse
