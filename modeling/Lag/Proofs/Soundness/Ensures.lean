import Lag.Proofs.Scoping.Simulates

/-!
# What computations ensure

A computation that starts in a state where something holds either gives a result, and then something
holds of the result and the state after it, or it meets trouble, and then something holds of the
trouble and the state where it stops. Computations that are made one after the other ensure what
their steps do.
-/
namespace Lag.Run

variable {τ α β : Type}

/-- What holds of an ending: one thing of a result, another of a trouble. -/
inductive Lands (after : α → τ → Prop) (fault : Trouble → τ → Prop) :
    Ending τ α → Prop where
  /-- The computation gives a result. -/
  | result {value : α} {state : τ} (holds : after value state) : Lands after fault (.ok value, state)
  /-- The computation meets trouble. -/
  | trouble {trouble : Trouble} {state : τ} (holds : fault trouble state) :
    Lands after fault (.error trouble, state)

/-- What a computation ensures from states where something holds. -/
def Ensures (before : τ → Prop) (action : Task τ α) (after : α → τ → Prop)
    (fault : Trouble → τ → Prop) : Prop :=
  ∀ state, before state → Lands after fault (endOf action state)

/-- What holds of an ending may be weakened. -/
theorem Lands.mono {after later : α → τ → Prop} {fault further : Trouble → τ → Prop}
    {ending : Ending τ α} (lands : Lands after fault ending)
    (results : ∀ value state, after value state → later value state)
    (troubles : ∀ trouble state, fault trouble state → further trouble state) :
    Lands later further ending := by
  cases lands with
  | result holds => exact .result (results _ _ holds)
  | trouble holds => exact .trouble (troubles _ _ holds)

namespace Ensures

variable {before : τ → Prop} {fault : Trouble → τ → Prop}

/-- A result that is given at once. -/
theorem pure {after : α → τ → Prop} {value : α}
    (holds : ∀ state, before state → after value state) :
    Ensures before (Pure.pure value) after fault :=
  fun state given => .result (holds state given)

/-- A trouble that is met at once. -/
theorem throw {after : α → τ → Prop} {trouble : Trouble}
    (holds : ∀ state, before state → fault trouble state) :
    Ensures before (MonadExcept.throw trouble) after fault :=
  fun state given => .trouble (holds state given)

/-- What holds before may be strengthened, and what holds after may be weakened. -/
theorem mono {action : Task τ α} {earlier : τ → Prop} {after later : α → τ → Prop}
    {further : Trouble → τ → Prop} (ensures : Ensures before action after fault)
    (strengthen : ∀ state, earlier state → before state)
    (results : ∀ value state, after value state → later value state)
    (troubles : ∀ trouble state, fault trouble state → further trouble state) :
    Ensures earlier action later further :=
  fun state given => (ensures state (strengthen state given)).mono results troubles

/-- What holds before may be strengthened. -/
theorem strengthen {action : Task τ α} {earlier : τ → Prop} {after : α → τ → Prop}
    (ensures : Ensures before action after fault)
    (strengthen : ∀ state, earlier state → before state) : Ensures earlier action after fault :=
  ensures.mono strengthen (fun _ _ holds => holds) fun _ _ holds => holds

/-- What holds of a result may be weakened. -/
theorem weaken {action : Task τ α} {after later : α → τ → Prop}
    (ensures : Ensures before action after fault)
    (results : ∀ value state, after value state → later value state) :
    Ensures before action later fault :=
  ensures.mono (fun _ given => given) results fun _ _ holds => holds

/-- A computation goes on from what its first step ensures. -/
theorem bind {action : Task τ α} {next : α → Task τ β} {middle : α → τ → Prop}
    {after : β → τ → Prop} (starts : Ensures before action middle fault)
    (goes : ∀ value, Ensures (middle value) (next value) after fault) :
    Ensures before (action >>= next) after fault := by
  intro state given
  have lands := starts state given
  rw [endOf_bind]
  revert lands
  generalize endOf action state = ending
  intro lands
  cases lands with
  | result holds => exact goes _ _ holds
  | trouble holds => exact .trouble holds

/-- The outcome of an operation is taken over. -/
theorem lift {outcome : Outcome α} {after : α → τ → Prop}
    (results : ∀ value, outcome = .ok value → ∀ state, before state → after value state)
    (troubles : ∀ trouble, outcome = .error trouble → ∀ state, before state → fault trouble state) :
    Ensures before (Run.lift outcome) after fault := by
  intro state given
  rw [endOf_lift]
  cases outcome with
  | ok value => exact .result (results value rfl state given)
  | error trouble => exact .trouble (troubles trouble rfl state given)

/-- The state is changed. -/
theorem changes {change : τ → τ} {after : Unit → τ → Prop}
    (holds : ∀ state, before state → after () (change state)) :
    Ensures before (modify change) after fault :=
  fun state given => .result (holds state given)

section

variable {after : Flow → τ → Prop} (again : ∀ state, after .next state ↔ before state)
include again

/-- A loop with a test ensures what its rounds keep. -/
theorem rounds {test : Task τ Value} {body : Task τ Flow}
    (tests : Ensures before test (fun _ => before) fault) (goes : Ensures before body after fault)
    (endless : ∀ state, before state → fault .endless state) (count : Nat) :
    Ensures before (Run.rounds test body count) after fault := by
  induction count with
  | zero => exact throw endless
  | succ count ih =>
    refine tests.bind fun value => ?_
    split
    · refine goes.bind fun flow => ?_
      cases flow with
      | next => exact ih.strengthen fun state => (again state).1
      | leave value => exact pure fun _ holds => holds
    · exact pure fun state => (again state).2

/-- A loop with a counter ensures what its rounds keep. -/
theorem countRounds {step : Value → Task τ Flow}
    (goes : ∀ counter : Int, Ensures before (step (.int counter)) after fault) (count : Nat) :
    ∀ counter, Ensures before (Run.countRounds step counter count) after fault := by
  induction count with
  | zero => exact fun _ => pure fun state => (again state).2
  | succ count ih =>
    intro counter
    refine (goes counter).bind fun flow => ?_
    cases flow with
    | next => exact (ih (counter + 1)).strengthen fun state => (again state).1
    | leave value => exact pure fun _ holds => holds

end

end Ensures

end Lag.Run
