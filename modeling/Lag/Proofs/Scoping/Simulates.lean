import Lag.Run.Machine

/-!
# Computations side by side

Two computations run side by side from related states: both give results, or both meet trouble,
and what they give and the states after them are related again. Steps that only one of the two
makes, and that change nothing, can be passed over.
-/
namespace Lag.Run

variable {τ υ α β γ δ : Type}

/-- The outcome of a computation and the state after it. -/
abbrev Ending (τ α : Type) := Except Trouble α × τ

/-- How a computation ends from a state. -/
def endOf (action : Task τ α) (state : τ) : Ending τ α := (ExceptT.run action).run state

/-- A result ends a computation at once. -/
@[simp] theorem endOf_pure (result : α) (state : τ) :
    endOf (pure result) state = (.ok result, state) := rfl

/-- A trouble ends a computation at once. -/
@[simp] theorem endOf_throw (trouble : Trouble) (state : τ) :
    endOf (throw trouble : Task τ α) state = (.error trouble, state) := rfl

/-- An operation that does not look at the state. -/
@[simp] theorem endOf_lift (outcome : Outcome α) (state : τ) :
    endOf (lift outcome) state = (outcome, state) := rfl

/-- A change of the state. -/
@[simp] theorem endOf_modify (change : τ → τ) (state : τ) :
    endOf (modify change : Task τ Unit) state = (.ok (), change state) := rfl

/-- A look at the state. -/
@[simp] theorem endOf_get (state : τ) : endOf (get : Task τ τ) state = (.ok state, state) := rfl

/-- A computation goes on from where its first step ends, unless that is in trouble. -/
theorem endOf_bind (action : Task τ α) (next : α → Task τ β) (state : τ) :
    endOf (action >>= next) state = match endOf action state with
      | (.ok result, after) => endOf (next result) after
      | (.error trouble, after) => (.error trouble, after) := by
  unfold endOf
  rw [ExceptT.run_bind, StateT.run_bind]
  cases (ExceptT.run action).run state with
  | mk outcome after => cases outcome <;> rfl

/-- Two endings with related results or with related troubles. -/
inductive Both (after : α → β → τ → υ → Prop) (stuck : Trouble → Trouble → τ → υ → Prop) :
    Ending τ α → Ending υ β → Prop where
  /-- Both computations give results. -/
  | results {first : α} {second : β} {state : τ} {other : υ}
      (related : after first second state other) :
      Both after stuck (.ok first, state) (.ok second, other)
  /-- Both computations meet trouble. -/
  | troubles {first second : Trouble} {state : τ} {other : υ}
      (related : stuck first second state other) :
      Both after stuck (.error first, state) (.error second, other)

/-- Two computations that run side by side from related states. -/
def Simulates (before : τ → υ → Prop) (first : Task τ α) (second : Task υ β)
    (after : α → β → τ → υ → Prop) (stuck : Trouble → Trouble → τ → υ → Prop) : Prop :=
  ∀ state other, before state other → Both after stuck (endOf first state) (endOf second other)

namespace Simulates

variable {before between : τ → υ → Prop} {stuck : Trouble → Trouble → τ → υ → Prop}

/-- Results that are related in related states. -/
theorem pure {after : α → β → τ → υ → Prop} {first : α} {second : β}
    (related : ∀ state other, before state other → after first second state other) :
    Simulates before (Pure.pure first) (Pure.pure second) after stuck :=
  fun state other given => .results (related state other given)

/-- What holds before may be strengthened and what holds after may be weakened. -/
theorem mono {first : Task τ α} {second : Task υ β} {earlier : τ → υ → Prop}
    {after later : α → β → τ → υ → Prop} (simulates : Simulates before first second after stuck)
    (strengthen : ∀ state other, earlier state other → before state other)
    (weaken : ∀ x y state other, after x y state other → later x y state other) :
    Simulates earlier first second later stuck := by
  intro state other given
  have ends := simulates state other (strengthen state other given)
  revert ends
  generalize endOf first state = firstEnd
  generalize endOf second other = secondEnd
  rintro (related | related)
  · exact .results (weaken _ _ _ _ related)
  · exact .troubles related

/-- Computations go on side by side. -/
theorem bind {first : Task τ α} {second : Task υ β} {next : α → Task τ γ} {further : β → Task υ δ}
    {middle : α → β → τ → υ → Prop} {after : γ → δ → τ → υ → Prop}
    (starts : Simulates before first second middle stuck)
    (goes : ∀ x y, Simulates (middle x y) (next x) (further y) after stuck) :
    Simulates before (first >>= next) (second >>= further) after stuck := by
  intro state other given
  have ends := starts state other given
  rw [endOf_bind, endOf_bind]
  revert ends
  generalize endOf first state = firstEnd
  generalize endOf second other = secondEnd
  rintro (related | related)
  · exact goes _ _ _ _ related
  · exact .troubles related

/-- A step of the second computation that changes nothing is passed over. -/
theorem passSecond {first : Task τ α} {step : Task υ β} {result : β} {further : β → Task υ δ}
    {after : α → δ → τ → υ → Prop}
    (passes : ∀ state other, before state other → endOf step other = (.ok result, other))
    (goes : Simulates before first (further result) after stuck) :
    Simulates before first (step >>= further) after stuck := by
  intro state other given
  rw [endOf_bind, passes state other given]
  exact goes state other given

/-- The same operation on both sides gives the same. -/
theorem lift {outcome : Outcome α} {after : α → α → τ → υ → Prop}
    (results : ∀ x state other, before state other → after x x state other)
    (troubles : ∀ trouble state other, before state other → stuck trouble trouble state other) :
    Simulates before (Run.lift outcome) (Run.lift outcome) after stuck := by
  intro state other given
  rw [endOf_lift, endOf_lift]
  cases outcome with
  | ok x => exact .results (results x state other given)
  | error trouble => exact .troubles (troubles trouble state other given)

/-- Both states are changed. -/
theorem changes {change : τ → τ} {changes : υ → υ} {after : Unit → Unit → τ → υ → Prop}
    (related : ∀ state other, before state other → after () () (change state) (changes other)) :
    Simulates before (modify change) (modify changes) after stuck :=
  fun state other given => .results (related state other given)

end Simulates

end Lag.Run
