import Lag.Check

/-!
# Checks without failures

A check that ends with an empty journal has found no failure at any step, since a journal only
grows. So what such a check gives can be described step by step: `Yields` says what holds of the
result of a check if the journal is empty after it, and that the journal does not shrink.
-/
namespace Lag.Check

variable {α β : Type}

/-- The rest of a check goes on with what a step gives and with the journal after it. -/
theorem run_bind (action : Checker α) (next : α → Checker β) (journal : Journal) :
    (action >>= next).run journal =
      match action.run journal with
      | (some middle, after) => (next middle).run after
      | (none, after) => (none, after) := by
  simp only [OptionT.run_bind, Option.elimM]
  show ((action.run journal).1.elim (Pure.pure none) fun middle => (next middle).run)
    (action.run journal).2 = _
  obtain ⟨middle, after⟩ := action.run journal
  cases middle <;> rfl

/-- A check whose journal keeps its limit and does not shrink, and whose result has a property
if the journal is empty in the end. -/
def Yields (limit : Nat) (action : Checker α) (property : α → Prop) : Prop :=
  ∀ journal : Journal, journal.limit = limit →
    (action.run journal).2.limit = limit ∧
      journal.failures.size ≤ (action.run journal).2.failures.size ∧
      ((action.run journal).2.failures.size = 0 →
        ∀ result, (action.run journal).1 = some result → property result)

namespace Yields

variable {limit : Nat}

/-- A result has a property that it has anyway. -/
theorem pure {property : α → Prop} {result : α} (holds : property result) :
    Yields limit (Pure.pure result) property := by
  intro journal limited
  refine ⟨limited, Nat.le_refl _, fun _ other given => ?_⟩
  have same : some result = some other := given
  cases same
  exact holds

/-- A property of a result may be weakened. -/
theorem mono {action : Checker α} {property weaker : α → Prop}
    (yields : Yields limit action property) (weaken : ∀ result, property result → weaker result) :
    Yields limit action weaker := by
  intro journal limited
  obtain ⟨same, grows, holds⟩ := yields journal limited
  exact ⟨same, grows, fun clean result given => weaken result (holds clean result given)⟩

/-- After a step without failures the rest of a check may use what the step gave. -/
theorem bind {action : Checker α} {next : α → Checker β} {between : α → Prop}
    {property : β → Prop} (first : Yields limit action between)
    (rest : ∀ middle, Yields limit (next middle) fun result => between middle → property result) :
    Yields limit (action >>= next) property := by
  intro journal limited
  obtain ⟨same, grows, holds⟩ := first journal limited
  rw [run_bind]
  generalize ran : action.run journal = reached at same grows holds
  obtain ⟨middle, after⟩ := reached
  cases middle with
  | none => exact ⟨same, grows, fun _ _ given => by cases given⟩
  | some middle =>
    obtain ⟨sameAgain, growsAgain, holdsAgain⟩ := rest middle after same
    have kept : after.failures.size ≤ ((next middle).run after).2.failures.size := growsAgain
    refine ⟨sameAgain, Nat.le_trans grows kept, fun clean result given => ?_⟩
    have before : after.failures.size = 0 := by
      have empty : ((next middle).run after).2.failures.size = 0 := clean
      omega
    exact holdsAgain clean result given (holds before middle rfl)

/-- A step whose result is not used may be passed over. -/
theorem andThen {action : Checker α} {next : Checker β} {between : α → Prop}
    {property : β → Prop} (first : Yields limit action between)
    (rest : Yields limit next property) : Yields limit (action >>= fun _ => next) property :=
  bind first fun _ => rest.mono fun _ holds _ => holds

/-- Where the steps run out there is no result. -/
theorem failure {property : α → Prop} : Yields limit (failure : Checker α) property := by
  intro journal limited
  refine ⟨limited, Nat.le_refl _, fun _ result given => ?_⟩
  have impossible : (none : Option α) = some result := given
  cases impossible

/-- After a report the journal is not empty. -/
theorem report {property : Unit → Prop} (cause : Cause) (span : Source.Span) (kind : Kind)
    (place : Source.Span) : Yields limit (report cause span kind place) property := by
  intro journal limited
  have ran : ((Check.report cause span kind place).run journal).2 =
      { journal with failures := journal.failures.push ⟨cause, span, kind, place⟩ } := rfl
  rw [ran]
  refine ⟨limited, ?_, fun clean => ?_⟩
  · show journal.failures.size ≤ (journal.failures.push _).size
    rw [Array.size_push]
    omega
  · have size : (journal.failures.push ⟨cause, span, kind, place⟩).size = 0 := clean
    rw [Array.size_push] at size
    omega

/-- A check that reports something has failures. -/
theorem reported {cause : Cause} {span place : Source.Span} {kind : Kind} {next : Unit → Checker β}
    {property : β → Prop} (rest : ∀ done, Yields limit (next done) fun _ => True) :
    Yields limit (Check.report cause span kind place >>= next) property :=
  bind (report cause span kind place : Yields limit _ fun _ => False) fun done =>
    (rest done).mono fun _ _ impossible => impossible.elim

/-- A check that reports something and goes on with another value has failures. -/
theorem replaced {condition : Prop} [Decidable condition] {cause : Cause}
    {span place : Source.Span} {kind : Kind} {instead given : α} {next : α → Checker β}
    {property : β → Prop}
    (rest : ∀ value, Yields limit (next value) fun result =>
      ¬condition → value = given → property result) :
    Yields limit (if condition then Check.report cause span kind place >>= fun _ =>
        Pure.pure instead >>= next else Pure.pure given >>= next) property := by
  split
  · simp only [pure_bind]
    exact reported fun _ => (rest instead).mono fun _ _ => trivial
  · rename_i holds
    simp only [pure_bind]
    exact (rest given).mono fun _ holdsThen => holdsThen holds rfl

/-- After a condition whose failure is reported the rest of a check may use the condition. -/
theorem requires {condition : Prop} [Decidable condition] {action : Checker Unit}
    {next : Unit → Checker β} {property : β → Prop}
    (refuses : Yields limit action fun _ => False)
    (rest : ∀ done, Yields limit (next done) fun result => condition → property result) :
    Yields limit (if condition then next () else action >>= next) property := by
  split
  · rename_i holds
    exact (rest ()).mono fun _ given => given holds
  · exact bind refuses fun done => (rest done).mono fun _ _ impossible => impossible.elim

/-- The journal of a check without failures is not full. -/
theorem full (positive : 0 < limit) : Yields limit full fun passes => passes = false := by
  intro journal limited
  refine ⟨limited, Nat.le_refl _, fun clean passes given => ?_⟩
  have same : some journal.full = some passes := given
  cases same
  have empty : journal.failures.size = 0 := clean
  simp only [Journal.full, limited, empty, decide_eq_false_iff_not]
  omega

/-- A check without failures passes nothing over. -/
theorem unlessFull (positive : 0 < limit) {passed rest : Checker α} {property : α → Prop}
    (skips : Yields limit passed fun _ => True) (goes : Yields limit rest property) :
    Yields limit (Check.full >>= fun passes => if passes then passed else rest) property :=
  bind (full positive) fun passes => by
    cases passes with
    | false => exact goes.mono fun _ holds _ => holds
    | true => exact skips.mono fun _ _ impossible => nomatch impossible

/-- Going down gives nothing away. -/
theorem descend (steps : Nat) (depth : Depth) :
    Yields limit (descend steps depth) fun _ => True := by
  cases depth with
  | none => exact pure trivial
  | some left =>
    show Yields limit (if steps ≤ left then Pure.pure (some (left - steps)) else _) _
    split
    · exact pure trivial
    · exact Yields.failure

/-- A search finds what a name stands for. -/
theorem find (table : SymbolTable) (depth : Depth) (name : String) :
    Yields limit (find table depth name) fun found => table.lookup? name = found :=
  andThen (descend _ _) (pure rfl)

end Yields

end Lag.Check
