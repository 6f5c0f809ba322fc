import Lag.Proofs.Scoping.Preserved
import Lag.Proofs.Soundness.Answered

/-!
# First values

The variables of a module get their first values in order. While one of them is computed, those
after it have none yet, so what is read then is read early; which variables may be read early is a
condition on what the first values need. Once all variables have values none is read early.
-/
namespace Lag

open Run (Ensures Limits Trouble endOf)
open Typing (Declarations Within variableSymbol)

variable {σ : Type} {program : Program Mark}

/-- What the computation of a first value may count on: some variables have no value yet, and the
functions that are reached may be called. -/
def Contract.first (program : Program Mark) (early : String → Prop) (world : σ → Prop)
    (rest : List (Binding Mark)) (exprs : List (Expr Mark)) : Contract σ where
  unset := (· ∈ rest.map (·.name))
  early := early
  calls := Reaches program exprs
  world := world

/-- What a call may count on once all variables have values. -/
def Contract.settled (world : σ → Prop) : Contract σ where
  unset _ := False
  early _ := False
  calls _ := True
  world := world

/-- What holds however far the variables of the module have got their values. -/
def Contract.anytime (early : String → Prop) (world : σ → Prop) : Contract σ where
  unset _ := True
  early := early
  calls _ := True
  world := world

/-- A recorder that keeps what holds of the world, as long as it sees values of the types of their
variables. -/
def Scoped.Recorder.Keeps (record : Scoped.Recorder σ) (program : Program Mark)
    (world : σ → Prop) : Prop :=
  ∀ line values before, HaveTypes program values → world before → world (record line values before)

/-- First values that need no variable without a value, unless it may be read early. -/
def Ordered (program : Program Mark) (early : String → Prop) (bindings : List (Binding Mark)) :
    Prop :=
  ∀ before binding after, bindings = before ++ binding :: after →
    ∀ name, Needs program binding.value.parts name →
      name ∈ (binding :: after).map (·.name) → early name

/-- The first values after the first one are ordered too. -/
theorem Ordered.tail {early : String → Prop} {binding : Binding Mark} {rest : List (Binding Mark)}
    (ordered : Ordered program early (binding :: rest)) : Ordered program early rest :=
  fun before other after split => ordered (binding :: before) other after (by rw [split]; rfl)

namespace Scoped

/-- What is reached from a first value keeps to its contract. -/
theorem kept_first {early : String → Prop} {world : σ → Prop} {record : Recorder σ}
    (keeps : record.Keeps program world) {rest : List (Binding Mark)} {exprs : List (Expr Mark)}
    (needs : ∀ name, Needs program exprs name → name ∈ rest.map (·.name) → early name) :
    (Contract.first program early world rest exprs).Kept program record where
  bodies function inside reached :=
    ⟨fun name reads => needs name (.inr ⟨function, inside, reached, reads⟩),
      fun _ calls => .through inside reached calls⟩
  record := keeps

/-- A first value keeps to its contract. -/
theorem covers_first {early : String → Prop} {world : σ → Prop} {rest : List (Binding Mark)}
    {exprs : List (Expr Mark)}
    (needs : ∀ name, Needs program exprs name → name ∈ rest.map (·.name) → early name) :
    (Contract.first program early world rest exprs).Covers exprs :=
  ⟨fun name reads => needs name (.inl reads), fun _ calls => .called calls⟩

/-- All functions may be called once all variables have values. -/
theorem kept_settled {world : σ → Prop} {record : Recorder σ} (keeps : record.Keeps program world) :
    (Contract.settled world).Kept program record where
  bodies _ _ _ := ⟨fun _ _ missing => missing.elim, fun _ _ => trivial⟩
  record := keeps

/-- A fault in the computation of a first value is one at any time. -/
theorem Fault.anytime {early : String → Prop} {world : σ → Prop} {rest : List (Binding Mark)}
    {exprs : List (Expr Mark)} {trouble : Trouble} {state : State σ}
    (fault : Fault program (Contract.first program early world rest exprs) trouble state) :
    Fault program (Contract.anytime early world) trouble state :=
  ⟨fault.allowed, fault.steady.mono (fun _ _ => trivial) fun _ holds => holds⟩

/-- A variable that gets its first value is not without one afterwards. -/
theorem Steady.gives (laid : Laid program) {early : String → Prop} {world : σ → Prop}
    {binding : Binding Mark} {rest : List (Binding Mark)} {exprs others : List (Expr Mark)}
    {state : State σ}
    (steady : Steady program (Contract.first program early world (binding :: rest) exprs) state)
    {symbol : Symbol} (inside : symbol ∈ program.variables) (named : symbol.name = binding.name)
    {value : Value} (is : value.type = symbol.type) :
    Steady program (Contract.first program early world rest others)
      { state with globals := Table.put symbol.name value state.globals } := by
  have put := steady.put laid inside is
  refine ⟨put.typed, fun other member missing => ?_, put.world⟩
  have before := put.given other member missing
  rcases List.mem_cons.1 before with same | later
  · have own : other.name = symbol.name := Eq.trans same named.symm
    rw [own] at missing
    simp at missing
  · exact later

/-- The variables of a module get first values of their types, in order. -/
theorem gives_firsts (laid : Laid program) {record : Recorder σ} (limits : Limits)
    {early : String → Prop} {world : σ → Prop} (keeps : record.Keeps program world)
    {table : SymbolTable} {declarations : List (Declaration Mark)}
    (typed : Declarations table declarations)
    (part : ∀ binding ∈ bindingsOf declarations, binding ∈ program.bindings)
    (within : Within program table) (ordered : Ordered program early (bindingsOf declarations)) :
    Ensures (Settled program (Contract.first program early world (bindingsOf declarations) []) [])
      (giveFirst (topFrame program record limits) (bindingsOf declarations))
      (fun _ => Settled program (Contract.settled world) [])
      (Fault program (Contract.anytime early world)) := by
  induction typed with
  | nil =>
    refine Ensures.pure fun state given => ⟨given.steady.mono (fun name impossible => ?_)
      fun _ holds => holds, given.scopes⟩
    cases impossible
  | function _ _ ih => exact ih part within ordered
  | @binding table next declared rest first _ ih =>
    have later := ih (fun binding inside => part binding (List.mem_cons_of_mem _ inside))
      (within.declares (part _ List.mem_cons_self) first) ordered.tail
    have needs := ordered [] declared (bindingsOf rest) rfl
    have kept := kept_first keeps needs
    have ready := ready_at laid kept limits.rounds limits.calls
    obtain @⟨type, _, isValue, _, fits, bound, _⟩ := first
    have inside : variableSymbol true declared type ∈ program.variables :=
      List.mem_flatMap.2 ⟨declared, part _ List.mem_cons_self, by rw [bound]; simp⟩
    have evaluates : Ensures
        (Settled program (Contract.first program early world (declared :: bindingsOf rest) []) [])
        (evaluate (topFrame program record limits) declared.value)
        (fun value state => value.type = type ∧ Settled program (Contract.first program early world
          (declared :: bindingsOf rest) declared.value.parts) [] state)
        (Fault program (Contract.anytime early world)) := by
      refine Ensures.mono (gives_fits laid ready within (Nested.start table) fits
        (covers_first needs)) (fun state given => ?_) (fun value state given => ?_)
        fun _ _ fault => fault.anytime
      · refine ⟨given.steady.mono (fun _ unset => unset) fun _ holds => holds, ?_⟩
        rw [given.scopes]
        exact .nil
      · exact ⟨given.1.exactly (Ty.ne_any isValue), given.2.steady,
          List.forall₂_nil_left_iff.1 given.2.filled⟩
    rw [bindingsOf, giveFirst]
    refine evaluates.bind fun value => Ensures.bind (Ensures.changes fun state given => ?_)
      fun _ => later
    obtain ⟨globals, stores, world⟩ := state
    obtain ⟨is, steady, scopes⟩ := given
    cases scopes
    exact ⟨steady.gives laid inside rfl is, rfl⟩

/-- The variables of a program get first values of their types. -/
theorem gives_initialise (laid : Laid program) {record : Recorder σ} (limits : Limits)
    {early : String → Prop} {world : σ → Prop} (keeps : record.Keeps program world)
    (ordered : Ordered program early program.bindings) :
    Ensures (Settled program (Contract.first program early world program.bindings []) [])
      (initialise program record limits) (fun _ => Settled program (Contract.settled world) [])
      (Fault program (Contract.anytime early world)) := by
  obtain ⟨table, within, typed⟩ := laid.typed.within
  have gives := gives_firsts laid limits keeps typed
    (fun binding inside => by rwa [bindingsOf_declarations] at inside) within
    (by rwa [bindingsOf_declarations])
  rw [bindingsOf_declarations] at gives
  exact gives

/-- A call from outside with values that fit answers with a result of its type. -/
theorem gives_invoke (laid : Laid program) {record : Recorder σ} (limits : Limits)
    {world : σ → Prop} (keeps : record.Keeps program world) {function : Function Mark}
    (inside : function ∈ program.functions) {values : List Value}
    (suit : SuitAll function.signature.params values) :
    Ensures (Settled program (Contract.settled world) [])
      (invoke program record limits function.name values)
      (fun value state => value.type = function.signature.result ∧
        Settled program (Contract.settled world) [] state)
      (Fault program (Contract.settled world)) := by
  have ready := ready_at laid (kept_settled keeps) limits.rounds limits.calls
  rw [invoke, Setting.find_some laid inside]
  exact ready.call function inside trivial values suit []

/-- Before a session no variable has a value. -/
theorem settled_start (laid : Laid program) (early : String → Prop) {world : σ → Prop} {before : σ}
    (holds : world before) :
    Settled program (Contract.first program early world program.bindings []) []
      (⟨[], [], before⟩ : State σ) := by
  refine ⟨⟨fun _ _ _ found => (nomatch found), fun symbol inside _ => ?_, holds⟩, rfl⟩
  obtain ⟨binding, member, _, rfl⟩ := laid.variable_is inside
  exact List.mem_map_of_mem member

end Scoped

end Lag
