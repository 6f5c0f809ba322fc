import Lag.Proofs.Scoping.Executed
import Lag.Proofs.Soundness.Valued

/-!
# Statements leave with results

A well typed statement that runs where all variables hold values of their types goes on with
variables that do so again, or it leaves the function with a result of its type. Where every path
through it ends in a return it does not go on.
-/
namespace Lag

open Run (Ensures Flow Store endOf endOf_bind endOf_get endOf_pure endOf_throw endOf_lift
  endOf_modify)
open Typing (Body Declares Fits Follows HasType Within counterSymbol proper_counterSymbol
  variableSymbol)

variable {σ : Type} {α : Type} {program : Program Mark} {contract : Contract σ}
  {base table : SymbolTable} {inner : List Scope}

/-- The scopes after a well typed statement are inside those of the module. -/
theorem Typing.Follows.nested {result : Ty} {stmt : Stmt Mark} {following : SymbolTable}
    (follows : Follows result table stmt following)
    (nested : Nested base table (table.scope :: inner)) :
    Nested base following (following.scope :: inner) := by
  cases follows with
  | declare declared =>
    obtain ⟨_, _, _, _, fresh⟩ := declared
    have after := nested.define ⟨rfl, rfl, rfl⟩ fresh
    obtain ⟨_, rfl⟩ := SymbolTable.define?_eq_some_iff.1 fresh
    exact after
  | _ => exact nested

/-- The scopes in a loop with a counter are inside those of the module. -/
theorem Nested.counted (nested : Nested base table (table.scope :: inner)) {mark : Mark}
    {counter : String} {around : SymbolTable}
    (fresh : (table.push "for").define? (counterSymbol mark counter) = some around) :
    Nested base around (around.scope :: table.scope :: inner) := by
  have defined := (nested.push "for").define ⟨rfl, rfl, rfl⟩ fresh
  obtain ⟨_, rfl⟩ := SymbolTable.define?_eq_some_iff.1 fresh
  exact defined

namespace Scoped

/-- What a statement or a body comes to: it goes on, unless it always leaves, or it leaves with a
result. -/
def Passes (program : Program Mark) (contract : Contract σ) (result : Ty) (leaves : Bool)
    (after : State σ → Prop) : Flow → State σ → Prop
  | .next, state => leaves = false ∧ after state
  | .leave value, state => value.type = result ∧ Steady program contract state

/-- What holds after a statement that goes on may be weakened. -/
theorem Passes.mono {result : Ty} {leaves other : Bool} {after later : State σ → Prop} {flow : Flow}
    {state : State σ} (passes : Passes program contract result leaves after flow state)
    (fewer : leaves = false → other = false) (weaken : ∀ state, after state → later state) :
    Passes program contract result other later flow state := by
  cases flow with
  | next => exact ⟨fewer passes.1, weaken state passes.2⟩
  | leave value => exact passes

/-- What runs where variables hold values of their types. -/
abbrev Runs (program : Program Mark) (contract : Contract σ) (result : Ty) (leaves : Bool)
    (before : List Scope) (action : Eval σ Flow) (after : State σ → Prop) : Prop :=
  Ensures (Holds program contract before) action (Passes program contract result leaves after)
    (Fault program contract)

/-- The scope of a loop with a counter holds a number. -/
theorem fills_counter {around : SymbolTable} {mark : Mark} {counter : String}
    (fresh : (table.push "for").define? (counterSymbol mark counter) = some around)
    (number : Int) : Fills around.scope [(counter, .int number)] := by
  obtain ⟨_, rfl⟩ := SymbolTable.define?_eq_some_iff.1 fresh
  exact (fills_nil "for").declare (counterSymbol mark counter)
    (rfl : (Value.int number).type = .int)

namespace Runs

variable {result : Ty} {leaves : Bool} {scopes : List Scope} {action : Eval σ Flow}

/-- What goes on where it is. -/
theorem next : Runs program contract result false scopes (pure .next)
    (Holds program contract scopes) :=
  Ensures.pure fun _ given => ⟨rfl, given⟩

/-- What comes after a statement runs where that goes on. -/
theorem andThen {others : Bool} {between after : State σ → Prop} {second : Eval σ Flow}
    (runs : Runs program contract result leaves scopes action between)
    (goes : Ensures between second (Passes program contract result others after)
      (Fault program contract)) :
    Runs program contract result (leaves || others) scopes (Run.andThen action second) after := by
  refine Ensures.bind runs fun flow => ?_
  cases flow with
  | next =>
    intro state given
    refine (goes state given.2).mono (fun flow later passes => ?_) fun _ _ fault => fault
    exact passes.mono (fun stays => by rw [given.1, stays]; rfl) fun _ holds => holds
  | leave value => exact Ensures.pure fun _ given => given

/-- What runs in a scope of its own leaves the scopes around it. -/
theorem inScope {scope : Scope} {cells : Store} (fills : Fills scope cells)
    (runs : Runs program contract result leaves (scope :: scopes) action
      fun state => ∃ scope, Holds program contract (scope :: scopes) state) :
    Runs program contract result leaves scopes (Scoped.inScope cells action)
      (Holds program contract scopes) := by
  have opens : Ensures (Holds program contract scopes)
      (modify fun state => { state with scopes := cells :: state.scopes } : Eval σ Unit)
      (fun _ => Holds program contract (scope :: scopes)) (Fault program contract) :=
    Ensures.changes fun state given =>
      ⟨given.steady.scopes _, .cons fills given.filled⟩
  refine opens.bind fun _ => runs.bind fun flow => ?_
  have closes : Ensures (Passes program contract result leaves
        (fun state => ∃ scope, Holds program contract (scope :: scopes) state) flow)
      (modify fun state => { state with scopes := state.scopes.tail } : Eval σ Unit)
      (fun _ => Passes program contract result leaves (Holds program contract scopes) flow)
      (Fault program contract) := by
    refine Ensures.changes fun state given => ?_
    cases flow with
    | next =>
      obtain ⟨stays, scope, holds⟩ := given
      obtain ⟨globals, stores, world⟩ := state
      cases holds.filled with
      | cons _ others => exact ⟨stays, holds.steady.scopes _, others⟩
    | leave value => exact ⟨given.1, given.2.scopes _⟩
  exact closes.bind fun _ => Ensures.pure fun _ given => given

/-- What goes on where it is goes on in some scope. -/
theorem someScope {scope : Scope}
    (runs : Runs program contract result leaves (scope :: scopes) action
      (Holds program contract (scope :: scopes))) :
    Runs program contract result leaves (scope :: scopes) action
      fun state => ∃ scope, Holds program contract (scope :: scopes) state :=
  runs.weaken fun _ _ passes => passes.mono (fun stays => stays) fun _ holds => ⟨scope, holds⟩

/-- One of two branches runs. -/
theorem branch {test : Eval σ Value} {others : Bool} {first second : Eval σ Flow}
    {after : State σ → Prop}
    (tests : Gives program contract scopes test fun value => value.type = .bool)
    (holds : Runs program contract result leaves scopes first after)
    (fails : Runs program contract result others scopes second after) :
    Runs program contract result (leaves && others) scopes
      (test >>= fun value => if Run.truth value then first else second) after := by
  refine tests.bind fun value _ => ?_
  split
  · exact holds.weaken fun _ _ passes =>
      passes.mono (fun stays => by rw [stays]; rfl) fun _ given => given
  · exact fails.weaken fun _ _ passes =>
      passes.mono (fun stays => by rw [stays, Bool.and_false]) fun _ given => given

/-- What leaves may also go on as far as the statements after it can tell. -/
theorem mayGoOn {after : State σ → Prop}
    (runs : Runs program contract result leaves scopes action after) :
    Runs program contract result false scopes action after :=
  runs.weaken fun _ _ passes => passes.mono (fun _ => rfl) fun _ given => given

/-- Another round can be made where a round goes on. -/
theorem again (state : State σ) :
    Passes program contract result false (Holds program contract scopes) .next state ↔
      Holds program contract scopes state :=
  ⟨fun passes => passes.2, fun holds => ⟨rfl, holds⟩⟩

/-- A loop with a test makes its rounds. -/
theorem rounds {test : Eval σ Value} {after : Value → Prop}
    (tests : Gives program contract scopes test after)
    (runs : Runs program contract result leaves scopes action (Holds program contract scopes))
    (count : Nat) :
    Runs program contract result false scopes (Run.rounds test action count)
      (Holds program contract scopes) :=
  Ensures.rounds again (tests.weaken fun _ _ given => given.2) runs.mayGoOn
    (fun _ given => .unforeseen (by decide) given.steady) count

/-- A round of a loop with a counter has a scope for the counter around that of its body. -/
theorem counted {table around : SymbolTable} {mark : Mark} {counter : String} {inner : List Scope}
    (fresh : (table.push "for").define? (counterSymbol mark counter) = some around)
    (runs : Runs program contract result leaves
      ((around.push "block").scope :: around.scope :: inner) action
      fun state => ∃ scope, Holds program contract (scope :: around.scope :: inner) state)
    (number : Int) :
    Runs program contract result leaves inner
      (Scoped.inScope [(counter, .int number)] (Scoped.inScope [] action))
      (Holds program contract inner) :=
  inScope (fills_counter fresh number) (runs.inScope (fills_nil "block")).someScope

/-- A loop with a counter makes its rounds. -/
theorem countRounds {step : Value → Eval σ Flow}
    (runs : ∀ counter : Int, Runs program contract result leaves scopes (step (.int counter))
      (Holds program contract scopes)) (count : Nat) (counter : Int) :
    Runs program contract result false scopes (Run.countRounds step counter count)
      (Holds program contract scopes) :=
  Ensures.countRounds again (fun counter => (runs counter).mayGoOn) count counter

end Runs

section

variable {frame : Frame σ}

/-- A variable that is declared holds a value of its type. -/
theorem gives_declare {scope : Scope} {symbol : Symbol} {value : Value}
    (is : value.type = symbol.type) :
    Ensures (Holds program contract (scope :: inner))
      (Scoped.declare symbol.name value : Eval σ Unit)
      (fun _ => Holds program contract (⟨scope.name, symbol :: scope.symbols⟩ :: inner))
      (Fault program contract) := by
  refine Ensures.changes fun state given => ?_
  obtain ⟨globals, stores, world⟩ := state
  obtain ⟨steady, filled⟩ := given
  cases filled with
  | cons fills others => exact ⟨steady.scopes _, .cons (fills.declare symbol is) others⟩

/-- A variable that is changed holds a value of its type. -/
theorem gives_assign (laid : Laid program) (within : Within program base)
    (nested : Nested base table inner) {name : String} {symbol : Symbol}
    (found : table.lookup? name = some symbol) (readable : symbol.kind.isFunction = false)
    {value : Value} (is : value.type = symbol.type) :
    Ensures (Holds program contract inner) (Scoped.assign name value : Eval σ Unit)
      (fun _ => Holds program contract inner) (Fault program contract) := by
  refine Ensures.changes fun state given => ?_
  rcases nested.reads within found readable with here | ⟨hidden, outside, named⟩
  · obtain ⟨changed, put, filled⟩ := given.filled.assign here is
    rw [put]
    exact ⟨given.steady.scopes _, filled⟩
  · rw [given.filled.assign_unknown hidden value, ← named]
    exact ⟨given.steady.put laid outside is, given.filled⟩

mutual

/-- A well typed statement goes on, or leaves with a result. -/
theorem runs_stmt (laid : Laid program) (ready : Ready program contract frame)
    (within : Within program base) {result : Ty} (plain : result ≠ .any) :
    ∀ {stmt : Stmt Mark} {table following : SymbolTable} {inner : List Scope},
      Follows result table stmt following → table.Proper →
      Nested base table (table.scope :: inner) → contract.Covers stmt.exprs →
      Runs program contract result stmt.leaves (table.scope :: inner) (execute frame stmt)
        (Holds program contract (following.scope :: inner))
  | .declare binding, _, _, _,
      .declare (@Typing.Declares.intro _ _ _ type _ isValue _ fits _ fresh), proper, nested,
      covers => by
    obtain ⟨_, rfl⟩ := SymbolTable.define?_eq_some_iff.1 fresh
    refine (gives_fits laid ready within nested fits covers).bind fun value suits => ?_
    have is : value.type = (variableSymbol false binding type).type :=
      suits.exactly (Ty.ne_any isValue)
    exact (gives_declare is).bind fun _ => Ensures.pure fun _ given => ⟨rfl, given⟩
  | .assign mark target value, _, _, _,
      @Typing.Follows.assign _ _ _ _ _ symbol found readable _ bound _ fits, proper, nested,
      covers => by
    refine (gives_fits laid ready within nested fits covers).bind fun value suits => ?_
    have is : value.type = symbol.type :=
      suits.exactly (Ty.ne_any ((proper.lookup? found).readable readable).1)
    exact (gives_assign laid within nested found readable is).bind fun _ => Runs.next
  | .leave _ none, _, _, _, .leaveNothing void, _, _, _ =>
    Ensures.pure fun _ given => ⟨void.symm, given.steady⟩
  | .leave _ (some value), _, _, _, .leave _ fits, proper, nested, covers =>
    (gives_fits laid ready within nested fits covers).bind fun _ suits =>
      Ensures.pure fun _ given => ⟨suits.exactly plain, given.steady⟩
  | .evaluate _ value, _, _, _, .evaluate typed widened, proper, nested, covers =>
    (gives_plain laid ready within nested typed widened covers).bind fun _ _ => Runs.next
  | .block _ body, _, _, _, .block inside, proper, nested, covers =>
    (runs_body laid ready within plain inside (proper.push "block") (nested.push "block")
      covers).inScope (fills_nil _)
  | .ifThen _ test _ body, _, _, _, .ifThen truth widened inside, proper, nested, covers => by
    have first := covers.mono fun part member => List.mem_append_left _ member
    have second := covers.mono fun part member => List.mem_append_right _ member
    have tests := gives_plain laid ready within nested truth widened first
    have runs := runs_body laid ready within plain inside (proper.push "block")
      (nested.push "block") second
    have branches := Runs.branch tests (runs.inScope (fills_nil _)) Runs.next
    rwa [Bool.and_false] at branches
  | .ifElse _ test _ body otherwise, _, _, _, .ifElse truth widened inside _ other, proper, nested,
      covers => by
    have before := covers.mono fun part member => List.mem_append_left _ member
    have first := before.mono fun part member => List.mem_append_left _ member
    have second := before.mono fun part member => List.mem_append_right _ member
    have third := covers.mono fun part member => List.mem_append_right _ member
    have tests := gives_plain laid ready within nested truth widened first
    have runs := runs_body laid ready within plain inside (proper.push "block")
      (nested.push "block") second
    have fails := runs_stmt laid ready within plain other proper nested third
    exact Runs.branch tests (runs.inScope (fills_nil _)) fails
  | .whileLoop _ test _ body, _, _, _, .whileLoop truth widened inside, proper, nested, covers => by
    have first := covers.mono fun part member => List.mem_append_left _ member
    have second := covers.mono fun part member => List.mem_append_right _ member
    have tests := gives_plain laid ready within nested truth widened first
    have runs := runs_body laid ready within plain inside (proper.push "block")
      (nested.push "block") second
    exact Runs.rounds tests (runs.inScope (fills_nil _)) frame.rounds
  | .forLoop mark counter first bound _ body, _, _, _,
      .forLoop firstTyped firstPlain boundTyped boundPlain _ fresh inside, proper, nested,
      covers => by
    have before := covers.mono fun part member => List.mem_append_left _ member
    have firstCovers := before.mono fun part member => List.mem_append_left _ member
    have boundCovers := before.mono fun part member => List.mem_append_right _ member
    have bodyCovers := covers.mono fun part member => List.mem_append_right _ member
    have opened := (proper.push "for").define fresh (proper_counterSymbol mark counter)
    have runs := runs_body laid ready within plain inside (opened.push "block")
      ((nested.counted fresh).push "block") bodyCovers
    refine (gives_plain laid ready within nested firstTyped firstPlain firstCovers).bind ?_
    intro firstValue firstIs
    obtain ⟨firstNumber, rfl⟩ := Run.eq_int firstIs
    refine (gives_plain laid ready within nested boundTyped boundPlain boundCovers).bind ?_
    intro boundValue boundIs
    obtain ⟨boundNumber, rfl⟩ := Run.eq_int boundIs
    exact Runs.countRounds (Runs.counted fresh runs) (boundNumber - firstNumber).toNat firstNumber

/-- A well typed body goes on to its end, or leaves with a result. -/
theorem runs_body (laid : Laid program) (ready : Ready program contract frame)
    (within : Within program base) {result : Ty} (plain : result ≠ .any) :
    ∀ {body : List (Stmt Mark)} {table : SymbolTable} {inner : List Scope},
      Body result table body → table.Proper → Nested base table (table.scope :: inner) →
      contract.Covers (Stmt.allExprs body) →
      Runs program contract result (Stmt.someLeaves body) (table.scope :: inner)
        (executeAll frame body)
        fun state => ∃ scope, Holds program contract (scope :: inner) state
  | [], _, _, _, _, _, _ => Ensures.pure fun _ given => ⟨rfl, _, given⟩
  | _ :: _, _, _, .cons first others, proper, nested, covers => by
    have here := covers.mono fun part member => List.mem_append_left _ member
    have later := covers.mono fun part member => List.mem_append_right _ member
    have runs := runs_stmt laid ready within plain first proper nested here
    exact runs.andThen (runs_body laid ready within plain others (first.proper proper)
      (first.nested nested) later)

end

end

end Scoped

end Lag
