import Lag.Proofs.Scoping.Evaluated

/-!
# Statements side by side

A well typed statement goes on or leaves with nested scopes as it does in the host. Where it goes
on, the scopes agree with the local variables of the host again; the host keeps the variables of
scopes that were closed, under names that no other symbol has.
-/
namespace Lag

open Host (declared declaredAll hostName)
open Run (Simulates Flow endOf endOf_bind endOf_get endOf_pure endOf_throw endOf_lift endOf_modify)
open Typing (Body Fits Follows HasType Within counterSymbol variableSymbol)

namespace Run

variable {σ τ υ α β γ δ : Type}

/-- What comes after a statement or a body: the rest, unless that left the function. -/
def andThen (first second : Task τ Flow) : Task τ Flow := do
  match ← first with
  | .next => second
  | .leave value => return .leave value

/-- After the last statement nothing is left to do. -/
theorem andThen_next (first : Task τ Flow) : andThen first (return .next) = first := by
  have same : (fun flow : Flow => (match flow with
      | .next => return .next
      | .leave value => return .leave value : Task τ Flow)) = Pure.pure := by
    funext flow
    cases flow <;> rfl
  unfold andThen
  rw [same, bind_pure]

/-- Statements run one after the other. -/
theorem andThen_assoc (first second third : Task τ Flow) :
    andThen (andThen first second) third = andThen first (andThen second third) := by
  unfold andThen
  rw [bind_assoc]
  refine congrArg (first >>= ·) (funext fun flow => ?_)
  cases flow with
  | next => rfl
  | leave value => exact pure_bind _ _

/-- A single statement runs by itself. -/
theorem executeAll_singleton (frame : Frame σ) (stmt : Host.Stmt) :
    executeAll frame [stmt] = execute frame stmt :=
  andThen_next _

/-- Statements run in order. -/
theorem executeAll_append (frame : Frame σ) (first second : List Host.Stmt) :
    executeAll frame (first ++ second) =
      andThen (executeAll frame first) (executeAll frame second) := by
  induction first with
  | nil =>
    refine (Eq.symm ?_)
    exact pure_bind _ _
  | cons stmt rest ih =>
    have parts : executeAll frame (stmt :: rest) =
        andThen (execute frame stmt) (executeAll frame rest) := rfl
    have whole : executeAll frame (stmt :: rest ++ second) =
        andThen (execute frame stmt) (executeAll frame (rest ++ second)) := rfl
    rw [whole, ih, parts, andThen_assoc]

namespace Simulates

variable {before between : τ → υ → Prop} {stuck : Trouble → Trouble → τ → υ → Prop}

/-- A change of the first state that comes first. -/
theorem changeFirst {change : τ → τ} {first : Task τ α} {second : Task υ β}
    {after : α → β → τ → υ → Prop}
    (related : ∀ state other, before state other → between (change state) other)
    (goes : Simulates between first second after stuck) :
    Simulates before (modify change >>= fun _ => first) second after stuck := by
  intro state other given
  rw [endOf_bind, endOf_modify]
  exact goes _ _ (related state other given)

/-- A change of the first state that comes last. -/
theorem changeLast {change : τ → τ} {first : Task τ α} {second : Task υ β}
    {middle after : α → β → τ → υ → Prop} (goes : Simulates before first second middle stuck)
    (related : ∀ x y state other, middle x y state other → after x y (change state) other) :
    Simulates before (first >>= fun result => modify change >>= fun _ => Pure.pure result) second
      after stuck := by
  intro state other given
  have ends := goes state other given
  rw [endOf_bind]
  revert ends
  generalize endOf first state = firstEnd
  generalize endOf second other = secondEnd
  rintro (holds | holds)
  · exact .results (related _ _ _ _ holds)
  · exact .troubles holds

end Simulates

end Run

namespace Scoped

variable {σ : Type} {program : Program Mark} {title : String} {base table : SymbolTable}
  {own rest : List Symbol} {inner : List Scope} {frame : Frame σ} {host : Run.Frame σ}

/-- What runs of statements on both sides come to: both go on, with scopes that agree, or both
leave with the same value. -/
def Moves (program : Program Mark) (scopes : List Scope) (first second : Flow) (state : State σ)
    (host : Run.State σ) : Prop :=
  second = first ∧ match first with
    | .next => Inside program scopes state host
    | .leave _ => Outside program state host

/-- Runs that go on leave scopes that agree. -/
theorem Moves.next {scopes : List Scope} {state : State σ} {after : Run.State σ}
    (inside : Inside program scopes state after) :
    Moves program scopes .next .next state after := ⟨rfl, inside⟩

/-- Runs that leave do so with the same value. -/
theorem Moves.leave {scopes : List Scope} (value : Value) {state : State σ} {after : Run.State σ}
    (outside : Outside program state after) :
    Moves program scopes (.leave value) (.leave value) state after := ⟨rfl, outside⟩

/-- What both sides run, as long as scopes agree. -/
abbrev Steps (program : Program Mark) (before after : List Scope) (first : Eval σ Flow)
    (second : Run.Eval σ Flow) : Prop :=
  Simulates (Inside program before) first second (Moves program after) (Stuck program)

/-- What both sides run in a scope that is closed at the end. -/
abbrev Closes (program : Program Mark) (before inner : List Scope) (first : Eval σ Flow)
    (second : Run.Eval σ Flow) : Prop :=
  Simulates (Inside program before) first second
    (fun x y state host => ∃ scope, Moves program (scope :: inner) x y state host) (Stuck program)

/-- What comes after a statement is run on both sides. -/
theorem Steps.andThen {before between : List Scope} {after : Flow → Flow → State σ → Run.State σ → Prop}
    {first second : Eval σ Flow} {hostFirst hostSecond : Run.Eval σ Flow}
    (starts : Steps program before between first hostFirst)
    (goes : Simulates (Inside program between) second hostSecond after (Stuck program))
    (leaves : ∀ value state other, Outside program state other →
      after (.leave value) (.leave value) state other) :
    Simulates (Inside program before) (Run.andThen first second)
      (Run.andThen hostFirst hostSecond) after (Stuck program) := by
  refine Simulates.bind starts fun x y => ?_
  rintro state other ⟨rfl, moved⟩
  cases y with
  | next => exact goes state other moved
  | leave value => exact .results (leaves value state other moved)

/-- A scope that was opened is closed. -/
theorem Moves.close {scope : Scope} {scopes : List Scope} {x y : Flow} {state : State σ}
    {after : Run.State σ} (moved : Moves program (scope :: scopes) x y state after) :
    Moves program scopes x y { state with scopes := state.scopes.tail } after := by
  obtain ⟨rfl, moved⟩ := moved
  cases y with
  | next =>
    obtain ⟨outside, locals⟩ := moved
    obtain ⟨globals, stores, world⟩ := state
    cases locals with
    | cons _ others => exact .next ⟨⟨outside.world, outside.value, outside.only⟩, others⟩
  | leave value => exact .leave value ⟨moved.world, moved.value, moved.only⟩

/-- A scope without variables agrees with the host. -/
theorem Inside.push {scopes : List Scope} {state : State σ} {after : Run.State σ}
    (inside : Inside program scopes state after) (name : String) :
    Inside program (⟨name, []⟩ :: scopes) { state with scopes := [] :: state.scopes } after :=
  ⟨⟨inside.outside.world, inside.outside.value, inside.outside.only⟩,
    .cons ⟨fun _ _ found => (nomatch found), fun _ _ => rfl⟩ inside.locals⟩

/-- A block runs in a scope of its own, which the host does not have. -/
theorem Closes.inScope {scopes : List Scope} {first : Eval σ Flow} {second : Run.Eval σ Flow}
    {name : String} (closes : Closes program (⟨name, []⟩ :: scopes) scopes first second) :
    Steps program scopes scopes (Scoped.inScope [] first) second := by
  refine Simulates.changeFirst (fun state other inside => inside.push name) ?_
  refine Simulates.changeLast closes ?_
  rintro x y state other ⟨scope, moved⟩
  exact moved.close

/-- Loops with a test make the same rounds. -/
theorem Steps.rounds {scopes : List Scope} {test : Eval σ Value} {hostTest : Run.Eval σ Value}
    {body : Eval σ Flow} {hostBody : Run.Eval σ Flow}
    (tests : Tracks program scopes test hostTest) (steps : Steps program scopes scopes body hostBody)
    (count : Nat) :
    Steps program scopes scopes (Run.rounds test body count)
      (Run.rounds hostTest hostBody count) := by
  induction count with
  | zero => exact fun _ _ inside => .troubles ⟨.same, inside.outside⟩
  | succ count ih =>
    refine tests.bind fun value => ?_
    split
    · exact steps.andThen ih fun value _ _ outside => .leave value outside
    · exact Simulates.pure fun _ _ inside => .next inside

/-- Loops with a counter make the same rounds. -/
theorem Steps.countRounds {scopes : List Scope} {step : Value → Eval σ Flow}
    {hostStep : Value → Run.Eval σ Flow}
    (steps : ∀ value, Steps program scopes scopes (step value) (hostStep value)) (count : Nat) :
    ∀ counter, Steps program scopes scopes (Run.countRounds step counter count)
      (Run.countRounds hostStep counter count) := by
  induction count with
  | zero => exact fun _ => Simulates.pure fun _ _ inside => .next inside
  | succ count ih =>
    exact fun counter => (steps (.int counter)).andThen (ih (counter + 1))
      fun value _ _ outside => .leave value outside

/-- The bounds of a loop are integers on both sides, or on neither. -/
theorem Steps.loop {scopes : List Scope} {step : Value → Eval σ Flow}
    {hostStep : Value → Run.Eval σ Flow}
    (steps : ∀ value, Steps program scopes scopes (step value) (hostStep value))
    (first bound : Value) :
    Steps program scopes scopes
      (do
        let first ← Run.lift (Run.loopBound first)
        let bound ← Run.lift (Run.loopBound bound)
        Run.countRounds step first (bound - first).toNat)
      (Run.lift (Run.applyKind "range" [first, bound]) >>= Run.roundsOver hostStep) := by
  rw [Run.applyKind]
  cases Run.loopBound first with
  | error trouble => exact fun _ _ inside => .troubles ⟨.same, inside.outside⟩
  | ok firstNumber =>
    cases Run.loopBound bound with
    | error trouble => exact fun _ _ inside => .troubles ⟨.same, inside.outside⟩
    | ok boundNumber => exact Steps.countRounds steps (boundNumber - firstNumber).toNat firstNumber

namespace Setting

/-- A variable is declared on both sides. -/
theorem declares (setting : Setting program title base own frame host) {scope : Scope}
    {symbol : Symbol} (placed : Placed base own table (scope :: inner) (symbol :: rest))
    (value : Value) :
    Simulates (Inside program (scope :: inner)) (Scoped.declare symbol.name value : Eval σ Unit)
      (Run.writeName host (hostName program symbol) value)
      (fun _ _ => Inside program (⟨scope.name, symbol :: scope.symbols⟩ :: inner))
      (Stuck program) := by
  have separate := placed.separate setting.locals.distinct
  have own : symbol ∈ own :=
    placed.room.subset (List.mem_append_right _ List.mem_cons_self)
  have isLocal := (setting.framed.names _).2 ⟨symbol, own, rfl⟩
  refine Simulates.changes fun state other inside => ?_
  obtain ⟨outside, locals⟩ := inside
  obtain ⟨globals, stores, world⟩ := state
  cases locals with
  | @cons _ cells _ stores agrees others =>
    have before : Locals program other.locals (scope :: inner) (cells :: stores) :=
      .cons agrees others
    have after := before.declare symbol value fun known member same => by
      rw [List.map_append, List.nodup_append] at separate
      exact separate.2.2 _ (List.mem_map_of_mem member) _ List.mem_cons_self same
    simp only [isLocal, if_true]
    exact ⟨⟨outside.world, outside.value, outside.only⟩, after⟩

/-- A variable is changed on both sides. -/
theorem assigns (setting : Setting program title base own frame host)
    (placed : Placed base own table inner rest) {name : String} {symbol : Symbol}
    (found : table.lookup? name = some symbol) (readable : symbol.kind.isFunction = false)
    (value : Value) :
    Simulates (Inside program inner) (Scoped.assign name value : Eval σ Unit)
      (Run.writeName host (hostName program symbol) value)
      (fun _ _ => Inside program inner) (Stuck program) := by
  have separate := placed.separate setting.locals.distinct
  rw [List.map_append, List.nodup_append] at separate
  refine Simulates.changes fun state other inside => ?_
  have nested := placed.nested setting.locals.owned
  rcases nested.reads setting.within found readable with here | ⟨hidden, outside, rfl⟩
  · have isLocal := (setting.framed.names _).2 ⟨symbol, placed.own_of_found here, rfl⟩
    obtain ⟨changed, put, after⟩ := inside.locals.assign separate.1 here value
    simp only [isLocal, if_true, put]
    exact ⟨⟨inside.outside.world, inside.outside.value, inside.outside.only⟩, after⟩
  · have declared := Laid.variable_declared outside
    have notLocal := setting.not_local fun known member =>
      (setting.locals.apart symbol declared known member).symm
    have put := inside.locals.assign_unknown hidden value
    simp only [notLocal, Bool.false_eq_true, if_false, put]
    exact ⟨inside.outside.put setting.laid outside value, inside.locals⟩

/-- A round of a loop has a scope for its counter, and the host a local variable. -/
theorem counts (setting : Setting program title base own frame host) {symbol : Symbol}
    (placed : Placed base own table inner (symbol :: rest)) {first : Eval σ Flow}
    {second : Run.Eval σ Flow}
    (steps : Steps program (⟨"for", [symbol]⟩ :: inner) (⟨"for", [symbol]⟩ :: inner) first second)
    (value : Value) :
    Steps program inner inner (Scoped.inScope [(symbol.name, value)] first)
      (Run.writeName host (hostName program symbol) value >>= fun _ => second) := by
  have opens : Simulates (Inside program inner)
      (modify fun state => { state with scopes := [(symbol.name, value)] :: state.scopes } :
        Eval σ Unit)
      (Run.writeName host (hostName program symbol) value)
      (fun _ _ => Inside program (⟨"for", [symbol]⟩ :: inner)) (Stuck program) := by
    intro state other inside
    exact setting.declares (placed.push "for") value _ other (inside.push "for")
  refine Simulates.bind opens fun _ _ => ?_
  exact Simulates.changeLast steps fun _ _ _ _ moved => moved.close

/-- The statements of a body that is left out of a scope. -/
theorem next_scope {result : Ty} {stmt : Stmt Mark} {following : SymbolTable}
    (follows : Follows result table stmt following)
    (placed : Placed base own table (table.scope :: inner) (declared stmt ++ rest)) :
    Placed base own following (following.scope :: inner) rest := by
  obtain ⟨after, still⟩ := follows.placed placed
  have parts : following.scope :: following.outer = after :: (inner ++ base.scopes) := still.scopes
  rwa [(List.cons.inj parts).1]

end Setting

/-- Both sides leave with the same value. -/
theorem Tracks.leave {before after : List Scope} {first : Eval σ Value} {second : Run.Eval σ Value}
    (tracks : Tracks program before first second) :
    Steps program before after (first >>= fun value => return .leave value)
      (second >>= fun value => return .leave value) :=
  tracks.bind fun value => Simulates.pure fun _ _ inside => .leave value inside.outside

/-- Both sides take the same branch. -/
theorem Tracks.branch {before after : List Scope} {test : Eval σ Value}
    {hostTest : Run.Eval σ Value} {first second : Eval σ Flow}
    {hostFirst hostSecond : Run.Eval σ Flow} (tests : Tracks program before test hostTest)
    (holds : Steps program before after first hostFirst)
    (fails : Steps program before after second hostSecond) :
    Steps program before after (test >>= fun value => if Run.truth value then first else second)
      (hostTest >>= fun value => if Run.truth value then hostFirst else hostSecond) := by
  refine tests.bind fun value => ?_
  split
  · exact holds
  · exact fails

mutual

/-- A well typed statement runs on both sides. -/
theorem steps_stmt (setting : Setting program title base own frame host) {result : Ty} :
    ∀ {stmt : Stmt Mark} {table following : SymbolTable} {inner : List Scope} {rest : List Symbol},
      Follows result table stmt following →
      Placed base own table (table.scope :: inner) (declared stmt ++ rest) →
      Steps program (table.scope :: inner) (following.scope :: inner) (execute frame stmt)
        (Run.executeAll host (stmt.hosted program))
  | .declare binding, _, _, _, _,
      .declare (@Typing.Declares.intro _ _ _ type _ _ _ fits bound fresh), placed => by
    rw [declared, bound] at placed
    obtain ⟨_, rfl⟩ := SymbolTable.define?_eq_some_iff.1 fresh
    have lowered : (Stmt.declare binding).hosted program =
        [.assign (hostName program (variableSymbol false binding type))
          (binding.value.hosted program)] := by
      rw [← foldText_lower bound binding.name]
      rfl
    rw [lowered, Run.executeAll_singleton]
    refine (tracks_fits setting placed fits).bind fun value => ?_
    refine Simulates.bind (setting.declares placed value) fun _ _ => ?_
    exact Simulates.pure fun _ _ inside => .next inside
  | .assign mark target value, _, _, _, _,
      @Typing.Follows.assign _ _ _ _ _ symbol found readable _ bound _ fits, placed => by
    have lowered : (Stmt.assign mark target value).hosted program =
        [.assign (hostName program symbol) (value.hosted program)] := by
      rw [← foldText_lower bound target.name]
      rfl
    rw [lowered, Run.executeAll_singleton]
    refine (tracks_fits setting placed fits).bind fun value => ?_
    refine Simulates.bind (setting.assigns placed found readable value) fun _ _ => ?_
    exact Simulates.pure fun _ _ inside => .next inside
  | .leave mark none, _, _, _, _, .leaveNothing _, _ => by
    have lowered : (Stmt.leave mark none).hosted program = [.leave none] := rfl
    rw [lowered, Run.executeAll_singleton]
    exact Simulates.pure fun _ _ inside => .leave .none inside.outside
  | .leave mark (some value), _, _, _, _, .leave _ fits, placed => by
    have lowered : (Stmt.leave mark (some value)).hosted program =
        [.leave (some (value.hosted program))] := rfl
    rw [lowered, Run.executeAll_singleton]
    exact (tracks_fits setting placed fits).leave
  | .evaluate mark value, _, _, _, _, .evaluate typed _, placed => by
    have lowered : (Stmt.evaluate mark value).hosted program =
        [.evaluate (value.hosted program)] := rfl
    rw [lowered, Run.executeAll_singleton]
    refine (tracks_expr setting placed typed).bind fun _ => ?_
    exact Simulates.pure fun _ _ inside => .next inside
  | .block _ body, _, _, _, _, .block inside, placed =>
    (closes_body setting inside (placed.push "block")).inScope
  | .ifThen mark test bodyMark body, _, _, _, _, .ifThen truth _ inside, placed => by
    have lowered : (Stmt.ifThen mark test bodyMark body).hosted program =
        [.ifThen (test.hosted program) (Stmt.hostedAll program body)] := rfl
    rw [lowered, Run.executeAll_singleton]
    have holds := (closes_body setting inside (placed.push "block")).inScope
    exact (tracks_expr setting placed truth).branch holds
      (Simulates.pure fun _ _ inside => .next inside)
  | .ifElse mark test bodyMark body otherwise, _, _, _, rest,
      .ifElse truth _ inside branch other, placed => by
    rw [declared, List.append_assoc] at placed
    have holds := (closes_body setting inside (placed.push "block")).inScope
    have fails := steps_stmt setting other (placed.fewer (List.sublist_append_right _ _))
    have tests := tracks_expr setting placed truth
    have shapes := @Stmt.hosted_ifElse program mark bodyMark test body otherwise branch
    rcases shapes with lowered | ⟨following, single, lowered⟩
    · rw [lowered, Run.executeAll_singleton]
      exact tests.branch holds fails
    · rw [single, Run.executeAll_singleton] at fails
      rw [lowered, Run.executeAll_singleton]
      exact tests.branch holds fails
  | .whileLoop mark test bodyMark body, _, _, _, _, .whileLoop truth _ inside, placed => by
    have lowered : (Stmt.whileLoop mark test bodyMark body).hosted program =
        [.whileLoop (test.hosted program) (Stmt.hostedAll program body)] := rfl
    rw [lowered, Run.executeAll_singleton, Run.execute, setting.framed.rounds]
    have steps := (closes_body setting inside (placed.push "block")).inScope
    exact steps.rounds (tracks_expr setting placed truth) frame.rounds
  | .forLoop mark counter first bound bodyMark body, _, _, _, _,
      .forLoop firstTyped _ boundTyped _ noted fresh inside, placed => by
    rw [declared, noted] at placed
    have lowered : (Stmt.forLoop mark counter first bound bodyMark body).hosted program =
        [.forLoop (hostName program (counterSymbol mark counter)) (first.hosted program)
          (bound.hosted program) (Stmt.hostedAll program body)] := by
      rw [← foldText_lower noted counter]
      rfl
    rw [lowered, Run.executeAll_singleton]
    have around := (placed.push "for").define fresh
    obtain ⟨_, rfl⟩ := SymbolTable.define?_eq_some_iff.1 fresh
    have closes := (closes_body setting inside (around.push "block")).inScope
    have steps := setting.counts placed closes
    refine Simulates.passSecond (fun _ _ inside => setting.reads_meaning
      (.entity (.kind "range")) rfl inside.outside) ?_
    refine (tracks_expr setting placed firstTyped).bind fun firstValue => ?_
    refine (tracks_expr setting placed boundTyped).bind fun boundValue => ?_
    rw [setting.framed.kind]
    exact Steps.loop steps firstValue boundValue

/-- A well typed body runs on both sides. -/
theorem closes_body (setting : Setting program title base own frame host) {result : Ty} :
    ∀ {body : List (Stmt Mark)} {table : SymbolTable} {inner : List Scope} {rest : List Symbol},
      Body result table body →
      Placed base own table (table.scope :: inner) (declaredAll body ++ rest) →
      Closes program (table.scope :: inner) inner (executeAll frame body)
        (Run.executeAll host (Stmt.hostedAll program body))
  | [], _, _, _, _, _ => Simulates.pure fun _ _ inside => ⟨_, .next inside⟩
  | _ :: _, _, _, _, .cons first later, placed => by
    rw [declaredAll, List.append_assoc] at placed
    have here := steps_stmt setting first placed
    have there := closes_body setting later (Setting.next_scope first placed)
    rw [Stmt.hostedAll_cons, Run.executeAll_append]
    exact here.andThen there fun value _ _ outside => ⟨⟨"", []⟩, .leave value outside⟩

end

end Scoped

end Lag
