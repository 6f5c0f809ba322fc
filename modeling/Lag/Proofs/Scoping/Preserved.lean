import Lag.Proofs.Accepted
import Lag.Proofs.Scoping.Called

/-!
# Scoping is preserved

A session gives the variables of a module their first values and then calls functions of the
module, one after the other. What a session shows is the same whether the program runs with nested
scopes, every declaration making a variable of its own, or as the module of the host that it is
lowered to, where every function has one flat scope.
-/
namespace Lag

open Host (hostName symbolsOf)
open Run (Simulates Store Trouble Limits endOf endOf_bind endOf_get endOf_pure endOf_throw
  endOf_lift endOf_modify)
open Typing (Declarations Within functionSymbol variableSymbol)

variable {σ : Type}

/-- What a session shows. -/
structure Shown (σ : Type) where
  /-- How the first values were given. -/
  start : Except Trouble Unit
  /-- How the calls ended. -/
  calls : List (Except Trouble Value)
  /-- The values of the variables of the module at the end, none for a variable without one. -/
  values : List (Option Value)
  /-- The world at the end. -/
  world : σ

/-- A part of a session: it starts from variables of a module and a world, and leaves both. -/
abbrev Part (σ α : Type) := Store → σ → Except Trouble α × Store × σ

/-- Calls of functions, one after the other, whether they meet trouble or not. -/
def callAll (call : String → List Value → Part σ Value) : List (String × List Value) → Store → σ →
    List (Except Trouble Value) × Store × σ
  | [], globals, world => ([], globals, world)
  | (name, arguments) :: rest, globals, world =>
    let (outcome, globals, world) := call name arguments globals world
    let (outcomes, globals, world) := callAll call rest globals world
    (outcome :: outcomes, globals, world)

/-- A session: the calls are made if the first values could be given. -/
def session (first : Part σ Unit) (call : String → List Value → Part σ Value)
    (values : Store → List (Option Value)) (calls : List (String × List Value)) (world : σ) :
    Shown σ :=
  let (given, globals, world) := first [] world
  match given with
  | .error trouble => ⟨.error trouble, [], values globals, world⟩
  | .ok () =>
    let (outcomes, globals, world) := callAll call calls globals world
    ⟨.ok (), outcomes, values globals, world⟩

/-- A run with nested scopes as a part of a session. -/
def Scoped.Eval.runOn {α : Type} (action : Scoped.Eval σ α) : Part σ α := fun globals world =>
  let (outcome, state) := endOf action ⟨globals, [], world⟩
  (outcome, state.globals, state.world)

/-- A session with a program that runs with nested scopes. -/
def Scoped.sessionOf (program : Program Mark) (record : Recorder σ) (limits : Limits)
    (calls : List (String × List Value)) (world : σ) : Shown σ :=
  session (Scoped.initialise program record limits).runOn
    (fun name arguments => (Scoped.invoke program record limits name arguments).runOn)
    (valuesOf program) calls world

/-- Call what a module exports under a name. -/
def Run.callExport (module : Host.Module) (write : Run.Writer σ) (limits : Limits) (name : String)
    (arguments : List Value) : Run.Eval σ Value :=
  match Run.exported? module name with
  | some function => Run.invoke module write function arguments limits
  | none => throw (.unboundGlobal name)

/-- A session with a module of the host. -/
def Run.sessionOf (module : Host.Module) (record : Scoped.Recorder σ) (limits : Limits)
    (calls : List (String × List Value)) (world : σ) : Shown σ :=
  session (Run.initialise module (Run.observing module record) limits).runOn
    (fun name arguments =>
      (Run.callExport module (Run.observing module record) limits name arguments).runOn)
    (fun globals => module.firsts.map fun first => Table.find? globals first.1) calls world

/-- The same result, or the same trouble. -/
inductive SameOutcome {α : Type} (program : Program Mark) : Except Trouble α → Except Trouble α →
    Prop where
  /-- The results are the same. -/
  | result (value : α) : SameOutcome program (.ok value) (.ok value)
  /-- The troubles are the same. -/
  | trouble {first second : Trouble} (same : Scoped.SameTrouble program first second) :
    SameOutcome program (.error first) (.error second)

/-- Sessions that show the same. -/
structure SameShown (program : Program Mark) (first second : Shown σ) : Prop where
  /-- The first values were given, or met the same trouble. -/
  start : SameOutcome program first.start second.start
  /-- The calls ended alike. -/
  calls : List.Forall₂ (SameOutcome program) first.calls second.calls
  /-- The variables have the same values. -/
  values : second.values = first.values
  /-- The worlds are the same. -/
  world : second.world = first.world

namespace Scoped

variable {program : Program Mark} {title : String}

/-- A variable of the module gets a value on both sides. -/
theorem Setting.gives {frame : Frame σ} {host : Run.Frame σ} {base : SymbolTable}
    (setting : Setting program title base [] frame host) {symbol : Symbol}
    (inside : symbol ∈ program.variables) (value : Value) :
    Simulates (Inside program []) (declare symbol.name value : Eval σ Unit)
      (Run.writeName host (hostName program symbol) value)
      (fun _ _ => Inside program []) (Stuck program) := by
  have notLocal : host.names.contains (hostName program symbol) = false :=
    setting.not_local (by simp)
  refine Simulates.changes fun state other agree => ?_
  obtain ⟨outside, locals⟩ := agree
  obtain ⟨globals, stores, world⟩ := state
  cases locals
  simp only [notLocal, Bool.false_eq_true, if_false]
  exact ⟨outside.put setting.laid inside value, .nil⟩

/-- The variables of a module get the same first values. -/
theorem simulates_firsts {frame : Frame σ} {host : Run.Frame σ} (laid : Laid program)
    (framed : Framed program title [] frame host) {table : SymbolTable}
    {declarations : List (Declaration Mark)} (typed : Declarations table declarations)
    (part : ∀ binding ∈ bindingsOf declarations, binding ∈ program.bindings)
    (within : Within program table) :
    Simulates (Inside program []) (giveFirst frame (bindingsOf declarations))
      (Run.giveFirst host ((bindingsOf declarations).map fun binding =>
        (Text.foldText (binding.note.lower (Host.Names.ofProgram program) binding.name),
          binding.value.hosted program)))
      (fun _ _ => Inside program []) (Stuck program) := by
  induction typed with
  | nil => exact Simulates.pure fun _ _ inside => inside
  | function _ _ ih => exact ih part within
  | @binding table next declared rest first _ ih =>
    have later := ih (fun binding inside => part binding (List.mem_cons_of_mem _ inside))
      (within.declares (part _ List.mem_cons_self) first)
    obtain @⟨type, _, _, _, fits, bound, _⟩ := first
    have inside : variableSymbol true declared type ∈ program.variables :=
      List.mem_flatMap.2 ⟨declared, part _ List.mem_cons_self, by rw [bound]; simp⟩
    have setting : Setting program title table [] frame host :=
      ⟨laid, .nil program, framed, within⟩
    have name : Text.foldText (declared.note.lower (Host.Names.ofProgram program) declared.name) =
        hostName program (variableSymbol true declared type) := foldText_lower bound declared.name
    rw [bindingsOf, List.map_cons, name]
    refine (tracks_fits setting (Placed.start table []) fits).bind fun value => ?_
    exact Simulates.bind (setting.gives inside value) fun _ _ => later

/-- The first values of a program are given on both sides. -/
theorem simulates_initialise (laid : Laid program) (title : String) (record : Recorder σ)
    (limits : Limits) :
    Simulates (Inside program []) (initialise program record limits)
      (Run.initialise (hostModule title program)
        (Run.observing (hostModule title program) record) limits)
      (fun _ _ => Inside program []) (Stuck program) := by
  obtain ⟨table, within, typed⟩ := laid.typed.within
  have framed := framed_at laid title record limits.rounds limits.calls
  have gives := simulates_firsts laid framed typed
    (fun binding inside => by rwa [bindingsOf_declarations] at inside) within
  rw [bindingsOf_declarations] at gives
  have firsts : (hostModule title program).firsts = program.bindings.map fun binding =>
      (Text.foldText (binding.note.lower (Host.Names.ofProgram program) binding.name),
        binding.value.hosted program) := by
    simp only [hostModule, Host.Module.link, Program.lowerAs, List.map_map]
    rfl
  rw [initialise, Run.initialise, firsts]
  exact gives

/-- An export is found by its name, and it is the last function of that name. -/
theorem exported?_eq (module : Host.Module) (entry : String) :
    Run.exported? module entry = (module.functions.find? (·.1 == entry)).bind fun found =>
      (Run.lastPlace? found.2.name 0 module.functions).bind fun place =>
        some (.function place found.2.name) := rfl

/-- A function is exported under its own name. -/
theorem exported_function (laid : Laid program) (title : String) {index : Nat}
    {function : Function Mark} (there : program.functions[index]? = some function) :
    Run.exported? (hostModule title program) function.name =
      some (.function index (hostName program (functionSymbol function))) := by
  have inside := List.mem_of_getElem? there
  have hosted : (hostModule title program).functions[index]? =
      some (function.name, hostFunction program function) := by
    rw [functions_hostModule, List.getElem?_map, there]
    rfl
  have place := Run.lastPlace?_eq_some (laid.functions_distinct title) hosted 0
  have found : (hostModule title program).functions.find? (·.1 == function.name) =
      some (function.name, hostFunction program function) := by
    rw [functions_hostModule, List.find?_map]
    have own : ((fun entry : String × Host.Function => entry.1 == function.name) ∘
        fun known => (known.name, hostFunction program known)) =
        fun known : Function Mark => known.name == function.name := rfl
    rw [own, Setting.find_some laid inside]
    rfl
  rw [Nat.zero_add] at place
  rw [exported?_eq, found, Option.bind_some]
  rw [place, laid.name_hostFunction inside]
  rfl

/-- A call from outside ends alike on both sides. -/
theorem simulates_call (laid : Laid program) (title : String) (record : Recorder σ)
    (limits : Limits) (name : String) (arguments : List Value) (stores : List Store)
    (locals : Store) :
    Keeps program stores locals (invoke program record limits name arguments)
      (Run.callExport (hostModule title program)
        (Run.observing (hostModule title program) record) limits name arguments)
      fun value result => result = value := by
  have framed := framed_at laid title record limits.rounds limits.calls
  unfold invoke Run.callExport
  cases found : program.functions.find? (·.name == name) with
  | some function =>
    have inside := List.mem_of_find?_eq_some found
    obtain ⟨index, there⟩ := List.mem_iff_getElem?.1 inside
    have named := List.find?_some found
    simp only [beq_iff_eq] at named
    rw [← named, exported_function laid title there]
    exact framed.call index function there arguments stores locals
  | none =>
    have missing : Run.exported? (hostModule title program) name = none := by
      have other : (hostModule title program).functions.find? (·.1 == name) = none := by
        rw [functions_hostModule]
        refine List.find?_eq_none.2 fun entry inside => ?_
        obtain ⟨function, member, rfl⟩ := List.mem_map.1 inside
        exact List.find?_eq_none.1 found function member
      rw [exported?_eq, other]
      rfl
    rw [missing]
    exact fun _ _ given => .troubles ⟨.same, given.outside⟩

/-- Nothing is there before a session. -/
theorem outside_start (program : Program Mark) (world : σ) :
    Outside program (⟨[], [], world⟩ : State σ) ⟨[], [], world⟩ :=
  ⟨rfl, fun _ _ => rfl, fun _ _ found => nomatch found⟩

/-- Parts of sessions that end alike. -/
structure SamePart {α β : Type} (program : Program Mark) (same : α → β → Prop)
    (first : α × Store × σ) (second : β × Store × σ) : Prop where
  /-- The outcomes are related. -/
  outcome : same first.1 second.1
  /-- The variables of the module and the worlds agree. -/
  outside : Outside program (⟨first.2.1, [], first.2.2⟩ : State σ) ⟨second.2.1, [], second.2.2⟩

/-- Runs that end side by side are parts of sessions that end alike. -/
theorem samePart_of_both {α : Type} {first : Eval σ α} {second : Run.Eval σ α}
    {globals hosts : Store} {world hostWorld : σ}
    (ends : Run.Both (fun x y state host => y = x ∧ Outside program state host) (Stuck program)
      (endOf first ⟨globals, [], world⟩) (endOf second ⟨hosts, [], hostWorld⟩)) :
    SamePart program (SameOutcome program) (first.runOn globals world)
      (second.runOn hosts hostWorld) := by
  have parts : first.runOn globals world = ((endOf first ⟨globals, [], world⟩).1,
      (endOf first ⟨globals, [], world⟩).2.globals, (endOf first ⟨globals, [], world⟩).2.world) :=
    rfl
  have hostParts : second.runOn hosts hostWorld = ((endOf second ⟨hosts, [], hostWorld⟩).1,
      (endOf second ⟨hosts, [], hostWorld⟩).2.globals,
      (endOf second ⟨hosts, [], hostWorld⟩).2.world) := rfl
  rw [parts, hostParts]
  revert ends
  generalize endOf first _ = firstEnd
  generalize endOf second _ = secondEnd
  rintro (⟨rfl, outside⟩ | stuck)
  · exact ⟨.result _, ⟨outside.world, outside.value, outside.only⟩⟩
  · obtain ⟨same, outside⟩ := stuck
    exact ⟨.trouble same, ⟨outside.world, outside.value, outside.only⟩⟩

/-- Calls end alike, whatever values the variables of the module have. -/
theorem same_calls (laid : Laid program) (title : String) (record : Recorder σ) (limits : Limits)
    (calls : List (String × List Value)) : ∀ {globals hosts : Store} {world hostWorld : σ},
      Outside program (⟨globals, [], world⟩ : State σ) ⟨hosts, [], hostWorld⟩ →
      SamePart program (List.Forall₂ (SameOutcome program))
        (callAll (fun name arguments => (invoke program record limits name arguments).runOn)
          calls globals world)
        (callAll (fun name arguments => (Run.callExport (hostModule title program)
          (Run.observing (hostModule title program) record) limits name arguments).runOn)
          calls hosts hostWorld) := by
  induction calls with
  | nil => exact fun outside => ⟨.nil, outside⟩
  | cons call rest ih =>
    obtain ⟨name, arguments⟩ := call
    intro globals hosts world hostWorld outside
    have ends : Simulates (At program [] []) (invoke program record limits name arguments)
        (Run.callExport (hostModule title program)
          (Run.observing (hostModule title program) record) limits name arguments)
        (Same (Outside program)) (Stuck program) :=
      (simulates_call laid title record limits name arguments [] []).mono
        (fun _ _ given => given) fun _ _ _ _ after => ⟨after.1, after.2.outside⟩
    have part := samePart_of_both
      (ends ⟨globals, [], world⟩ ⟨hosts, [], hostWorld⟩ ⟨outside, rfl, rfl⟩)
    have others := ih part.outside
    exact ⟨.cons part.outcome others.outcome, others.outside⟩

/-- A program whose symbols the host tells apart shows the same in every session, whether it runs
with nested scopes or as the module that it is lowered to. -/
theorem same_session (laid : Laid program) (title : String) (record : Recorder σ)
    (limits : Limits) (calls : List (String × List Value)) (world : σ) :
    SameShown program (sessionOf program record limits calls world)
      (Run.sessionOf (hostModule title program) record limits calls world) := by
  have ends : Simulates (Inside program []) (initialise program record limits)
      (Run.initialise (hostModule title program)
        (Run.observing (hostModule title program) record) limits)
      (Same (Outside program)) (Stuck program) :=
    (simulates_initialise laid title record limits).mono (fun _ _ given => given)
      fun _ _ _ _ after => ⟨rfl, after.outside⟩
  have part := samePart_of_both
    (ends ⟨[], [], world⟩ ⟨[], [], world⟩ ⟨outside_start program world, .nil⟩)
  unfold sessionOf Run.sessionOf session
  revert part
  generalize (initialise program record limits).runOn [] world = firstPart
  generalize Run.Eval.runOn _ [] world = secondPart
  obtain ⟨given, globals, after⟩ := firstPart
  obtain ⟨hostGiven, hosts, hostAfter⟩ := secondPart
  rintro ⟨outcome, outside⟩
  cases outcome with
  | result _ =>
    have calls := same_calls laid title record limits calls outside
    exact ⟨.result (), calls.outcome, calls.outside.values laid title, calls.outside.world⟩
  | trouble same =>
    exact ⟨.trouble same, .nil, outside.values laid title, outside.world⟩

end Scoped

/-- An accepted program of ASCII names, the search for whose host names ends, is laid out. -/
theorem Accepts.laid {source : String} {file : Option String} {limit : Nat}
    {program : Program Mark} (accepts : Accepts source file limit program)
    (ascii : ∀ symbol ∈ symbolsOf program, Host.IsAscii symbol.name)
    (settles : Host.Names.Settle [] (symbolsOf program)) : Laid program := by
  have origins : ∀ symbol ∈ symbolsOf program, symbol.origin.isSome = true := by
    intro symbol inside
    have origin := accepts.typed.origins.subset (List.mem_map_of_mem inside)
    obtain ⟨number, _, is⟩ := List.mem_map.1 origin
    rw [← is]
    rfl
  exact .of_apart accepts.typed accepts.numbered (Host.apart_of_ascii origins ascii settles)

/-- Scoping is preserved. A session with an accepted program shows the same whether the program runs
with nested scopes, or as the module that it is lowered to as the host runs it: the same results and
troubles of calls, the same written lines in order, as any recorder takes them down, and the same
values of the variables of the module. The identifiers are of ASCII characters, and the search for
a host name of each of them ends. -/
theorem scoping_preserved {source : String} {file : Option String} {limit : Nat}
    {program : Program Mark} (accepts : Accepts source file limit program)
    (ascii : ∀ symbol ∈ symbolsOf program, Host.IsAscii symbol.name)
    (settles : Host.Names.Settle [] (symbolsOf program)) {title : String} {lowered : Host.Module}
    (lowers : program.lower? title = some lowered) (record : Scoped.Recorder σ) (limits : Limits)
    (calls : List (String × List Value)) (world : σ) :
    SameShown program (Scoped.sessionOf program record limits calls world)
      (Run.sessionOf lowered.link record limits calls world) := by
  rw [Program.eq_lowerAs lowers]
  exact Scoped.same_session (accepts.laid ascii settles) title record limits calls world

/-- A program whose function has two variables of one name, one of them inside a block, and a
variable of the module with the name of a word of the host. -/
def shadowing : String :=
  "let def = 1; fn f(n: int) -> int { let x = n; { let x = 2; def = def + x; } return x + def; }"

/-- A session with the program of shadowed names shows the same on both sides. -/
theorem scoping_preserved_shadowing : ∃ program lowered,
    Accepts shadowing none 1 program ∧
      (∀ symbol ∈ symbolsOf program, Host.IsAscii symbol.name) ∧
      Host.Names.Settle [] (symbolsOf program) ∧ program.lower? "demo" = some lowered ∧
      SameShown program
        (Scoped.sessionOf program (fun line _ lines => line :: lines) {} [("f", [.int 5])] [])
        (Run.sessionOf lowered.link (fun line _ lines => line :: lines) {} [("f", [.int 5])]
          ([] : List String)) := by
  obtain ⟨program, accepts, holds⟩ : ∃ program, Accepts shadowing none 1 program ∧
      (decide (∀ symbol ∈ symbolsOf program, Host.IsAscii symbol.name) &&
        decide (Host.Names.Settle [] (symbolsOf program)) &&
          (program.lower? "demo").isSome) = true :=
    exists_accepts rfl Nat.one_pos (by decide +kernel)
  simp only [Bool.and_eq_true, decide_eq_true_eq] at holds
  obtain ⟨⟨ascii, settles⟩, some⟩ := holds
  obtain ⟨lowered, lowers⟩ := Option.isSome_iff_exists.1 some
  exact ⟨program, lowered, accepts, ascii, settles, lowers,
    scoping_preserved accepts ascii settles lowers _ _ _ _⟩

end Lag
