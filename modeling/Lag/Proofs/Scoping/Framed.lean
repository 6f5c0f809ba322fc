import Lag.Proofs.Scoping.Assigned
import Lag.Proofs.Scoping.Related

/-!
# Frames side by side

What the statements of a program run in is related to what those of the host run in: the local
names of the host are the host names of the symbols that the function declares, other names stand
for the functions and variables of the module, and calls and written texts give the same.
-/
namespace Lag

open Host (declaredBy declaredIn hostName symbolsOf)
open Run (Simulates endOf endOf_bind endOf_get endOf_pure endOf_throw endOf_lift endOf_modify)
open Typing (functionSymbol Owned Within)

variable {σ : Type} {α : Type} {program : Program Mark}

/-- The writer that shows each line, with the values of the variables of a module, to a recorder,
and changes no variable. -/
def Run.observing (module : Host.Module) (record : Scoped.Recorder σ) : Run.Writer σ :=
  fun line globals world =>
    (globals, record line (module.firsts.map fun first => Table.find? globals first.1) world)

/-- The symbols that a function declares, as the host tells them apart from all others; none
outside functions. -/
structure Local (program : Program Mark) (own : List Symbol) : Prop where
  /-- They are symbols of the program. -/
  members : ∀ symbol ∈ own, symbol ∈ symbolsOf program
  /-- They are variables of the function. -/
  owned : ∀ symbol ∈ own, Owned symbol
  /-- Their host names differ. -/
  distinct : (own.map (hostName program)).Nodup
  /-- Their host names are not those of functions and variables of the module. -/
  apart : ∀ outer ∈ program.declarations.flatMap declaredBy, ∀ symbol ∈ own,
    hostName program outer ≠ hostName program symbol

/-- Outside functions there are no local symbols. -/
theorem Local.nil (program : Program Mark) : Local program [] :=
  ⟨by simp, by simp, List.nodup_nil, by simp⟩

/-- The symbols that a function declares are local. -/
theorem Laid.local (laid : Laid program) {function : Function Mark}
    (inside : function ∈ program.functions) : Local program (declaredIn function) := by
  obtain ⟨_, _, defines⟩ := laid.typed.defines inside
  exact ⟨fun symbol member => Laid.mem_symbolsOf.2 (.inr ⟨function, inside, member⟩),
    defines.owned, laid.separate_locals inside,
    fun outer outside symbol member => laid.host_ne outside inside member⟩

namespace Laid

/-- The names of the functions of the host. -/
theorem name_hostFunction (laid : Laid program) {function : Function Mark}
    (inside : function ∈ program.functions) :
    (hostFunction program function).name = hostName program (functionSymbol function) := by
  obtain ⟨_, _, bound, _⟩ := laid.typed.defines inside
  exact foldText_lower bound function.name

/-- The functions of the host have different names. -/
theorem functions_distinct (laid : Laid program) (title : String) :
    ((hostModule title program).functions.map (·.2.name)).Nodup := by
  rw [functions_hostModule, List.map_map]
  have names := laid.typed.functions_names
  refine List.pairwise_map.2 (names.imp_of_mem ?_)
  intro first second firstInside secondInside different same
  simp only [Function.comp, laid.name_hostFunction firstInside,
    laid.name_hostFunction secondInside] at same
  have symbols := laid.symbol_eq (mem_symbolsOf.2 (.inl (laid.typed.function_declared firstInside)))
    (mem_symbolsOf.2 (.inl (laid.typed.function_declared secondInside))) same
  exact different (congrArg Symbol.name symbols)

/-- The host name of a function stands for it. -/
theorem outer_function (laid : Laid program) (title : String) {index : Nat}
    {function : Function Mark} (found : program.functions[index]? = some function) :
    Run.outerValue? (hostModule title program) (hostName program (functionSymbol function)) =
      some (.entity (.function index (hostName program (functionSymbol function)))) := by
  have inside := List.mem_of_getElem? found
  have there : (hostModule title program).functions[index]? =
      some (function.name, hostFunction program function) := by
    rw [functions_hostModule, List.getElem?_map, found]
    rfl
  have place := Run.lastPlace?_eq_some (laid.functions_distinct title) there 0
  rw [← laid.name_hostFunction inside, Run.outerValue?, place, Nat.zero_add]

/-- A name that is the host name of no function stands for what it means without the module. -/
theorem outer_other (laid : Laid program) (title : String) {name : String}
    (other : ∀ function ∈ program.functions, hostName program (functionSymbol function) ≠ name) :
    Run.outerValue? (hostModule title program) name = Host.meaning? name := by
  have none : Run.lastPlace? name 0 (hostModule title program).functions = none := by
    refine Run.lastPlace?_eq_none (fun entry inside => ?_) 0
    rw [functions_hostModule] at inside
    obtain ⟨function, member, rfl⟩ := List.mem_map.1 inside
    rw [laid.name_hostFunction member]
    exact other function member
  rw [Run.outerValue?, none]
  rfl

/-- A name that stands for something else is not that of a symbol. -/
theorem ne_of_meaning (laid : Laid program) {name : String} {value : Value}
    (stands : Host.meaning? name = some value) {symbol : Symbol}
    (inside : symbol ∈ symbolsOf program) : hostName program symbol ≠ name := by
  rintro rfl
  rw [laid.unused symbol inside] at stands
  cases stands

/-- The host name of a variable stands for nothing before the variable has a value. -/
theorem outer_variable (laid : Laid program) (title : String) {symbol : Symbol}
    (inside : symbol ∈ program.variables) :
    Run.outerValue? (hostModule title program) (hostName program symbol) = none := by
  have declared := mem_symbolsOf.2 (.inl (variable_declared inside))
  rw [laid.outer_other title, laid.unused symbol declared]
  intro function member same
  have is := laid.symbol_eq (mem_symbolsOf.2 (.inl (laid.typed.function_declared member))) declared same
  obtain ⟨binding, _, type, rfl⟩ := laid.variable_is inside
  have kinds : SymbolKind.function = SymbolKind.variable := congrArg Symbol.kind is
  cases kinds

end Laid

namespace Scoped

/-- The variables of a module have the same values where they agree. -/
theorem Outside.values {state : State σ} {host : Run.State σ} (outside : Outside program state host)
    (laid : Laid program) (title : String) :
    (hostModule title program).firsts.map (fun first => Table.find? host.globals first.1) =
      valuesOf program state.globals := by
  simp only [hostModule, Program.lowerAs, Host.Module.link, List.map_map, valuesOf]
  refine List.map_congr_left fun binding inside => ?_
  obtain ⟨type, bound, known⟩ := laid.noted inside
  have name := @foldText_lower program _ _ bound binding.name
  have value := outside.value _ known
  rw [← name] at value
  exact value

/-- The same result, the scopes and local variables being the ones that agreed before. -/
abbrev Keeps (program : Program Mark) (stores : List Run.Store) (locals : Run.Store) {β : Type}
    (first : Eval σ α) (second : Run.Eval σ β) (related : α → β → Prop) : Prop :=
  Simulates (At program stores locals) first second
    (fun x y state host => related x y ∧ At program stores locals state host) (Stuck program)

/-- Frames that are related; the symbols are those that the function declares. -/
structure Framed (program : Program Mark) (title : String) (own : List Symbol) (frame : Frame σ)
    (host : Run.Frame σ) : Prop where
  /-- The program of the frame. -/
  running : frame.program = program
  /-- The local names are those of the symbols. -/
  names : ∀ name, host.names.contains name = true ↔ ∃ symbol ∈ own, hostName program symbol = name
  /-- Other names stand for what they stand for in the module. -/
  outer : host.outer = Run.outerValue? (hostModule title program)
  /-- Lines are shown to the same recorder. -/
  write : host.write = Run.observing (hostModule title program) frame.record
  /-- Loops make as many rounds. -/
  rounds : host.rounds = frame.rounds
  /-- A function that the host gives is applied. -/
  given : ∀ name arguments, host.call (.entity (.given name)) arguments =
    Run.lift (Run.applyGiven name arguments)
  /-- A class makes a member. -/
  kind : ∀ name arguments, host.call (.entity (.kind name)) arguments =
    Run.lift (Run.applyKind name arguments)
  /-- The text of a value. -/
  text : ∀ value stores locals, Keeps program stores locals (frame.text value)
    (host.call (.entity .writing) [value]) fun text result => result = .string text
  /-- A call of a function. -/
  call : ∀ index function, program.functions[index]? = some function → ∀ values stores locals,
    Keeps program stores locals (frame.call function.name values)
      (host.call (.entity (.function index (hostName program (functionSymbol function)))) values)
      fun value result => result = value

/-- The same result, the scopes agreeing with the local variables before and after. -/
abbrev Tracks (program : Program Mark) (scopes : List Scope) (first : Eval σ α)
    (second : Run.Eval σ α) : Prop :=
  Simulates (Inside program scopes) first second (Same (Inside program scopes)) (Stuck program)

/-- Computations go on with the same result. -/
theorem Tracks.bind {β γ : Type} {scopes : List Scope} {first : Eval σ α} {second : Run.Eval σ α}
    {next : α → Eval σ β} {further : α → Run.Eval σ γ} {after : β → γ → State σ → Run.State σ → Prop}
    (tracks : Tracks program scopes first second)
    (goes : ∀ x, Simulates (Inside program scopes) (next x) (further x) after (Stuck program)) :
    Simulates (Inside program scopes) (first >>= next) (second >>= further) after
      (Stuck program) := by
  refine Simulates.bind tracks fun x y => ?_
  rintro state host ⟨rfl, inside⟩
  exact goes y state host inside

/-- The same result in states that agree. -/
theorem Tracks.pure {scopes : List Scope} (result : α) :
    Tracks program scopes (Pure.pure result : Eval σ α) (Pure.pure result) :=
  Simulates.pure fun _ _ inside => ⟨rfl, inside⟩

/-- The same operation in states that agree. -/
theorem Tracks.lift {scopes : List Scope} (outcome : Run.Outcome α) :
    Tracks program scopes (Run.lift outcome : Eval σ α) (Run.lift outcome) :=
  Simulates.lift (fun _ _ _ inside => ⟨rfl, inside⟩) fun _ _ _ inside => ⟨.same, inside.outside⟩

/-- What leaves scopes and local variables as they are keeps their agreement. -/
theorem Tracks.of_keeps {β : Type} {scopes : List Scope} {first : Eval σ α}
    {second : Run.Eval σ β} {related : α → β → Prop}
    (keeps : ∀ stores locals, Keeps program stores locals first second related) :
    Simulates (Inside program scopes) first second
      (fun x y state host => related x y ∧ Inside program scopes state host) (Stuck program) := by
  intro state host inside
  refine (keeps state.scopes host.locals).mono (fun _ _ given => given) ?_ state host
    ⟨inside.outside, rfl, rfl⟩
  rintro x y after other ⟨same, kept⟩
  refine ⟨same, kept.outside, ?_⟩
  rw [kept.scopes, kept.locals]
  exact inside.locals

/-- How the reading of a name ends. -/
theorem endOf_readName (name : String) (state : State σ) :
    endOf (readName name) state =
      match (findIn? name state.scopes).or (Table.find? state.globals name) with
      | some value => (.ok value, state)
      | none => (.error (.unboundGlobal name), state) := by
  rw [readName, endOf_bind, endOf_get]
  dsimp only
  cases (findIn? name state.scopes).or (Table.find? state.globals name) <;> rfl

end Scoped

/-- How the reading of a local name of the host ends. -/
theorem Run.endOf_readName_local {frame : Run.Frame σ} {name : String} {state : Run.State σ}
    {value : Value} (isLocal : frame.names.contains name = true)
    (found : Table.find? state.locals name = some value) :
    endOf (Run.readName frame name) state = (.ok value, state) := by
  rw [Run.readName, endOf_bind, endOf_get]
  simp only [isLocal, if_true, found, endOf_pure]

/-- How the reading of any other name of the host ends. -/
theorem Run.endOf_readName_outer {frame : Run.Frame σ} {name : String} {state : Run.State σ}
    (notLocal : frame.names.contains name = false) :
    endOf (Run.readName frame name) state =
      match (Table.find? state.globals name).or (frame.outer name) with
      | some value => (.ok value, state)
      | none => (.error (.unboundGlobal name), state) := by
  rw [Run.readName, endOf_bind, endOf_get]
  simp only [notLocal, Bool.false_eq_true, if_false]
  cases (Table.find? state.globals name).or (frame.outer name) <;> rfl

end Lag
