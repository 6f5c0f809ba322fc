import Lag.Proofs.Scoping.Layout
import Lag.Proofs.Scoping.Machine
import Lag.Proofs.Scoping.Simulates

/-!
# Nested scopes and flat ones

A state with nested scopes is related to a state of the host by the host names of the symbols that
are in scope: the variable of a symbol in a nested scope is the local variable with its host name,
and the variable of a module is the global variable with its host name. The host may have more
local variables, left over from scopes that were closed.
-/
namespace Lag

open Host (hostName symbolsOf)
open Run (Store Trouble)

variable {σ : Type} {program : Program Mark}

namespace Scoped

/-- A scope whose variables have the values of local variables of the host. -/
structure Agrees (program : Program Mark) (locals : Store) (scope : Scope) (cells : Store) :
    Prop where
  /-- The variable of a symbol has the value of the local variable. -/
  known : ∀ name symbol, scope.find? name = some symbol →
    ∃ value, Table.find? cells name = some value ∧
      Table.find? locals (hostName program symbol) = some value
  /-- A name without a symbol has no variable. -/
  unknown : ∀ name, scope.find? name = none → Table.find? cells name = none

/-- Scopes whose variables have the values of local variables of the host. -/
inductive Locals (program : Program Mark) (locals : Store) : List Scope → List Store → Prop where
  /-- No scopes have no variables. -/
  | nil : Locals program locals [] []
  /-- Every scope agrees with the host. -/
  | cons {scope : Scope} {cells : Store} {outer : List Scope} {stores : List Store}
      (agrees : Agrees program locals scope cells) (others : Locals program locals outer stores) :
      Locals program locals (scope :: outer) (cells :: stores)

/-- The symbols of some scopes. -/
def symbolsIn (scopes : List Scope) : List Symbol := scopes.flatMap (·.symbols)

/-- A name that is found in scopes has a value in both. -/
theorem Locals.known {locals : Store} {scopes : List Scope} {stores : List Store}
    (related : Locals program locals scopes stores) {name : String} {symbol : Symbol}
    (found : SymbolTable.findIn? name scopes = some symbol) :
    ∃ value, findIn? name stores = some value ∧
      Table.find? locals (hostName program symbol) = some value := by
  induction related with
  | nil => cases found
  | @cons scope cells outer stores agrees _ ih =>
    rw [SymbolTable.findIn?] at found
    cases here : scope.find? name with
    | some other =>
      rw [here] at found
      cases found
      obtain ⟨value, cell, host⟩ := agrees.known name symbol here
      exact ⟨value, by rw [findIn?, cell, Option.some_or], host⟩
    | none =>
      rw [here] at found
      obtain ⟨value, cell, host⟩ := ih found
      exact ⟨value, by rw [findIn?, agrees.unknown name here, Option.none_or, cell], host⟩

/-- A name that is not found in scopes has no value in them. -/
theorem Locals.unknown {locals : Store} {scopes : List Scope} {stores : List Store}
    (related : Locals program locals scopes stores) {name : String}
    (missing : SymbolTable.findIn? name scopes = none) : findIn? name stores = none := by
  induction related with
  | nil => rfl
  | @cons scope cells outer stores agrees _ ih =>
    rw [SymbolTable.findIn?] at missing
    cases here : scope.find? name with
    | some other =>
      rw [here] at missing
      cases missing
    | none =>
      rw [here] at missing
      rw [findIn?, agrees.unknown name here, Option.none_or, ih missing]

/-- A local variable of the host that is that of no symbol in a scope may change. -/
theorem Agrees.put {locals : Store} {scope : Scope} {cells : Store}
    (agrees : Agrees program locals scope cells) {host : String} (value : Value)
    (other : ∀ symbol ∈ scope.symbols, hostName program symbol ≠ host) :
    Agrees program (Table.put host value locals) scope cells := by
  refine ⟨fun name symbol found => ?_, agrees.unknown⟩
  obtain ⟨given, cell, before⟩ := agrees.known name symbol found
  refine ⟨given, cell, ?_⟩
  rw [Table.find?_put_ne _ _ (other symbol (List.mem_of_find?_eq_some found)), before]

/-- A local variable of the host that is that of no symbol in scope may change. -/
theorem Locals.put {locals : Store} {scopes : List Scope} {stores : List Store}
    (related : Locals program locals scopes stores) {host : String} (value : Value)
    (other : ∀ symbol ∈ symbolsIn scopes, hostName program symbol ≠ host) :
    Locals program (Table.put host value locals) scopes stores := by
  induction related with
  | nil => exact .nil
  | @cons scope cells outer stores agrees _ ih =>
    refine .cons (agrees.put value fun symbol inside => other symbol ?_)
      (ih fun symbol inside => other symbol ?_)
    · exact List.mem_append_left _ inside
    · exact List.mem_append_right _ inside

/-- A new variable is one of the innermost scope and a local variable of the host. -/
theorem Locals.declare {locals : Store} {scope : Scope} {cells : Store} {outer : List Scope}
    {stores : List Store} (related : Locals program locals (scope :: outer) (cells :: stores))
    (symbol : Symbol) (value : Value)
    (other : ∀ known ∈ symbolsIn (scope :: outer), hostName program known ≠ hostName program symbol) :
    Locals program (Table.put (hostName program symbol) value locals)
      (⟨scope.name, symbol :: scope.symbols⟩ :: outer)
      (Table.put symbol.name value cells :: stores) := by
  cases related.put value other with
  | cons agrees others =>
    refine .cons ⟨fun name known found => ?_, fun name missing => ?_⟩ others
    · by_cases same : symbol.name = name
      · subst same
        have is : symbol = known := by simpa [Scope.find?] using found
        subst is
        exact ⟨value, Table.find?_put cells symbol.name value, Table.find?_put locals _ value⟩
      · have before : scope.find? name = some known := by
          simpa [Scope.find?, same] using found
        obtain ⟨given, cell, host⟩ := agrees.known name known before
        exact ⟨given, by rw [Table.find?_put_ne _ _ (Ne.symm same), cell], host⟩
    · have different : ¬symbol.name = name := by
        rintro rfl
        simp [Scope.find?] at missing
      have before : scope.find? name = none := by
        simpa [Scope.find?, different] using missing
      rw [Table.find?_put_ne _ _ (Ne.symm different), agrees.unknown name before]

/-- A variable in scope changes together with the local variable of the host. -/
theorem Locals.assign {locals : Store} {scopes : List Scope} {stores : List Store}
    (related : Locals program locals scopes stores)
    (separate : ((symbolsIn scopes).map (hostName program)).Nodup) {name : String}
    {symbol : Symbol} (found : SymbolTable.findIn? name scopes = some symbol) (value : Value) :
    ∃ changed, putIn? name value stores = some changed ∧
      Locals program (Table.put (hostName program symbol) value locals) scopes changed := by
  induction related with
  | nil => cases found
  | @cons scope cells outer stores agrees others ih =>
    have parts : ((scope.symbols ++ symbolsIn outer).map (hostName program)).Nodup := separate
    rw [List.map_append, List.nodup_append] at parts
    obtain ⟨inner, outside, disjoint⟩ := parts
    rw [SymbolTable.findIn?] at found
    cases here : scope.find? name with
    | some other =>
      rw [here] at found
      cases found
      obtain ⟨before, cell, _⟩ := agrees.known name symbol here
      have member := List.mem_of_find?_eq_some here
      refine ⟨Table.put name value cells :: stores, by rw [putIn?, cell], .cons ?_ ?_⟩
      · refine ⟨fun read known readFound => ?_, fun read missing => ?_⟩
        · by_cases same : read = name
          · subst same
            rw [here] at readFound
            cases readFound
            exact ⟨value, Table.find?_put cells read value, Table.find?_put locals _ value⟩
          · obtain ⟨given, readCell, host⟩ := agrees.known read known readFound
            have different : hostName program known ≠ hostName program symbol := by
              intro sameHost
              have is := List.inj_on_of_nodup_map inner (List.mem_of_find?_eq_some readFound) member
                sameHost
              have readName := List.find?_some readFound
              have ownName := List.find?_some here
              rw [is] at readName
              simp only [beq_iff_eq] at readName ownName
              exact same (readName.symm.trans ownName)
            exact ⟨given, by rw [Table.find?_put_ne _ _ same, readCell],
              by rw [Table.find?_put_ne _ _ different, host]⟩
        · have different : read ≠ name := by
            rintro rfl
            rw [here] at missing
            cases missing
          rw [Table.find?_put_ne _ _ different, agrees.unknown read missing]
      · refine others.put value fun known inside same => ?_
        exact disjoint _ (List.mem_map_of_mem member) _ (List.mem_map_of_mem inside) same.symm
    | none =>
      rw [here] at found
      obtain ⟨changed, put, after⟩ := ih outside found
      have member : symbol ∈ symbolsIn outer := by
        obtain ⟨_, around, inside, member⟩ := SymbolTable.mem_of_findIn? found
        exact List.mem_flatMap.2 ⟨around, inside, member⟩
      refine ⟨cells :: changed, ?_, .cons (agrees.put value fun known inside same => ?_) after⟩
      · rw [putIn?, agrees.unknown name here]
        simp only [put, Option.map_some]
      · exact disjoint _ (List.mem_map_of_mem inside) _ (List.mem_map_of_mem member) same

/-- A name without a variable in scope is changed in no scope. -/
theorem Locals.assign_unknown {locals : Store} {scopes : List Scope} {stores : List Store}
    (related : Locals program locals scopes stores) {name : String}
    (missing : SymbolTable.findIn? name scopes = none) (value : Value) :
    putIn? name value stores = none := by
  induction related with
  | nil => rfl
  | @cons scope cells outer stores agrees _ ih =>
    rw [SymbolTable.findIn?] at missing
    cases here : scope.find? name with
    | some other =>
      rw [here] at missing
      cases missing
    | none =>
      rw [here] at missing
      rw [putIn?, agrees.unknown name here]
      simp only [ih missing, Option.map_none]

/-- States whose modules agree: the variables of the module have the same values, the host has no
other global variables, and the worlds are the same. -/
structure Outside (program : Program Mark) (state : State σ) (host : Run.State σ) : Prop where
  /-- The worlds are the same. -/
  world : host.world = state.world
  /-- The variables of the module have the same values. -/
  value : ∀ symbol ∈ program.variables,
    Table.find? host.globals (hostName program symbol) = Table.find? state.globals symbol.name
  /-- The host has no other global variables. -/
  only : ∀ name value, Table.find? host.globals name = some value →
    ∃ symbol ∈ program.variables, hostName program symbol = name

/-- States whose modules agree, with the given scopes and local variables. -/
structure At (program : Program Mark) (scopes : List Store) (locals : Store) (state : State σ)
    (host : Run.State σ) : Prop where
  /-- The modules agree. -/
  outside : Outside program state host
  /-- The scopes are the given ones. -/
  scopes : state.scopes = scopes
  /-- The local variables of the host are the given ones. -/
  locals : host.locals = locals

/-- States whose modules agree and whose scopes agree with the local variables of the host. -/
structure Inside (program : Program Mark) (scopes : List Scope) (state : State σ)
    (host : Run.State σ) : Prop where
  /-- The modules agree. -/
  outside : Outside program state host
  /-- The scopes agree with the local variables. -/
  locals : Locals program host.locals scopes state.scopes

/-- Troubles that are the same, except that the host calls variables, functions and parameters by
their host names. -/
inductive SameTrouble (program : Program Mark) : Trouble → Trouble → Prop where
  /-- The troubles are the same. -/
  | same {trouble : Trouble} : SameTrouble program trouble trouble
  /-- A variable of the module has no value yet. -/
  | unbound {symbol : Symbol} (inside : symbol ∈ program.variables) :
    SameTrouble program (.unboundGlobal symbol.name) (.unboundGlobal (hostName program symbol))
  /-- A function is given too many arguments. -/
  | tooMany {function : Function Mark} (inside : function ∈ program.functions)
      (takes given : Nat) :
    SameTrouble program (.tooManyArguments function.name takes given)
      (.tooManyArguments (hostFunction program function).name takes given)
  /-- A function is given too few arguments. -/
  | tooFew {function : Function Mark} (inside : function ∈ program.functions) (given : Nat) :
    SameTrouble program
      (.tooFewArguments function.name ((function.params.map (·.name)).drop given))
      (.tooFewArguments (hostFunction program function).name
        ((hostFunction program function).params.drop given))

/-- The troubles in which two runs may stop side by side. -/
structure Stuck (program : Program Mark) (trouble hosts : Trouble) (state : State σ)
    (host : Run.State σ) : Prop where
  /-- The troubles are the same. -/
  trouble : SameTrouble program trouble hosts
  /-- The modules agree. -/
  outside : Outside program state host

/-- The same result in states that agree. -/
def Same {α : Type} (related : State σ → Run.State σ → Prop) (first second : α) (state : State σ)
    (host : Run.State σ) : Prop :=
  second = first ∧ related state host

/-- The same trouble belongs to the same class. -/
theorem SameTrouble.className {trouble hosts : Trouble} (same : SameTrouble program trouble hosts) :
    hosts.className = trouble.className := by
  cases same <;> rfl

/-- A variable of a module changes together with the global variable of the host. -/
theorem Outside.put (laid : Laid program) {state : State σ} {host : Run.State σ}
    (outside : Outside program state host) {symbol : Symbol} (inside : symbol ∈ program.variables)
    (value : Value) :
    Outside program { state with globals := Table.put symbol.name value state.globals }
      { host with globals := Table.put (hostName program symbol) value host.globals } := by
  refine ⟨outside.world, fun other member => ?_, fun name given found => ?_⟩
  · by_cases same : other = symbol
    · subst same
      simp only [Table.find?_put]
    · have hosts : hostName program other ≠ hostName program symbol := fun sameHost =>
        same (laid.symbol_eq (Laid.mem_symbolsOf.2 (.inl (Laid.variable_declared member)))
          (Laid.mem_symbolsOf.2 (.inl (Laid.variable_declared inside))) sameHost)
      have names : other.name ≠ symbol.name := fun sameName => by
        have distinct := List.pairwise_map.2 laid.typed.variables_names
        exact same (List.inj_on_of_nodup_map distinct member inside sameName)
      simp only [Table.find?_put_ne _ _ hosts, Table.find?_put_ne _ _ names]
      exact outside.value other member
  · by_cases same : name = hostName program symbol
    · exact ⟨symbol, inside, same.symm⟩
    · simp only [Table.find?_put_ne _ _ same] at found
      exact outside.only name given found

end Scoped

end Lag
