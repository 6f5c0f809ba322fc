import Lag.Proofs.Scoping.Executed

/-!
# Functions side by side

A call of a function gives the same with nested scopes as in the host, however deeply calls are
nested. The host starts a function with its parameters as local variables, under host names.
-/
namespace Lag

open Host (declaredAll declaredIn hostName)
open Run (Simulates Flow Store endOf endOf_bind endOf_get endOf_pure endOf_throw endOf_lift
  endOf_modify)
open Typing (Declares Params Registers Within functionSymbol paramSymbol)

variable {σ : Type} {program : Program Mark} {title : String}

/-- A key of a table that is made of keys and values has the value in its place. -/
theorem Table.find?_zip {α : Type} {keys : List String} {values : List α} (distinct : keys.Nodup)
    {index : Nat} {key : String} {value : α} (keyThere : keys[index]? = some key)
    (valueThere : values[index]? = some value) :
    Table.find? (keys.zip values) key = some value := by
  induction keys generalizing values index with
  | nil => cases keyThere
  | cons first rest ih =>
    rw [List.nodup_cons] at distinct
    cases values with
    | nil => cases valueThere
    | cons other values =>
      cases index with
      | zero =>
        simp only [List.getElem?_cons_zero, Option.some.injEq] at keyThere valueThere
        subst keyThere valueThere
        simp [Table.find?]
      | succ index =>
        rw [List.getElem?_cons_succ] at keyThere valueThere
        have different : (key == first) = false := by
          rw [beq_eq_false_iff_ne]
          rintro rfl
          exact distinct.1 (List.mem_of_getElem? keyThere)
        rw [List.zip_cons_cons, Table.find?, List.lookup_cons, different]
        exact ih distinct.2 keyThere valueThere

/-- What is no key of a table is not found in it. -/
theorem Table.find?_zip_none {α : Type} {keys : List String} {key : String} (other : key ∉ keys)
    (values : List α) : Table.find? (keys.zip values) key = none := by
  refine List.lookup_eq_none_iff.2 fun entry inside => ?_
  rw [bne_iff_ne]
  rintro rfl
  exact other (List.of_mem_zip inside).1

/-- The scope below parameters takes up their symbols. -/
theorem Typing.Params.registers {table next : SymbolTable} {params : List (Param Mark)}
    (takes : Params table params next) : Registers table (params.map paramSymbol) next := by
  induction takes with
  | nil => exact .nil
  | cons _ _ fresh _ ih => exact .cons fresh ih

/-- The symbols of parameters are those that their notes have. -/
theorem Typing.Params.symbols {table next : SymbolTable} {params : List (Param Mark)}
    (takes : Params table params next) :
    params.flatMap (·.note.symbol.toList) = params.map paramSymbol := by
  induction takes with
  | nil => rfl
  | cons _ bound _ _ ih =>
    rw [List.flatMap_cons, bound, ih]
    rfl

namespace Scoped

/-- Arguments are the values of parameters on both sides. -/
theorem agrees_params {symbols : List Symbol} (names : symbols.Pairwise (·.name ≠ ·.name))
    (hosts : (symbols.map (hostName program)).Nodup) {arguments : List Value}
    (size : arguments.length = symbols.length) (name : String) :
    Agrees program ((symbols.map (hostName program)).zip arguments) ⟨name, symbols.reverse⟩
      ((symbols.map (·.name)).zip arguments) := by
  refine ⟨fun read symbol found => ?_, fun read missing => ?_⟩
  · have inside := List.mem_reverse.1 (List.mem_of_find?_eq_some found)
    have named := List.find?_some found
    simp only [beq_iff_eq] at named
    obtain ⟨index, there⟩ := List.mem_iff_getElem?.1 inside
    have below : index < arguments.length := by
      rw [size]
      exact (List.getElem?_eq_some_iff.1 there).1
    have value := List.getElem?_eq_getElem below
    refine ⟨arguments[index], ?_, ?_⟩
    · refine Table.find?_zip (List.pairwise_map.2 names) ?_ value
      rw [List.getElem?_map, there, ← named]
      rfl
    · refine Table.find?_zip hosts ?_ value
      rw [List.getElem?_map, there]
      rfl
  · refine Table.find?_zip_none (fun inside => ?_) arguments
    obtain ⟨symbol, member, rfl⟩ := List.mem_map.1 inside
    have different := List.find?_eq_none.1 missing symbol (List.mem_reverse.2 member)
    simp at different

/-- The value that a body gives: none when it goes on to its end. -/
def flowValue : Flow → Value
  | .next => .none
  | .leave value => value

/-- How the body of a function ends with nested scopes. -/
theorem endOf_runFunction (frame : Frame σ) (function : Function Mark) (arguments : List Value)
    (state : State σ) :
    endOf (runFunction frame function arguments) state =
      match Run.bindArguments function.name (function.params.map (·.name)) arguments with
      | .error trouble => (.error trouble, state)
      | .ok scope =>
        match endOf (inScope [] (executeAll frame function.body)) { state with scopes := [scope] }
          with
        | (.error trouble, after) => (.error trouble, after)
        | (.ok flow, after) => (.ok (flowValue flow), { after with scopes := state.scopes }) := by
  unfold runFunction
  rw [endOf_bind, endOf_lift]
  cases Run.bindArguments function.name (function.params.map (·.name)) arguments with
  | error trouble => rfl
  | ok scope =>
    dsimp only
    rw [endOf_bind, endOf_get]
    dsimp only
    rw [endOf_bind, endOf_modify]
    dsimp only
    rw [endOf_bind]
    split <;> rename_i ends <;> rw [ends]
    rename_i flow after
    dsimp only
    rw [endOf_bind, endOf_modify]
    cases flow <;> rfl

end Scoped

/-- How the body of a function ends in the host. -/
theorem Run.endOf_runFunction (frame : Run.Frame σ) (function : Host.Function)
    (arguments : List Value) (state : Run.State σ) :
    endOf (Run.runFunction frame function arguments) state =
      match Run.bindArguments function.name function.params arguments with
      | .error trouble => (.error trouble, state)
      | .ok locals =>
        match endOf (Run.executeAll { frame with names := Run.localNames function } function.body)
          { state with locals := locals } with
        | (.error trouble, after) => (.error trouble, after)
        | (.ok flow, after) =>
          (.ok (Scoped.flowValue flow), { after with locals := state.locals }) := by
  unfold Run.runFunction
  rw [endOf_bind, endOf_lift]
  cases Run.bindArguments function.name function.params arguments with
  | error trouble => rfl
  | ok scope =>
    dsimp only
    rw [endOf_bind, endOf_get]
    dsimp only
    rw [endOf_bind, endOf_modify]
    dsimp only
    rw [endOf_bind]
    split <;> rename_i ends <;> rw [ends]
    rename_i flow after
    dsimp only
    rw [endOf_bind, endOf_modify]
    cases flow <;> rfl

namespace Scoped

variable {frame : Frame σ} {host : Run.Frame σ}

/-- Inside a function the local names are those of its symbols. -/
theorem Framed.enter (framed : Framed program title [] frame host) (laid : Laid program)
    {function : Function Mark} (inside : function ∈ program.functions) :
    Framed program title (declaredIn function) frame
      { host with names := Run.localNames (hostFunction program function) } where
  running := framed.running
  names := fun name => by
    rw [List.contains_iff_mem]
    exact mem_localNames laid inside name
  outer := framed.outer
  write := framed.write
  rounds := framed.rounds
  given := framed.given
  kind := framed.kind
  text := framed.text
  call := framed.call

/-- The body of a function runs on both sides once the parameters have values. -/
theorem steps_function (laid : Laid program) (framed : Framed program title [] frame host)
    {function : Function Mark} (inside : function ∈ program.functions) {arguments : List Value}
    (size : arguments.length = function.params.length) :
    ∃ scope, Steps program [scope] [scope] (inScope [] (executeAll frame function.body))
        (Run.executeAll { host with names := Run.localNames (hostFunction program function) }
          (hostFunction program function).body) ∧
      Agrees program ((hostFunction program function).params.zip arguments) scope
        ((function.params.map (·.name)).zip arguments) := by
  obtain ⟨base, within, defines⟩ := laid.typed.defines inside
  obtain @⟨around, _, _, takes, body, _⟩ := defines
  have setting : Setting program title base (declaredIn function) frame
      { host with names := Run.localNames (hostFunction program function) } :=
    ⟨laid, laid.local inside, framed.enter laid inside, within⟩
  have start := (Placed.start base (declaredIn function)).push ("fn " ++ function.name)
  obtain ⟨scope, below⟩ := takes.placed start
  have parts : around.scope :: around.outer = scope :: ([] ++ base.scopes) := below.scopes
  rw [← (List.cons.inj parts).1, ← List.append_nil (declaredAll function.body)] at below
  have closes := closes_body setting body (below.push "block")
  refine ⟨around.scope, closes.inScope, ?_⟩
  obtain ⟨_, symbols, names, _⟩ := takes.registers.names
  have is : around.scope = ⟨around.scope.name, (function.params.map paramSymbol).reverse⟩ := by
    have whole : around.scope.symbols = (function.params.map paramSymbol).reverse ++ [] := symbols
    rw [List.append_nil] at whole
    rw [← whole]
  have hosts : (hostFunction program function).params =
      (function.params.map paramSymbol).map (hostName program) := by
    rw [← takes.symbols, ← takes.hosts]
    exact List.map_map
  have own : (function.params.map (·.name)) =
      (function.params.map paramSymbol).map (·.name) := by
    rw [List.map_map]
    rfl
  rw [is, hosts, own]
  refine agrees_params names ?_ (by simpa using size) _
  have separate := (laid.local inside).distinct
  rw [declaredIn, takes.symbols, List.map_append] at separate
  exact (List.nodup_append.1 separate).1

/-- A function gives the same on both sides. -/
theorem keeps_function (laid : Laid program) (framed : Framed program title [] frame host)
    {function : Function Mark} (inside : function ∈ program.functions) (arguments : List Value)
    (stores : List Store) (locals : Store) :
    Keeps program stores locals (runFunction frame function arguments)
      (Run.runFunction host (hostFunction program function) arguments)
      fun value result => result = value := by
  intro state other given
  have takes : (hostFunction program function).params.length = function.params.length := by
    simp [hostFunction, Function.lower, Host.Function.link]
  rw [endOf_runFunction, Run.endOf_runFunction, Run.bindArguments, Run.bindArguments, takes,
    List.length_map]
  dsimp only
  by_cases many : function.params.length < arguments.length
  · rw [if_pos many, if_pos many]
    exact .troubles ⟨.tooMany inside _ _, given.outside⟩
  · rw [if_neg many, if_neg many]
    by_cases few : arguments.length < function.params.length
    · rw [if_pos few, if_pos few]
      exact .troubles ⟨.tooFew inside _, given.outside⟩
    · rw [if_neg few, if_neg few]
      have size : arguments.length = function.params.length := by omega
      obtain ⟨scope, steps, agrees⟩ := steps_function laid framed inside size
      have ends := steps
        { state with scopes := [(function.params.map (·.name)).zip arguments] }
        { other with locals := (hostFunction program function).params.zip arguments }
        ⟨⟨given.outside.world, given.outside.value, given.outside.only⟩, .cons agrees .nil⟩
      dsimp only
      revert ends
      generalize endOf _ _ = firstEnd
      generalize endOf _ _ = secondEnd
      intro ends
      cases ends with
      | @results first second after hostAfter moved =>
        obtain ⟨rfl, moved⟩ := moved
        have outside : Outside program after hostAfter := by
          cases second with
          | next => exact moved.outside
          | leave value => exact moved
        exact .results ⟨rfl, ⟨outside.world, outside.value, outside.only⟩, given.scopes,
          given.locals⟩
      | troubles stuck => exact .troubles stuck

/-- The text of a value is written by a function that every module starts with. -/
theorem keeps_text (laid : Laid program) (framed : Framed program title [] frame host)
    (value : Value) (stores : List Store) (locals : Store) :
    Keeps program stores locals (Run.lift (valueText value) : Eval σ String)
      (Run.writeValue host value) fun text result => result = .string text := by
  obtain ⟨base, within, _⟩ := laid.typed.within
  have setting : Setting program title base [] frame host :=
    ⟨laid, .nil program, framed, within⟩
  refine Simulates.passSecond (fun _ _ given => setting.reads_meaning
    (.entity (.given "isinstance")) rfl given.outside) ?_
  refine Simulates.passSecond (fun _ _ given => setting.reads_meaning
    (.entity (.kind "bool")) rfl given.outside) ?_
  have answer : host.call (.entity (.given "isinstance")) [value, .entity (.kind "bool")] =
      pure (.bool (Run.isMember "bool" value)) := by
    rw [framed.given]
    rfl
  rw [answer, pure_bind, valueText, Run.truth]
  cases Run.isMember "bool" value with
  | true => exact fun _ _ given => .results ⟨rfl, given⟩
  | false =>
    refine Simulates.passSecond (fun _ _ given => setting.reads_meaning
      (.entity (.kind "str")) rfl given.outside) ?_
    rw [framed.kind, Run.applyKind]
    intro state other given
    cases Run.hostText value with
    | error trouble => exact .troubles ⟨.same, given.outside⟩
    | ok text => exact .results ⟨rfl, given⟩

/-- Frames are related at every depth of calls. -/
theorem framed_at (laid : Laid program) (title : String) (record : Recorder σ) (rounds : Nat) :
    ∀ depth, Framed program title []
      ⟨program, callFunction program record rounds depth, textAt depth, record, rounds⟩
      ⟨[], Run.outerValue? (hostModule title program),
        Run.callValue (hostModule title program) (Run.observing (hostModule title program) record)
          rounds depth,
        Run.observing (hostModule title program) record, rounds⟩ := by
  intro depth
  induction depth with
  | zero =>
    refine ⟨rfl, by simp, rfl, rfl, rfl, fun _ _ => rfl, fun _ _ => rfl, ?_, ?_⟩
    · exact fun _ _ _ _ _ given => .troubles ⟨.same, given.outside⟩
    · exact fun _ _ _ _ _ _ _ _ given => .troubles ⟨.same, given.outside⟩
  | succ depth ih =>
    refine ⟨rfl, by simp, rfl, rfl, rfl, fun _ _ => rfl, fun _ _ => rfl, ?_, ?_⟩
    · intro value stores locals
      have text := keeps_text laid ih value stores locals
      exact Simulates.passSecond (fun _ _ _ => rfl) text
    · intro index function there values stores locals
      have inside := List.mem_of_getElem? there
      have hosted : (hostModule title program).functions[index]? =
          some (function.name, hostFunction program function) := by
        rw [functions_hostModule, List.getElem?_map, there]
        rfl
      dsimp only
      rw [callFunction, Setting.find_some laid inside, Run.callValue, hosted]
      exact keeps_function laid ih inside values stores locals

end Scoped

end Lag
