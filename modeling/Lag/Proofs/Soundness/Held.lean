import Lag.Proofs.Scoping.Framed
import Lag.Proofs.Scoping.Placed
import Lag.Proofs.Soundness.Ensures
import Lag.Proofs.Soundness.Operated
import Lag.Proofs.Typing.Occurring

/-!
# States that hold values of types

While a well typed program runs, every variable in scope has a value of its type, and so has every
variable of the module that got its first value. A contract says which variables of the module may
be without a value, which of these may be read all the same, and which functions may be called. A
run stops only in unforeseen troubles, or for a variable that is read early.

What may be read and called comes from the expressions: the variables of the module that they read,
and the functions that are reached from them, which are those that are called and those that the
bodies of reached functions call.
-/
namespace Lag

/-- The variable of the module that an expression is, if it is one. -/
def Expr.read? : Expr Mark → Option String
  | .read ident => if ident.inModule then some ident.name else none
  | _ => none

/-- Whether a name stands for a function of the module. -/
def Ident.isFunction (ident : Ident Mark) : Bool :=
  ident.note.symbol.any (·.kind == .function)

/-- The function of the module that an expression calls, if it calls one. -/
def Expr.call? : Expr Mark → Option String
  | .call _ callee _ => if callee.isFunction then some callee.name else none
  | _ => none

/-- The variables of the module among some expressions. -/
def readsOf (exprs : List (Expr Mark)) : List String := exprs.filterMap Expr.read?

/-- The functions of the module that some expressions call. -/
def callsOf (exprs : List (Expr Mark)) : List String := exprs.filterMap Expr.call?

/-- The functions that are reached from some expressions. -/
inductive Reaches (program : Program Mark) (exprs : List (Expr Mark)) : String → Prop where
  /-- A function that is called is reached. -/
  | called {name : String} (inside : name ∈ callsOf exprs) : Reaches program exprs name
  /-- A function that is called in the body of a reached function is reached. -/
  | through {function : Function Mark} {name : String} (inside : function ∈ program.functions)
      (reached : Reaches program exprs function.name)
      (calls : name ∈ callsOf (Stmt.allExprs function.body)) : Reaches program exprs name

/-- A set of functions that those in it do not leave holds what is reached from inside it. -/
theorem Reaches.mem {program : Program Mark} {exprs : List (Expr Mark)} {names : List String}
    (starts : ∀ name ∈ callsOf exprs, name ∈ names)
    (closed : ∀ function ∈ program.functions, function.name ∈ names →
      ∀ name ∈ callsOf (Stmt.allExprs function.body), name ∈ names) {name : String}
    (reached : Reaches program exprs name) : name ∈ names := by
  induction reached with
  | called inside => exact starts _ inside
  | through inside _ calls ih => exact closed _ inside ih _ calls

/-- The variables of the module that are read when some expressions are evaluated: those among
them, and those in the bodies of the functions that are reached. -/
def Needs (program : Program Mark) (exprs : List (Expr Mark)) (name : String) : Prop :=
  name ∈ readsOf exprs ∨ ∃ function ∈ program.functions,
    Reaches program exprs function.name ∧ name ∈ readsOf (Stmt.allExprs function.body)

open Run (Ensures Store Trouble endOf endOf_bind endOf_get endOf_pure endOf_throw endOf_lift
  endOf_modify)
open Typing (Owned Within)

variable {σ : Type} {program : Program Mark}

/-- What a run may count on. -/
structure Contract (σ : Type) where
  /-- The variables of the module that may be without a value. -/
  unset : String → Prop
  /-- The variables of the module that may be read before they have a value. -/
  early : String → Prop
  /-- The functions of the module that may be called. -/
  calls : String → Prop
  /-- What holds of the world. -/
  world : σ → Prop

/-- Values of the variables of a module, each of its type if there is one. -/
def HaveTypes (program : Program Mark) (values : List (Option Value)) : Prop :=
  List.Forall₂ (fun binding value =>
    ∀ given ∈ value, binding.note.symbol.map (·.type) = some given.type) program.bindings values

/-- Expressions that read and call what they may. -/
structure Contract.Covers (contract : Contract σ) (exprs : List (Expr Mark)) : Prop where
  /-- A variable that they read has a value, unless it may be read early. -/
  reads : ∀ name ∈ readsOf exprs, contract.unset name → contract.early name
  /-- They call what may be called. -/
  calls : ∀ name ∈ callsOf exprs, contract.calls name

/-- Fewer expressions read and call less. -/
theorem Contract.Covers.mono {contract : Contract σ} {exprs fewer : List (Expr Mark)}
    (covers : contract.Covers exprs) (part : ∀ expr ∈ fewer, expr ∈ exprs) :
    contract.Covers fewer := by
  refine ⟨fun name inside => covers.reads name ?_, fun name inside => covers.calls name ?_⟩
  · obtain ⟨expr, member, is⟩ := List.mem_filterMap.1 inside
    exact List.mem_filterMap.2 ⟨expr, part expr member, is⟩
  · obtain ⟨expr, member, is⟩ := List.mem_filterMap.1 inside
    exact List.mem_filterMap.2 ⟨expr, part expr member, is⟩

/-- A contract that functions and recorders keep to. -/
structure Contract.Kept (contract : Contract σ) (program : Program Mark)
    (record : Scoped.Recorder σ) : Prop where
  /-- A function that may be called reads and calls what it may. -/
  bodies : ∀ function ∈ program.functions, contract.calls function.name →
    contract.Covers (Stmt.allExprs function.body)
  /-- What holds of the world still holds after a line is taken down. -/
  record : ∀ line values world, HaveTypes program values → contract.world world →
    contract.world (record line values world)

namespace Scoped

/-! ## States -/

/-- Variables of the module with values of their types, in a world of which something holds. -/
structure Steady (program : Program Mark) (contract : Contract σ) (state : State σ) : Prop where
  /-- A value has the type of its variable. -/
  typed : ∀ symbol ∈ program.variables, ∀ value,
    Table.find? state.globals symbol.name = some value → value.type = symbol.type
  /-- A variable has a value unless it may be without one. -/
  given : ∀ symbol ∈ program.variables, Table.find? state.globals symbol.name = none →
    contract.unset symbol.name
  /-- What holds of the world. -/
  world : contract.world state.world

/-- A trouble in which a run may stop, and the state there. -/
structure Fault (program : Program Mark) (contract : Contract σ) (trouble : Trouble)
    (state : State σ) : Prop where
  /-- The trouble is unforeseen, or a variable is read early. -/
  allowed : trouble.Unforeseen ∨ ∃ name, contract.early name ∧ trouble = .unboundGlobal name
  /-- The variables of the module have values of their types. -/
  steady : Steady program contract state

/-- A scope whose variables have values of their types. -/
structure Fills (scope : Scope) (cells : Store) : Prop where
  /-- The variable of a symbol has a value of its type. -/
  known : ∀ name symbol, scope.find? name = some symbol →
    ∃ value, Table.find? cells name = some value ∧ value.type = symbol.type
  /-- A name without a symbol has no variable. -/
  unknown : ∀ name, scope.find? name = none → Table.find? cells name = none

/-- Scopes whose variables have values of their types. -/
abbrev Filled (scopes : List Scope) (stores : List Store) : Prop := List.Forall₂ Fills scopes stores

/-- A state whose variables in scope and in the module have values of their types. -/
structure Holds (program : Program Mark) (contract : Contract σ) (scopes : List Scope)
    (state : State σ) : Prop where
  /-- The module. -/
  steady : Steady program contract state
  /-- The scopes. -/
  filled : Filled scopes state.scopes

/-- More variables may be without a value. -/
theorem Steady.mono {contract looser : Contract σ} {state : State σ}
    (steady : Steady program contract state)
    (unset : ∀ name, contract.unset name → looser.unset name)
    (world : ∀ world, contract.world world → looser.world world) :
    Steady program looser state :=
  ⟨steady.typed, fun symbol inside missing => unset _ (steady.given symbol inside missing),
    world _ steady.world⟩

/-- What holds of the module does not depend on the scopes. -/
theorem Steady.scopes {contract : Contract σ} {state : State σ}
    (steady : Steady program contract state) (scopes : List Store) :
    Steady program contract { state with scopes := scopes } :=
  ⟨steady.typed, steady.given, steady.world⟩

/-- An unforeseen trouble may be met where the variables of the module have values of their
types. -/
theorem Fault.unforeseen {contract : Contract σ} {trouble : Trouble} {state : State σ}
    (unforeseen : trouble.Unforeseen) (steady : Steady program contract state) :
    Fault program contract trouble state :=
  ⟨.inl unforeseen, steady⟩

/-- A scope without symbols and variables. -/
theorem fills_nil (name : String) : Fills ⟨name, []⟩ [] :=
  ⟨fun _ _ found => (nomatch found), fun _ _ => rfl⟩

/-- A name that is found in scopes has a value of the type of its symbol. -/
theorem Filled.known {scopes : List Scope} {stores : List Store} (filled : Filled scopes stores)
    {name : String} {symbol : Symbol} (found : SymbolTable.findIn? name scopes = some symbol) :
    ∃ value, findIn? name stores = some value ∧ value.type = symbol.type := by
  induction filled with
  | nil => cases found
  | @cons scope cells outer stores fills _ ih =>
    rw [SymbolTable.findIn?] at found
    cases here : scope.find? name with
    | some other =>
      rw [here] at found
      cases found
      obtain ⟨value, cell, is⟩ := fills.known name symbol here
      exact ⟨value, by rw [findIn?, cell, Option.some_or], is⟩
    | none =>
      rw [here] at found
      obtain ⟨value, cell, is⟩ := ih found
      exact ⟨value, by rw [findIn?, fills.unknown name here, Option.none_or, cell], is⟩

/-- A name that is not found in scopes has no value in them. -/
theorem Filled.unknown {scopes : List Scope} {stores : List Store} (filled : Filled scopes stores)
    {name : String} (missing : SymbolTable.findIn? name scopes = none) :
    findIn? name stores = none := by
  induction filled with
  | nil => rfl
  | @cons scope cells outer stores fills _ ih =>
    rw [SymbolTable.findIn?] at missing
    cases here : scope.find? name with
    | some other =>
      rw [here] at missing
      cases missing
    | none =>
      rw [here] at missing
      rw [findIn?, fills.unknown name here, Option.none_or, ih missing]

/-- A variable that is declared is one of its scope. -/
theorem Fills.declare {scope : Scope} {cells : Store} (fills : Fills scope cells) (symbol : Symbol)
    {value : Value} (is : value.type = symbol.type) :
    Fills ⟨scope.name, symbol :: scope.symbols⟩ (Table.put symbol.name value cells) := by
  refine ⟨fun name known found => ?_, fun name missing => ?_⟩
  · by_cases same : symbol.name = name
    · subst same
      have own : symbol = known := by simpa [Scope.find?] using found
      subst own
      exact ⟨value, Table.find?_put cells symbol.name value, is⟩
    · have before : scope.find? name = some known := by simpa [Scope.find?, same] using found
      obtain ⟨given, cell, typed⟩ := fills.known name known before
      exact ⟨given, by rw [Table.find?_put_ne _ _ (Ne.symm same), cell], typed⟩
  · have different : ¬symbol.name = name := by
      rintro rfl
      simp [Scope.find?] at missing
    have before : scope.find? name = none := by simpa [Scope.find?, different] using missing
    rw [Table.find?_put_ne _ _ (Ne.symm different), fills.unknown name before]

/-- A variable that is changed keeps its type. -/
theorem Fills.assign {scope : Scope} {cells : Store} (fills : Fills scope cells) {name : String}
    {symbol : Symbol} (found : scope.find? name = some symbol) {value : Value}
    (is : value.type = symbol.type) : Fills scope (Table.put name value cells) := by
  refine ⟨fun read known readFound => ?_, fun read missing => ?_⟩
  · by_cases same : read = name
    · subst same
      rw [found] at readFound
      cases readFound
      exact ⟨value, Table.find?_put cells read value, is⟩
    · obtain ⟨given, cell, typed⟩ := fills.known read known readFound
      exact ⟨given, by rw [Table.find?_put_ne _ _ same, cell], typed⟩
  · have different : read ≠ name := by
      rintro rfl
      rw [found] at missing
      cases missing
    rw [Table.find?_put_ne _ _ different, fills.unknown read missing]

/-- A variable in scope keeps its type when it is changed. -/
theorem Filled.assign {scopes : List Scope} {stores : List Store} (filled : Filled scopes stores)
    {name : String} {symbol : Symbol} (found : SymbolTable.findIn? name scopes = some symbol)
    {value : Value} (is : value.type = symbol.type) :
    ∃ changed, putIn? name value stores = some changed ∧ Filled scopes changed := by
  induction filled with
  | nil => cases found
  | @cons scope cells outer stores fills others ih =>
    rw [SymbolTable.findIn?] at found
    cases here : scope.find? name with
    | some other =>
      rw [here] at found
      cases found
      obtain ⟨before, cell, _⟩ := fills.known name symbol here
      exact ⟨Table.put name value cells :: stores, by rw [putIn?, cell],
        .cons (fills.assign here is) others⟩
    | none =>
      rw [here] at found
      obtain ⟨changed, put, after⟩ := ih found
      refine ⟨cells :: changed, ?_, .cons fills after⟩
      rw [putIn?, fills.unknown name here]
      simp only [put, Option.map_some]

/-- A name without a variable in scope is changed in no scope. -/
theorem Filled.assign_unknown {scopes : List Scope} {stores : List Store}
    (filled : Filled scopes stores) {name : String}
    (missing : SymbolTable.findIn? name scopes = none) (value : Value) :
    putIn? name value stores = none := by
  induction filled with
  | nil => rfl
  | @cons scope cells outer stores fills _ ih =>
    rw [SymbolTable.findIn?] at missing
    cases here : scope.find? name with
    | some other =>
      rw [here] at missing
      cases missing
    | none =>
      rw [here] at missing
      rw [putIn?, fills.unknown name here]
      simp only [ih missing, Option.map_none]

/-- A variable of the module keeps its type when it is changed. -/
theorem Steady.put (laid : Laid program) {contract : Contract σ} {state : State σ}
    (steady : Steady program contract state) {symbol : Symbol} (inside : symbol ∈ program.variables)
    {value : Value} (is : value.type = symbol.type) :
    Steady program contract
      { state with globals := Table.put symbol.name value state.globals } := by
  have distinct := List.pairwise_map.2 laid.typed.variables_names
  refine ⟨fun other member given found => ?_, fun other member missing => ?_, steady.world⟩
  · by_cases same : other.name = symbol.name
    · have own := List.inj_on_of_nodup_map distinct member inside same
      subst own
      simp only [Table.find?_put, Option.some.injEq] at found
      exact found ▸ is
    · simp only [Table.find?_put_ne _ _ same] at found
      exact steady.typed other member given found
  · by_cases same : other.name = symbol.name
    · simp [same] at missing
    · simp only [Table.find?_put_ne _ _ same] at missing
      exact steady.given other member missing

/-- The values of the variables of a module have their types. -/
theorem Steady.haveTypes (laid : Laid program) {contract : Contract σ} {state : State σ}
    (steady : Steady program contract state) : HaveTypes program (valuesOf program state.globals) := by
  refine List.forall₂_map_right_iff.2 (List.forall₂_same.2 fun binding inside given found => ?_)
  obtain ⟨type, bound, known⟩ := laid.noted inside
  have is := steady.typed _ known given found
  rw [bound, is]
  rfl

end Scoped

end Lag
