import Lag.Proofs.Scoping.Called
import Lag.Proofs.Soundness.Flowing

/-!
# Calls answer with results of their types

A function that is called with values that fit its parameters has a result of its type. Its body
counts on the calls in it, which are one level further down, so the statement is made for every
depth of nested calls.
-/
namespace Lag

open Run (Ensures Flow Store endOf)
open Typing (Body Params Within paramSymbol)

variable {σ : Type} {program : Program Mark} {contract : Contract σ}

namespace Scoped

/-- Parameters that get values that fit them hold values of their types. -/
theorem fills_params {symbols : List Symbol} (names : symbols.Pairwise (·.name ≠ ·.name))
    {values : List Value} (suit : List.Forall₂ (fun symbol value => value.type = symbol.type)
      symbols values) (name : String) :
    Fills ⟨name, symbols.reverse⟩ ((symbols.map (·.name)).zip values) := by
  have distinct : (symbols.map (·.name)).Nodup := List.pairwise_map.2 names
  refine ⟨fun key symbol found => ?_, fun key missing => ?_⟩
  · have named : symbol.name = key := by simpa using List.find?_some found
    have inside : symbol ∈ symbols := List.mem_reverse.1 (List.mem_of_find?_eq_some found)
    obtain ⟨index, there⟩ := List.mem_iff_getElem?.1 inside
    obtain ⟨bound, is⟩ := List.getElem?_eq_some_iff.1 there
    have enough : index < values.length := suit.length_eq ▸ bound
    have typed := suit.get bound enough
    have keyThere : (symbols.map (·.name))[index]? = some key := by
      rw [List.getElem?_map, there, ← named]
      rfl
    have valueThere : values[index]? = some values[index] := by simp [enough]
    exact ⟨values[index], Table.find?_zip distinct keyThere valueThere, by simpa [is] using typed⟩
  · refine Table.find?_zip_none (fun inside => ?_) values
    obtain ⟨symbol, member, rfl⟩ := List.mem_map.1 inside
    have different := List.find?_eq_none.1 missing symbol (List.mem_reverse.2 member)
    simp at different

/-- Values that fit parameters have the types of their symbols. -/
theorem suit_symbols {table next : SymbolTable} {params : List (Param Mark)}
    (takes : Params table params next) {values : List Value}
    (suit : SuitAll (params.map fun param => (param.name, param.type.type)) values) :
    List.Forall₂ (fun symbol value => value.type = symbol.type) (params.map paramSymbol) values := by
  induction takes generalizing values with
  | nil =>
    obtain rfl := List.forall₂_nil_left_iff.1 suit
    exact .nil
  | cons isValue _ _ _ ih =>
    obtain ⟨value, rest, suits, others, rfl⟩ := List.forall₂_cons_left_iff.1 suit
    exact .cons (suits.exactly (Ty.ne_any isValue)) (ih others)

/-- The scopes below parameters are inside those of the module. -/
theorem nested_params {base table next : SymbolTable} {params : List (Param Mark)}
    (takes : Params table params next) {inner : List Scope}
    (nested : Nested base table (table.scope :: inner)) :
    Nested base next (next.scope :: inner) := by
  induction takes with
  | nil => exact nested
  | cons _ _ fresh _ ih =>
    have after := nested.define ⟨rfl, rfl, rfl⟩ fresh
    obtain ⟨_, rfl⟩ := SymbolTable.define?_eq_some_iff.1 fresh
    exact ih after

/-- A function of a well typed program gives a value of one type, or nothing. -/
theorem result_ne_any (laid : Laid program) {function : Function Mark}
    (inside : function ∈ program.functions) : function.signature.result ≠ .any := by
  obtain ⟨_, _, defines⟩ := laid.typed.defines inside
  obtain ⟨_, result, _, _, _⟩ := defines
  intro any
  rw [any] at result
  rcases result with impossible | impossible <;> cases impossible

/-- The body of a function is well typed in a scope of its parameters, which values that fit them
fill. -/
theorem opens_function (laid : Laid program) {function : Function Mark}
    (inside : function ∈ program.functions) {values : List Value}
    (suit : SuitAll function.signature.params values) :
    ∃ base around, Within program base ∧ around.Proper ∧ Nested base around [around.scope] ∧
      Body function.signature.result (around.push "block") function.body ∧
      (function.signature.result ≠ .void → Stmt.someLeaves function.body = true) ∧
      Fills around.scope ((function.params.map (·.name)).zip values) := by
  obtain ⟨base, within, defines⟩ := laid.typed.defines inside
  obtain @⟨around, _, _, takes, body, returns⟩ := defines
  have typed := suit_symbols takes suit
  obtain ⟨_, symbols, names, _⟩ := takes.registers.names
  have whole : around.scope = ⟨around.scope.name, (function.params.map paramSymbol).reverse⟩ := by
    have all : around.scope.symbols = (function.params.map paramSymbol).reverse ++ [] := symbols
    rw [List.append_nil] at all
    rw [← all]
  have fills := fills_params names typed around.scope.name
  rw [← whole, List.map_map] at fills
  exact ⟨base, around, within, takes.proper (within.proper.push ("fn " ++ function.name)),
    nested_params takes ((Nested.start base).push ("fn " ++ function.name)), body, returns, fills⟩

/-- A function that may be called with values that fit its parameters has a result of its type. -/
theorem gives_function (laid : Laid program) {frame : Frame σ} (ready : Ready program contract frame)
    {function : Function Mark} (inside : function ∈ program.functions)
    (called : contract.calls function.name) {values : List Value}
    (suit : SuitAll function.signature.params values) (stores : List Store) :
    Ensures (Settled program contract stores) (runFunction frame function values)
      (fun value state => value.type = function.signature.result ∧
        Settled program contract stores state) (Fault program contract) := by
  obtain ⟨base, around, within, proper, nested, body, returns, fills⟩ :=
    opens_function laid inside suit
  have size : values.length = function.params.length := by
    simpa [Function.signature] using suit.length_eq.symm
  have runs := (runs_body laid ready within (result_ne_any laid inside) body (proper.push "block")
    (nested.push "block") (ready.kept.bodies function inside called)).inScope (fills_nil "block")
  intro state given
  rw [endOf_runFunction, Run.bindArguments, List.length_map, if_neg (by omega), if_neg (by omega)]
  dsimp only
  have lands := runs { state with scopes := [(function.params.map (·.name)).zip values] }
    ⟨given.steady.scopes _, .cons fills .nil⟩
  revert lands
  generalize endOf _ _ = ending
  intro lands
  cases lands with
  | @result flow after passes =>
    cases flow with
    | next =>
      -- A body that goes on to its end is that of a function without a result.
      have void : function.signature.result = .void := by
        by_contra valued
        have leaves := returns valued
        rw [passes.1] at leaves
        cases leaves
      exact .result ⟨void.symm, passes.2.steady.scopes _, given.scopes⟩
    | leave value => exact .result ⟨passes.1, passes.2.scopes _, given.scopes⟩
  | trouble fault => exact .trouble fault

/-- A value has a text at every depth of nested calls. -/
theorem gives_text (depth : Nat) {value : Value} (isValue : value.type.isValue = true)
    (stores : List Store) :
    Ensures (Settled program contract stores) (textAt depth value : Eval σ String)
      (fun _ => Settled program contract stores) (Fault program contract) := by
  cases depth with
  | zero => exact Ensures.throw fun _ given => .unforeseen (by decide) given.steady
  | succ depth =>
    rw [textAt, valueText_eq (Run.ne_entity isValue)]
    refine Ensures.lift (fun _ _ _ given => given) fun trouble is _ given => ?_
    rcases Run.text_cases isValue with ⟨text, same⟩ | same
    · rw [same] at is
      cases is
    · rw [same] at is
      cases is
      exact .unforeseen (by decide) given.steady

/-- Frames can be counted on at every depth of nested calls. -/
theorem ready_at (laid : Laid program) {record : Recorder σ} (kept : contract.Kept program record)
    (rounds : Nat) : ∀ depth, Ready program contract
      ⟨program, callFunction program record rounds depth, textAt depth, record, rounds⟩ := by
  intro depth
  induction depth with
  | zero =>
    refine ⟨rfl, kept, fun value isValue => gives_text 0 isValue, ?_⟩
    exact fun _ _ _ _ _ _ => Ensures.throw fun _ given => .unforeseen (by decide) given.steady
  | succ depth ih =>
    refine ⟨rfl, kept, fun value isValue => gives_text (depth + 1) isValue, ?_⟩
    intro function inside called values suit stores
    dsimp only
    rw [callFunction, Setting.find_some laid inside]
    exact gives_function laid ih inside called suit stores

end Scoped

end Lag
