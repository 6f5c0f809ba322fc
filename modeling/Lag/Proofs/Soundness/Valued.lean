import Lag.Proofs.Scoping.Evaluated
import Lag.Proofs.Soundness.Held

/-!
# Expressions have values of their types

An expression that is well typed, that reads and calls what it may, and that is evaluated where all
variables hold values of their types, has a value of its type, or a float in place of an integer
that is converted, or it stops in a trouble that no check can foresee. The variables hold values of
their types afterwards.
-/
namespace Lag

open Run (Ensures Lands Yields endOf endOf_bind endOf_get endOf_pure endOf_throw endOf_lift
  endOf_modify)
open Typing (Arguments Fits HasType Operation Within functionSymbol)

variable {σ : Type} {α β : Type} {program : Program Mark} {contract : Contract σ}

namespace Typing

/-- The conjunction and the disjunction are for truth values. -/
theorem Operation.truth_of_logic {op : BinaryOp} {left right type : Ty}
    (fits : Operation op left right type) (logic : op = .and ∨ op = .or) :
    left = .bool ∧ right = .bool ∧ type = .bool := by
  cases fits with
  | truths _ => exact ⟨rfl, rfl, rfl⟩
  | integers impossible | floats impossible | order impossible | numbers impossible
  | same impossible => rcases logic with rfl | rfl <;> cases impossible
  | texts => rcases logic with impossible | impossible <;> cases impossible

end Typing

/-- The type of the value of an expression that has a type before a conversion. -/
def Expr.givenType (expr : Expr Mark) (type : Ty) : Ty :=
  if expr.note.widened then .float else type

/-- A value that fits a place of a type. -/
structure Value.Suits (value : Value) (place : Ty) : Prop where
  /-- It is no entity, and not nothing. -/
  isValue : value.type.isValue = true
  /-- It has the type of the place, unless that is the type of any value. -/
  type : value.type = place ∨ place = .any

/-- A type of values is not the type of any value. -/
theorem Ty.ne_any {type : Ty} (isValue : type.isValue = true) : type ≠ .any := by
  rintro rfl
  cases isValue

/-- A value that fits a place of one type has that type. -/
theorem Value.Suits.exactly {value : Value} {place : Ty} (suits : value.Suits place)
    (one : place ≠ .any) : value.type = place :=
  suits.type.resolve_right one

/-- Values that fit parameters. -/
abbrev SuitAll (params : List (String × Ty)) (values : List Value) : Prop :=
  List.Forall₂ (fun param value => value.Suits param.2) params values

namespace Scoped

/-- A state with the given scopes in which the variables of the module have values of their
types. -/
structure Settled (program : Program Mark) (contract : Contract σ) (stores : List Run.Store)
    (state : State σ) : Prop where
  /-- The module. -/
  steady : Steady program contract state
  /-- The scopes are the given ones. -/
  scopes : state.scopes = stores

/-- A frame whose calls and texts of values can be counted on. -/
structure Ready (program : Program Mark) (contract : Contract σ) (frame : Frame σ) : Prop where
  /-- The program of the frame. -/
  running : frame.program = program
  /-- The functions and the recorder keep to the contract. -/
  kept : contract.Kept program frame.record
  /-- A value has a text. -/
  text : ∀ value, value.type.isValue = true → ∀ stores,
    Ensures (Settled program contract stores) (frame.text value)
      (fun _ => Settled program contract stores) (Fault program contract)
  /-- A function that may be called has a result of its type. -/
  call : ∀ function ∈ program.functions, contract.calls function.name → ∀ values,
    SuitAll function.signature.params values → ∀ stores,
    Ensures (Settled program contract stores) (frame.call function.name values)
      (fun value state => value.type = function.signature.result ∧
        Settled program contract stores state) (Fault program contract)

/-- What gives a result of which something holds, and keeps all variables at values of their
types. -/
abbrev Gives (program : Program Mark) (contract : Contract σ) (scopes : List Scope)
    (action : Eval σ α) (after : α → Prop) : Prop :=
  Ensures (Holds program contract scopes) action
    (fun result state => after result ∧ Holds program contract scopes state)
    (Fault program contract)

namespace Gives

variable {scopes : List Scope} {after : α → Prop}

/-- A result that is given at once. -/
theorem pure {result : α} (holds : after result) :
    Gives program contract scopes (Pure.pure result) after :=
  Ensures.pure fun _ given => ⟨holds, given⟩

/-- A computation goes on with a result of which something holds. -/
theorem bind {action : Eval σ α} {next : α → Eval σ β} {last : β → State σ → Prop}
    (gives : Gives program contract scopes action after)
    (goes : ∀ result, after result → Ensures (Holds program contract scopes) (next result) last
      (Fault program contract)) :
    Ensures (Holds program contract scopes) (action >>= next) last (Fault program contract) :=
  Ensures.bind gives fun result state given => goes result given.1 state given.2

/-- An operation that yields a value of a type. -/
theorem lift {outcome : Run.Outcome Value} {type : Ty} (yields : Yields type outcome) :
    Gives program contract scopes (Run.lift outcome) (·.type = type) := by
  refine Ensures.lift ?_ ?_
  · rintro value rfl state given
    exact ⟨yields, given⟩
  · rintro trouble rfl state given
    exact .unforeseen yields given.steady

/-- What leaves the scopes as they are keeps the variables in them at values of their types. -/
theorem of_settled {action : Eval σ α} (gives : ∀ stores,
    Ensures (Settled program contract stores) action
      (fun result state => after result ∧ Settled program contract stores state)
      (Fault program contract)) : Gives program contract scopes action after := by
  intro state given
  refine (gives state.scopes state ⟨given.steady, rfl⟩).mono ?_ fun _ _ fault => fault
  rintro result later ⟨holds, settled⟩
  refine ⟨holds, settled.steady, ?_⟩
  rw [settled.scopes]
  exact given.filled

/-- A value is converted if that is noted. -/
theorem convert {mark : Mark} {action : Eval σ Value} {type : Ty}
    (gives : Gives program contract scopes action (·.type = type))
    (integer : mark.widened = true → type = .int) :
    Gives program contract scopes (Scoped.convert mark action)
      (·.type = if mark.widened then .float else type) := by
  unfold Scoped.convert
  cases widened : mark.widened with
  | true =>
    obtain rfl := integer widened
    exact gives.bind fun value is => lift (Run.yields_toFloat is)
  | false => exact gives

/-- An operator with both operands evaluated, or with the left one where that decides. -/
theorem binary {op : BinaryOp} {left right : Eval σ Value} {leftType rightType type : Ty}
    {integers : Bool} (flag : integers = decide (leftType = .int ∧ rightType = .int))
    (fits : Operation op leftType rightType type)
    (leftGives : Gives program contract scopes left (·.type = leftType))
    (rightGives : Gives program contract scopes right (·.type = rightType)) :
    Gives program contract scopes
      (do
        let value ← left
        match op, Run.truth value with
        | .and, false | .or, true => return value
        | .and, true | .or, false => right
        | op, _ =>
          let other ← right
          Run.lift (Run.operate (op.lower integers) value other)) (·.type = type) := by
  refine leftGives.bind fun value is => ?_
  have strict : Gives program contract scopes
      (right >>= fun other => Run.lift (Run.operate (op.lower integers) value other))
      (·.type = type) :=
    rightGives.bind fun other otherIs => by
      rw [flag]
      exact lift (Run.yields_operate fits is otherIs)
  cases op with
  | and =>
    obtain ⟨rfl, rfl, rfl⟩ := fits.truth_of_logic (.inl rfl)
    cases Run.truth value with
    | false => exact pure is
    | true => exact rightGives
  | or =>
    obtain ⟨rfl, rfl, rfl⟩ := fits.truth_of_logic (.inr rfl)
    cases Run.truth value with
    | false => exact rightGives
    | true => exact pure is
  | _ => exact strict

end Gives

section

variable {frame : Frame σ} {base table : SymbolTable} {inner : List Scope}

/-- A line is written in a world of which the same holds afterwards. -/
theorem Ready.writes (ready : Ready program contract frame) (laid : Laid program) (line : String) :
    Gives program contract inner (Scoped.writeLine frame line) fun _ => True := by
  refine Ensures.changes fun state given => ⟨trivial, ⟨?_, given.filled⟩⟩
  have steady := given.steady
  refine ⟨steady.typed, steady.given, ?_⟩
  rw [ready.running]
  exact ready.kept.record _ _ _ (steady.haveTypes laid) steady.world

/-- A built-in function has a result of its type. -/
theorem Ready.builtin (ready : Ready program contract frame) (laid : Laid program)
    (builtin : Builtin) {values : List Value} (suit : SuitAll builtin.signature.params values) :
    Gives program contract inner (Scoped.callBuiltin frame builtin (values.headD .none))
      (·.type = builtin.signature.result) := by
  have single : ∃ value, ∃ param : String × Ty, builtin.signature.params = [param] ∧
      values = [value] ∧ value.Suits param.2 := by
    cases builtin <;>
    · obtain ⟨value, rest, suits, others, rfl⟩ := List.forall₂_cons_left_iff.1 suit
      obtain rfl := List.forall₂_nil_left_iff.1 others
      exact ⟨value, _, rfl, rfl, suits⟩
  obtain ⟨value, param, takes, rfl, suits⟩ := single
  have text : Gives program contract inner (frame.text value) fun _ => True :=
    Gives.of_settled fun stores =>
      (ready.text value suits.isValue stores).weaken fun _ _ settled => ⟨trivial, settled⟩
  cases builtin <;> cases takes
  case print =>
    refine text.bind fun line _ => ?_
    exact (ready.writes laid line).bind fun _ _ => Gives.pure rfl
  case str => exact text.bind fun line _ => Gives.pure rfl
  case len => exact Gives.lift (Run.yields_length (suits.exactly (by simp)))
  case sqrt => exact Gives.lift (Run.yields_squareRoot (suits.exactly (by simp)))
  case floor => exact Gives.lift (Run.yields_floor (suits.exactly (by simp)))

/-- A variable has a value of its type, or is read early. -/
theorem gives_read (laid : Laid program) (within : Within program base)
    (nested : Nested base table inner) {ident : Ident Mark} {symbol : Symbol}
    (found : table.lookup? ident.name = some symbol) (readable : symbol.kind.isFunction = false)
    (bound : ident.note.symbol = some symbol) (covers : contract.Covers [.read ident]) :
    Gives program contract inner (readName ident.name) (·.type = symbol.type) := by
  intro state given
  rw [endOf_readName]
  rcases nested.reads within found readable with here | ⟨hidden, outside, named⟩
  · obtain ⟨value, cell, is⟩ := given.filled.known here
    rw [cell]
    exact .result ⟨is, given⟩
  · rw [given.filled.unknown hidden, Option.none_or, ← named]
    cases cell : Table.find? state.globals symbol.name with
    | some value => exact .result ⟨given.steady.typed symbol outside value cell, given⟩
    | none =>
      have inModule : ident.inModule = true := by
        obtain ⟨_, _, _, rfl⟩ := laid.variable_is outside
        rw [Ident.inModule, bound]
        rfl
      have isRead : symbol.name ∈ readsOf [.read ident] := by
        rw [named]
        simp [readsOf, Expr.read?, inModule]
      have early := covers.reads _ isRead (given.steady.given symbol outside cell)
      exact .trouble ⟨.inr ⟨_, early, rfl⟩, given.steady⟩

/-- What is called with values that fit has a result of its type. -/
theorem gives_call (laid : Laid program) (ready : Ready program contract frame)
    (within : Within program base) (nested : Nested base table inner) {callee : Ident Mark}
    {symbol : Symbol} (found : table.lookup? callee.name = some symbol)
    (bound : callee.note.symbol = some symbol) {signature : Signature}
    (signed : symbol.signature = some signature)
    (calls : callee.isFunction = true → contract.calls callee.name) {values : List Value}
    (suit : SuitAll signature.params values) :
    Gives program contract inner
      (match frame.program.functions.find? (·.name == callee.name),
          Builtin.ofName? callee.name with
        | some _, _ => frame.call callee.name values
        | none, some builtin => Scoped.callBuiltin frame builtin (values.headD .none)
        | none, none => throw (.unboundGlobal callee.name)) (·.type = signature.result) := by
  rw [ready.running]
  rcases nested.calls laid within found signed with
    ⟨function, inside, rfl, same⟩ | ⟨builtin, rfl, same, hidden⟩
  · cases signed
    have isFunction : callee.isFunction = true := by
      rw [Ident.isFunction, bound]
      rfl
    have called := calls isFunction
    rw [← same] at called ⊢
    rw [Setting.find_some laid inside]
    exact Gives.of_settled (ready.call function inside called values suit)
  · cases signed
    rw [← same, builtin.ofName?_name, Setting.find_none (same ▸ hidden)]
    exact ready.builtin laid builtin suit

mutual

/-- A well typed expression has a value of its type, converted if that is noted. -/
theorem gives_expr (laid : Laid program) (ready : Ready program contract frame)
    (within : Within program base) (nested : Nested base table inner) :
    ∀ {expr : Expr Mark} {type : Ty}, HasType table expr type → contract.Covers expr.parts →
      (expr.note.widened = true → type = .int) →
      Gives program contract inner (evaluate frame expr) (·.type = expr.givenType type)
  | .literal mark value _, _, .literal _, _, integer => by
    have gives : Gives program contract inner (Pure.pure value.toValue) (·.type = value.type) :=
      Gives.pure (by cases value <;> rfl)
    exact gives.convert integer
  | .read ident, _, .read found readable bound _, covers, integer =>
    (gives_read laid within nested found readable bound covers).convert integer
  | .unary mark .not operand, _, .not _ typed plain, covers, integer => by
    have inside := covers.mono fun part member => List.mem_cons_of_mem _ member
    have gives := gives_plain laid ready within nested typed plain inside
    have negated : Gives program contract inner
        (evaluate frame operand >>= fun value => Pure.pure (Value.bool (!Run.truth value)))
        (fun result => result.type = .bool) := gives.bind fun value _ => Gives.pure rfl
    exact negated.convert integer
  | .unary mark .negate operand, _, .negate _ number typed plain, covers, integer => by
    have inside := covers.mono fun part member => List.mem_cons_of_mem _ member
    have gives := gives_plain laid ready within nested typed plain inside
    exact Gives.convert
      (gives.bind fun value is => Gives.lift (Run.yields_negate number is)) integer
  | .binary mark op left right, _,
      @HasType.binary _ _ _ _ _ leftType rightType _ _ leftTyped leftPlain rightTyped rightPlain
        fits, covers, integer => by
    have first := covers.mono fun part member =>
      List.mem_cons_of_mem _ (List.mem_append_left _ member)
    have second := covers.mono fun part member =>
      List.mem_cons_of_mem _ (List.mem_append_right _ member)
    have leftGives := gives_plain laid ready within nested leftTyped leftPlain first
    have rightGives := gives_plain laid ready within nested rightTyped rightPlain second
    have flag : (left.isInt && right.isInt) = decide (leftType = .int ∧ rightType = .int) := by
      rw [Expr.isInt, Expr.isInt, leftTyped.noted, rightTyped.noted]
      exact Bool.eq_iff_iff.2 (by simp)
    exact (Gives.binary flag fits leftGives rightGives).convert integer
  | .call mark callee arguments, _, .call _ found bound signed fits, covers, integer => by
    have inside := covers.mono fun part member => List.mem_cons_of_mem _ member
    have gives := gives_arguments laid ready within nested fits inside
    have calls : callee.isFunction = true → contract.calls callee.name := fun isFunction =>
      covers.calls _ (by simp [Expr.parts, callsOf, Expr.call?, isFunction])
    exact Gives.convert (gives.bind fun values suit =>
      gives_call laid ready within nested found bound signed calls suit) integer

/-- A well typed expression that is not converted has a value of its type. -/
theorem gives_plain (laid : Laid program) (ready : Ready program contract frame)
    (within : Within program base) (nested : Nested base table inner) {expr : Expr Mark}
    {type : Ty} (typed : HasType table expr type) (plain : expr.note.widened = false)
    (covers : contract.Covers expr.parts) :
    Gives program contract inner (evaluate frame expr) (·.type = type) := by
  have gives := gives_expr laid ready within nested typed covers fun widened => by
    rw [plain] at widened
    cases widened
  rwa [Expr.givenType, plain] at gives

/-- An expression that fits a place has a value that fits it. -/
theorem gives_fits (laid : Laid program) (ready : Ready program contract frame)
    (within : Within program base) (nested : Nested base table inner) :
    ∀ {expr : Expr Mark} {place : Ty}, Fits table place expr → contract.Covers expr.parts →
      Gives program contract inner (evaluate frame expr) (·.Suits place)
  | _, _, .same typed isValue plain, covers =>
    (gives_plain laid ready within nested typed plain covers).weaken fun _ _ given =>
      ⟨⟨by rw [given.1, isValue], .inl given.1⟩, given.2⟩
  | _, _, .widened typed converted, covers => by
    have gives := gives_expr laid ready within nested typed covers fun _ => rfl
    rw [Expr.givenType, converted] at gives
    exact gives.weaken fun _ _ given => ⟨⟨by rw [given.1]; rfl, .inl given.1⟩, given.2⟩
  | _, _, .any typed isValue plain, covers =>
    (gives_plain laid ready within nested typed plain covers).weaken fun _ _ given =>
      ⟨⟨by rw [given.1, isValue], .inr rfl⟩, given.2⟩

/-- Arguments that fit parameters have values that fit them. -/
theorem gives_arguments (laid : Laid program) (ready : Ready program contract frame)
    (within : Within program base) (nested : Nested base table inner) :
    ∀ {params : List (String × Ty)} {arguments : List (Expr Mark)},
      Arguments table params arguments → contract.Covers (Expr.allParts arguments) →
      Gives program contract inner (evaluateAll frame arguments) (SuitAll params)
  | _, [], .nil, _ => Gives.pure .nil
  | _, _ :: _, .cons fits others, covers => by
    have here := covers.mono fun part member => List.mem_append_left _ member
    have later := covers.mono fun part member => List.mem_append_right _ member
    have first := gives_fits laid ready within nested fits here
    have rest := gives_arguments laid ready within nested others later
    exact first.bind fun value suits => rest.bind fun values suit => Gives.pure (.cons suits suit)

end

end

end Scoped

end Lag
