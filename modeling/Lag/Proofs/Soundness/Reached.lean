import Lag.Proofs.Soundness.First
import Lag.Proofs.Typing.Passing

/-!
# Expressions that are evaluated while first values are given

On the way through the first values of a program a run comes to expressions, to the bodies of the
functions that these call, and to the statements in them. What it comes to follows from the code
that runs and from how the parts before it ended, so there is one rule for each part of each
construct. The code that a run comes to is well typed in the scopes that are open there, and the
variables in them hold values of their types; so an expression that yields a value yields one of
its type.
-/
namespace Lag

open Run (Ensures Flow Limits Store Trouble endOf)
open Typing (Arguments Body Declarations Declares Fits Follows HasType Within counterSymbol
  proper_counterSymbol variableSymbol)

variable {σ : Type} {program : Program Mark}

/-- The type that is noted for the value of an expression: a float where it is converted. -/
def Expr.noted? (expr : Expr Mark) : Option Ty :=
  if expr.note.widened then some .float else expr.note.type

/-- The expression that a statement evaluates first. -/
def Stmt.first? : Stmt Mark → Option (Expr Mark)
  | .declare binding => some binding.value
  | .assign _ _ value | .leave _ (some value) | .evaluate _ value => some value
  | .ifThen _ test _ _ | .ifElse _ test _ _ _ | .whileLoop _ test _ _ => some test
  | .forLoop _ _ first _ _ _ => some first
  | .leave _ none | .block _ _ => none

/-- The test of a statement, and the body that runs where it holds. -/
def Stmt.tested? : Stmt Mark → Option (Expr Mark × List (Stmt Mark))
  | .ifThen _ test _ body | .ifElse _ test _ body _ | .whileLoop _ test _ body => some (test, body)
  | _ => none

namespace Scoped

/-- Code that a run comes to. -/
inductive Code where
  /-- Declarations of variables of the module. -/
  | firsts (bindings : List (Binding Mark))
  /-- An expression. -/
  | expr (expr : Expr Mark)
  /-- The arguments of a call. -/
  | arguments (arguments : List (Expr Mark))
  /-- A statement. -/
  | stmt (stmt : Stmt Mark)
  /-- Statements, one after the other. -/
  | body (body : List (Stmt Mark))
  /-- A loop with a counter, from a number on, with so many rounds left. -/
  | rounds (counter : String) (body : List (Stmt Mark)) (number : Int) (left : Nat)

/-- A point of a run. -/
structure Point (σ : Type) where
  /-- How deep calls may still be nested. -/
  depth : Nat
  /-- The code that runs from there. -/
  code : Code
  /-- The state there. -/
  state : State σ

/-- What code runs in whose calls may be nested up to a depth. -/
def frameAt (program : Program Mark) (record : Recorder σ) (rounds depth : Nat) : Frame σ :=
  ⟨program, callFunction program record rounds depth, textAt depth, record, rounds⟩

/-- A state with one more scope. -/
def State.push (state : State σ) (scope : Store) : State σ :=
  { state with scopes := scope :: state.scopes }

/-- What a run comes to on its way through the code at a point, with the frames for every depth of
nested calls. -/
inductive Enters (frame : Nat → Frame σ) : Point σ → Point σ → Prop where
  /-- The value of the next variable of the module. -/
  | first {depth : Nat} {binding : Binding Mark} {rest : List (Binding Mark)} {state : State σ} :
      Enters frame ⟨depth, .firsts (binding :: rest), state⟩ ⟨depth, .expr binding.value, state⟩
  /-- The other variables, once the next one has its value. -/
  | others {depth : Nat} {binding : Binding Mark} {rest : List (Binding Mark)}
      {state after : State σ}
      (given : endOf (evaluate (frame depth) binding.value >>= declare binding.name) state =
        (.ok (), after)) :
      Enters frame ⟨depth, .firsts (binding :: rest), state⟩ ⟨depth, .firsts rest, after⟩
  /-- An expression before it is converted. -/
  | narrow {depth : Nat} {expr : Expr Mark} {state : State σ} :
      Enters frame ⟨depth, .expr expr, state⟩ ⟨depth, .expr expr.narrow, state⟩
  /-- The operand of an operator. -/
  | operand {depth : Nat} {mark : Mark} {op : UnaryOp} {operand : Expr Mark} {state : State σ} :
      Enters frame ⟨depth, .expr (.unary mark op operand), state⟩ ⟨depth, .expr operand, state⟩
  /-- The left operand. -/
  | left {depth : Nat} {mark : Mark} {op : BinaryOp} {left right : Expr Mark} {state : State σ} :
      Enters frame ⟨depth, .expr (.binary mark op left right), state⟩ ⟨depth, .expr left, state⟩
  /-- The right operand, unless the left one decides. -/
  | right {depth : Nat} {mark : Mark} {op : BinaryOp} {left right : Expr Mark}
      {state after : State σ} {value : Value}
      (ends : endOf (evaluate (frame depth) left) state = (.ok value, after))
      (conjunction : op = .and → Run.truth value = true)
      (disjunction : op = .or → Run.truth value = false) :
      Enters frame ⟨depth, .expr (.binary mark op left right), state⟩ ⟨depth, .expr right, after⟩
  /-- The arguments of a call. -/
  | call {depth : Nat} {mark : Mark} {callee : Ident Mark} {arguments : List (Expr Mark)}
      {state : State σ} :
      Enters frame ⟨depth, .expr (.call mark callee arguments), state⟩
        ⟨depth, .arguments arguments, state⟩
  /-- The body of the function that is called, in a scope below that of its parameters. -/
  | function {depth : Nat} {mark : Mark} {callee : Ident Mark} {arguments : List (Expr Mark)}
      {state after : State σ} {values : List Value} {function : Function Mark} {scope : Store}
      (ends : endOf (evaluateAll (frame (depth + 1)) arguments) state = (.ok values, after))
      (found : (frame (depth + 1)).program.functions.find? (·.name == callee.name) = some function)
      (bound : Run.bindArguments function.name (function.params.map (·.name)) values = .ok scope) :
      Enters frame ⟨depth + 1, .expr (.call mark callee arguments), state⟩
        ⟨depth, .body function.body, { after with scopes := [[], scope] }⟩
  /-- The next argument. -/
  | argument {depth : Nat} {expr : Expr Mark} {rest : List (Expr Mark)} {state : State σ} :
      Enters frame ⟨depth, .arguments (expr :: rest), state⟩ ⟨depth, .expr expr, state⟩
  /-- The arguments after the next one. -/
  | arguments {depth : Nat} {expr : Expr Mark} {rest : List (Expr Mark)} {state after : State σ}
      {value : Value} (ends : endOf (evaluate (frame depth) expr) state = (.ok value, after)) :
      Enters frame ⟨depth, .arguments (expr :: rest), state⟩ ⟨depth, .arguments rest, after⟩
  /-- The next statement. -/
  | stmt {depth : Nat} {stmt : Stmt Mark} {rest : List (Stmt Mark)} {state : State σ} :
      Enters frame ⟨depth, .body (stmt :: rest), state⟩ ⟨depth, .stmt stmt, state⟩
  /-- The statements after the next one, if that goes on. -/
  | stmts {depth : Nat} {stmt : Stmt Mark} {rest : List (Stmt Mark)} {state after : State σ}
      (ends : endOf (execute (frame depth) stmt) state = (.ok .next, after)) :
      Enters frame ⟨depth, .body (stmt :: rest), state⟩ ⟨depth, .body rest, after⟩
  /-- What a statement evaluates first. -/
  | evaluates {depth : Nat} {stmt : Stmt Mark} {expr : Expr Mark} {state : State σ}
      (is : stmt.first? = some expr) :
      Enters frame ⟨depth, .stmt stmt, state⟩ ⟨depth, .expr expr, state⟩
  /-- The statements of a block. -/
  | block {depth : Nat} {mark : Mark} {body : List (Stmt Mark)} {state : State σ} :
      Enters frame ⟨depth, .stmt (.block mark body), state⟩ ⟨depth, .body body, state.push []⟩
  /-- The body of a conditional or a loop, where the test holds. -/
  | tested {depth : Nat} {stmt : Stmt Mark} {test : Expr Mark} {body : List (Stmt Mark)}
      {state after : State σ} {value : Value} (is : stmt.tested? = some (test, body))
      (ends : endOf (evaluate (frame depth) test) state = (.ok value, after))
      (truth : Run.truth value = true) :
      Enters frame ⟨depth, .stmt stmt, state⟩ ⟨depth, .body body, after.push []⟩
  /-- The other branch of a conditional, where the test fails. -/
  | otherwise {depth : Nat} {mark bodyMark : Mark} {test : Expr Mark} {body : List (Stmt Mark)}
      {otherwise : Stmt Mark} {state after : State σ} {value : Value}
      (ends : endOf (evaluate (frame depth) test) state = (.ok value, after))
      (truth : Run.truth value = false) :
      Enters frame ⟨depth, .stmt (.ifElse mark test bodyMark body otherwise), state⟩
        ⟨depth, .stmt otherwise, after⟩
  /-- A loop again, after a round that goes on. -/
  | again {depth : Nat} {mark bodyMark : Mark} {test : Expr Mark} {body : List (Stmt Mark)}
      {state between after : State σ} {value : Value}
      (ends : endOf (evaluate (frame depth) test) state = (.ok value, between))
      (truth : Run.truth value = true)
      (goesOn : endOf (inScope [] (executeAll (frame depth) body)) between = (.ok .next, after)) :
      Enters frame ⟨depth, .stmt (.whileLoop mark test bodyMark body), state⟩
        ⟨depth, .stmt (.whileLoop mark test bodyMark body), after⟩
  /-- The second bound of a loop with a counter. -/
  | bound {depth : Nat} {mark bodyMark : Mark} {counter : String} {first bound : Expr Mark}
      {body : List (Stmt Mark)} {state after : State σ} {value : Value}
      (ends : endOf (evaluate (frame depth) first) state = (.ok value, after)) :
      Enters frame ⟨depth, .stmt (.forLoop mark counter first bound bodyMark body), state⟩
        ⟨depth, .expr bound, after⟩
  /-- The rounds of a loop with a counter. -/
  | rounds {depth : Nat} {mark bodyMark : Mark} {counter : String} {first bound : Expr Mark}
      {body : List (Stmt Mark)} {state between after : State σ} {value other : Value}
      {number last : Int}
      (ends : endOf (evaluate (frame depth) first) state = (.ok value, between))
      (endsToo : endOf (evaluate (frame depth) bound) between = (.ok other, after))
      (starts : Run.loopBound value = .ok number) (stops : Run.loopBound other = .ok last) :
      Enters frame ⟨depth, .stmt (.forLoop mark counter first bound bodyMark body), state⟩
        ⟨depth, .rounds counter body number (last - number).toNat, after⟩
  /-- A round. -/
  | round {depth : Nat} {counter : String} {body : List (Stmt Mark)} {number : Int} {left : Nat}
      {state : State σ} :
      Enters frame ⟨depth, .rounds counter body number (left + 1), state⟩
        ⟨depth, .body body, (state.push [(counter, .int number)]).push []⟩
  /-- The other rounds, after a round that goes on. -/
  | roundsAfter {depth : Nat} {counter : String} {body : List (Stmt Mark)} {number : Int}
      {left : Nat} {state after : State σ}
      (goesOn : endOf (inScope [(counter, .int number)]
        (inScope [] (executeAll (frame depth) body))) state = (.ok .next, after)) :
      Enters frame ⟨depth, .rounds counter body number (left + 1), state⟩
        ⟨depth, .rounds counter body (number + 1) left, after⟩

/-- What a run comes to while the variables of a program get their first values. -/
def Initially (program : Program Mark) (record : Recorder σ) (limits : Limits) (world : σ) :
    Point σ → Prop :=
  Relation.ReflTransGen (Enters (frameAt program record limits.rounds))
    ⟨limits.calls, .firsts program.bindings, ⟨[], [], world⟩⟩

/-! ## Well typed code -/

/-- A point with code that is well typed in the scopes there, whose variables hold values of their
types. -/
inductive Point.Fits (program : Program Mark) (contract : Contract σ) : Point σ → Prop where
  /-- The variables of the module are declared one after the other. -/
  | firsts {table : SymbolTable} {declarations : List (Declaration Mark)}
      {bindings : List (Binding Mark)} {depth : Nat} {state : State σ}
      (typed : Declarations table declarations) (are : bindingsOf declarations = bindings)
      (part : ∀ binding ∈ bindings, binding ∈ program.bindings) (within : Within program table)
      (settled : Settled program contract [] state) :
      Fits program contract ⟨depth, .firsts bindings, state⟩
  /-- An expression has a type, and is converted only if that is an integer. -/
  | expr {base table : SymbolTable} {inner : List Scope} {expr : Expr Mark} {type : Ty}
      {depth : Nat} {state : State σ} (within : Within program base)
      (nested : Nested base table inner) (typed : HasType table expr type)
      (integer : expr.note.widened = true → type = .int)
      (holds : Holds program contract inner state) : Fits program contract ⟨depth, .expr expr, state⟩
  /-- Arguments fit parameters. -/
  | arguments {base table : SymbolTable} {inner : List Scope} {params : List (String × Ty)}
      {arguments : List (Expr Mark)} {depth : Nat} {state : State σ} (within : Within program base)
      (nested : Nested base table inner) (fits : Arguments table params arguments)
      (holds : Holds program contract inner state) :
      Fits program contract ⟨depth, .arguments arguments, state⟩
  /-- A statement of a function. -/
  | stmt {base table following : SymbolTable} {inner : List Scope} {result : Ty} {stmt : Stmt Mark}
      {depth : Nat} {state : State σ} (within : Within program base) (plain : result ≠ .any)
      (follows : Follows result table stmt following) (proper : table.Proper)
      (nested : Nested base table (table.scope :: inner))
      (holds : Holds program contract (table.scope :: inner) state) :
      Fits program contract ⟨depth, .stmt stmt, state⟩
  /-- Statements of a function. -/
  | body {base table : SymbolTable} {inner : List Scope} {result : Ty} {body : List (Stmt Mark)}
      {depth : Nat} {state : State σ} (within : Within program base) (plain : result ≠ .any)
      (follow : Body result table body) (proper : table.Proper)
      (nested : Nested base table (table.scope :: inner))
      (holds : Holds program contract (table.scope :: inner) state) :
      Fits program contract ⟨depth, .body body, state⟩
  /-- The body of a loop with a counter. -/
  | rounds {base table around : SymbolTable} {inner : List Scope} {result : Ty} {mark : Mark}
      {counter : String} {body : List (Stmt Mark)} {number : Int} {left depth : Nat}
      {state : State σ} (within : Within program base) (plain : result ≠ .any)
      (fresh : (table.push "for").define? (counterSymbol mark counter) = some around)
      (inside : Body result (around.push "block") body) (proper : table.Proper)
      (nested : Nested base table (table.scope :: inner))
      (holds : Holds program contract (table.scope :: inner) state) :
      Fits program contract ⟨depth, .rounds counter body number left, state⟩

/-- The parts of a program may do what they do where nothing is asked of them but types. -/
theorem covers_anytime {world : σ → Prop} (exprs : List (Expr Mark)) :
    (Contract.anytime (fun _ => True) world).Covers exprs :=
  ⟨fun _ _ _ => trivial, fun _ _ => trivial⟩

/-- The next variable of the module gets a value of its type. -/
theorem gives_first (laid : Laid program) {world : σ → Prop} {frame : Frame σ}
    (ready : Ready program (Contract.anytime (fun _ => True) world) frame) {table next : SymbolTable}
    {binding : Binding Mark} (inside : binding ∈ program.bindings) (within : Within program table)
    (declares : Declares true table binding next) :
    Ensures (Settled program (Contract.anytime (fun _ => True) world) [])
      (evaluate frame binding.value >>= declare binding.name)
      (fun _ => Settled program (Contract.anytime (fun _ => True) world) [])
      (Fault program (Contract.anytime (fun _ => True) world)) := by
  obtain @⟨type, _, isValue, _, fits, bound, _⟩ := declares
  have declared : variableSymbol true binding type ∈ program.variables :=
    List.mem_flatMap.2 ⟨binding, inside, by rw [bound]; simp⟩
  have evaluates := gives_fits laid ready within (Nested.start table) fits (covers_anytime _)
  refine Ensures.bind (evaluates.strengthen fun state given => ?_) fun value =>
    Ensures.changes fun state given => ?_
  · refine ⟨given.steady, ?_⟩
    rw [given.scopes]
    exact .nil
  · obtain ⟨globals, stores, world⟩ := state
    obtain ⟨suits, steady, scopes⟩ := given
    cases scopes
    exact ⟨steady.put laid declared (suits.exactly (Ty.ne_any isValue)), rfl⟩

/-- Recorders keep to what is asked at any time. -/
theorem kept_anytime {record : Recorder σ} {world : σ → Prop} (keeps : record.Keeps program world) :
    (Contract.anytime (fun _ => True) world).Kept program record :=
  ⟨fun function _ _ => covers_anytime (Stmt.allExprs function.body), keeps⟩

end Scoped

namespace Typing

/-- An expression that fits a place has a type, and is converted only if that is an integer. -/
theorem Fits.converts {table : SymbolTable} {place : Ty} {expr : Expr Mark}
    (fits : Fits table place expr) :
    ∃ type, HasType table expr type ∧ (expr.note.widened = true → type = .int) := by
  cases fits with
  | same typed _ plain | any typed _ plain =>
    exact ⟨_, typed, fun widened => by rw [plain] at widened; cases widened⟩
  | widened typed _ => exact ⟨_, typed, fun _ => rfl⟩

/-- An expression keeps its type without its conversion. -/
theorem HasType.narrow {table : SymbolTable} {expr : Expr Mark} {type : Ty}
    (typed : HasType table expr type) : HasType table expr.narrow type := by
  cases typed with
  | literal noted => exact .literal noted
  | read found readable bound noted => exact .read found readable bound noted
  | not noted truth plain => exact .not noted truth plain
  | negate noted number typed plain => exact .negate noted number typed plain
  | binary noted left leftPlain right rightPlain fits =>
    exact .binary noted left leftPlain right rightPlain fits
  | call noted found bound signed fits => exact .call noted found bound signed fits

/-- What a well typed statement evaluates first is well typed. -/
theorem Follows.first {result : Ty} {table following : SymbolTable} {stmt : Stmt Mark}
    (follows : Follows result table stmt following) {expr : Expr Mark}
    (is : stmt.first? = some expr) :
    ∃ type, HasType table expr type ∧ (expr.note.widened = true → type = .int) := by
  have bare {type : Ty} {first : Expr Mark} (typed : HasType table first type)
      (plain : first.note.widened = false) (same : some first = some expr) :
      ∃ type, HasType table expr type ∧ (expr.note.widened = true → type = .int) := by
    cases same
    exact ⟨_, typed, fun widened => by rw [plain] at widened; cases widened⟩
  cases follows with
  | declare declared =>
    obtain ⟨_, _, fits, _⟩ := declared
    cases is
    exact fits.converts
  | assign _ _ _ _ _ fits | leave _ fits =>
    cases is
    exact fits.converts
  | evaluate typed plain | ifThen typed plain | ifElse typed plain | whileLoop typed plain
  | forLoop typed plain => exact bare typed plain is
  | leaveNothing | block => cases is

/-- The test of a well typed statement is a truth value, and the body below it is well typed. -/
theorem Follows.tested {result : Ty} {table following : SymbolTable} {stmt : Stmt Mark}
    (follows : Follows result table stmt following) {test : Expr Mark} {body : List (Stmt Mark)}
    (is : stmt.tested? = some (test, body)) :
    HasType table test .bool ∧ test.note.widened = false ∧
      Body result (table.push "block") body := by
  cases follows with
  | ifThen truth plain inside | ifElse truth plain inside | whileLoop truth plain inside =>
    cases is
    exact ⟨truth, plain, inside⟩
  | _ => cases is

/-- The first of some well typed declarations of variables, and the others. -/
theorem Declarations.bindings {table : SymbolTable} {declarations : List (Declaration Mark)}
    (typed : Declarations table declarations) {binding : Binding Mark}
    {rest : List (Binding Mark)} (are : bindingsOf declarations = binding :: rest) :
    ∃ next others, Declares true table binding next ∧ Declarations next others ∧
      bindingsOf others = rest := by
  induction typed with
  | nil => cases are
  | function _ _ ih => exact ih are
  | binding first others _ =>
    cases are
    exact ⟨_, _, first, others, rfl⟩

end Typing

/-- Without its conversion an expression is not converted. -/
theorem Expr.narrow_plain (expr : Expr Mark) : expr.narrow.note.widened = false := by
  cases expr <;> rfl

/-- What is ensured of a result holds of the one that a computation gives. -/
theorem Run.Ensures.ends {τ α : Type} {before : τ → Prop} {action : Run.Task τ α}
    {after : α → τ → Prop} {fault : Trouble → τ → Prop}
    (ensures : Ensures before action after fault) {state next : τ} {value : α}
    (given : before state) (ends : endOf action state = (.ok value, next)) : after value next := by
  have lands := ensures state given
  rw [ends] at lands
  cases lands with
  | result holds => exact holds

/-- Arguments that are taken stand beside the parameters. -/
theorem Run.eq_zip_of_bindArguments {name : String} {params : List String} {values : List Value}
    {scope : Store} (bound : Run.bindArguments name params values = .ok scope) :
    scope = params.zip values := by
  rw [Run.bindArguments] at bound
  split at bound
  · cases bound
  · split at bound
    · cases bound
    · exact (Except.ok.inj bound).symm

namespace Scoped

namespace Point.Fits

variable {contract : Contract σ} {base table : SymbolTable} {inner : List Scope} {depth : Nat}
  {state : State σ}

/-- An expression that is not converted has a type. -/
theorem plain (within : Within program base) (nested : Nested base table inner)
    {expr : Expr Mark} {type : Ty} (typed : HasType table expr type)
    (plain : expr.note.widened = false) (holds : Holds program contract inner state) :
    Point.Fits program contract ⟨depth, .expr expr, state⟩ :=
  .expr within nested typed (fun widened => by rw [plain] at widened; cases widened) holds

/-- A body runs in a scope of its own. -/
theorem opened (within : Within program base) {result : Ty} (plain : result ≠ .any)
    {body : List (Stmt Mark)} (inside : Body result (table.push "block") body)
    (proper : table.Proper) (nested : Nested base table inner)
    (holds : Holds program contract inner state) :
    Point.Fits program contract ⟨depth, .body body, state.push []⟩ :=
  .body within plain inside (proper.push "block") (nested.push "block")
    ⟨holds.steady.scopes _, .cons (fills_nil "block") holds.filled⟩

/-- The body of a function that is called runs in a scope below that of its parameters, which hold
the arguments. -/
theorem function (laid : Laid program) (within : Within program base)
    (nested : Nested base table inner) {mark : Mark} {callee : Ident Mark}
    {arguments : List (Expr Mark)} {type : Ty}
    (typed : HasType table (.call mark callee arguments) type) {frame : Frame σ}
    (ready : Ready program contract frame) (covers : contract.Covers (Expr.allParts arguments))
    {after : State σ} {values : List Value} {called : Function Mark} {scope : Store}
    (holds : Holds program contract inner state)
    (ends : endOf (evaluateAll frame arguments) state = (.ok values, after))
    (found : program.functions.find? (·.name == callee.name) = some called)
    (bound : Run.bindArguments called.name (called.params.map (·.name)) values = .ok scope) :
    Point.Fits program contract
      ⟨depth, .body called.body, { after with scopes := [[], scope] }⟩ := by
  cases typed with
  | call noted isFound isBound signed fits =>
    have evaluates := gives_arguments laid ready within nested fits covers
    obtain ⟨suit, after⟩ := evaluates.ends holds ends
    rcases nested.calls laid within isFound signed with
      ⟨declared, inside, rfl, same⟩ | ⟨builtin, _, same, hidden⟩
    · cases signed
      have only := Setting.find_some laid inside
      rw [same] at only
      cases found.symm.trans only
      obtain ⟨base, around, within, proper, nested, body, _, fills⟩ :=
        opens_function laid inside suit
      cases Run.eq_zip_of_bindArguments bound
      refine .body within (result_ne_any laid inside) body (proper.push "block")
        (nested.push "block") ⟨after.steady.scopes _, ?_⟩
      exact .cons (fills_nil "block") (.cons fills .nil)
    · cases found.symm.trans (Setting.find_none (same ▸ hidden))

end Point.Fits

/-- When an expression that is not converted has yielded a value, variables still hold values of
their types. -/
theorem Holds.evaluated (laid : Laid program) {contract : Contract σ} {frame : Frame σ}
    (ready : Ready program contract frame) {base table : SymbolTable} {inner : List Scope}
    {expr : Expr Mark} {type : Ty} (within : Within program base)
    (nested : Nested base table inner) (typed : HasType table expr type)
    (plain : expr.note.widened = false) (covers : contract.Covers expr.parts)
    {state after : State σ} {value : Value} (holds : Holds program contract inner state)
    (ends : endOf (evaluate frame expr) state = (.ok value, after)) :
    Holds program contract inner after :=
  ((gives_plain laid ready within nested typed plain covers).ends holds ends).2

/-- A step into a part of well typed code leads to well typed code, in a state whose variables hold
values of their types. -/
theorem Enters.fits (laid : Laid program) {record : Recorder σ} {world : σ → Prop}
    (keeps : record.Keeps program world) {rounds : Nat} {point next : Point σ}
    (enters : Enters (frameAt program record rounds) point next)
    (fits : point.Fits program (Contract.anytime (fun _ => True) world)) :
    next.Fits program (Contract.anytime (fun _ => True) world) := by
  have ready (depth : Nat) : Ready program (Contract.anytime (fun _ => True) world)
      (frameAt program record rounds depth) := ready_at laid (kept_anytime keeps) rounds depth
  cases enters with
  | first =>
    cases fits with
    | firsts typed are part within settled =>
      obtain ⟨_, _, declares, _, _⟩ := typed.bindings are
      obtain ⟨_, _, suits, _⟩ := declares
      obtain ⟨_, isTyped, integer⟩ := suits.converts
      refine .expr within (Nested.start _) isTyped integer ⟨settled.steady, ?_⟩
      rw [settled.scopes]
      exact .nil
  | @others depth binding rest state after given =>
    cases fits with
    | firsts typed are part within settled =>
      obtain ⟨next, others, declares, later, same⟩ := typed.bindings are
      have inside := part _ List.mem_cons_self
      have evaluates := gives_first laid (ready depth) inside within declares
      exact .firsts later same (fun _ member => part _ (List.mem_cons_of_mem _ member))
        (within.declares inside declares) (evaluates.ends settled given)
  | narrow =>
    cases fits with
    | expr within nested typed integer holds =>
      exact .expr within nested typed.narrow
        (fun widened => by rw [Expr.narrow_plain] at widened; cases widened) holds
  | operand =>
    cases fits with
    | expr within nested typed integer holds =>
      cases typed with
      | not _ truth plain => exact .plain within nested truth plain holds
      | negate _ _ typed plain => exact .plain within nested typed plain holds
  | left =>
    cases fits with
    | expr within nested typed integer holds =>
      cases typed with
      | binary _ leftTyped leftPlain _ _ _ => exact .plain within nested leftTyped leftPlain holds
  | right ends conjunction disjunction =>
    cases fits with
    | expr within nested typed integer holds =>
      cases typed with
      | binary _ leftTyped leftPlain rightTyped rightPlain _ =>
        exact .plain within nested rightTyped rightPlain
          (holds.evaluated laid (ready _) within nested leftTyped leftPlain (covers_anytime _) ends)
  | call =>
    cases fits with
    | expr within nested typed integer holds =>
      cases typed with
      | call _ _ _ _ fits => exact .arguments within nested fits holds
  | @function depth _ _ _ _ _ _ _ _ ends found bound =>
    cases fits with
    | expr within nested typed integer holds =>
      exact .function laid within nested typed (ready (depth + 1)) (covers_anytime _) holds ends
        found bound
  | argument =>
    cases fits with
    | arguments within nested fits holds =>
      cases fits with
      | cons fits _ =>
        obtain ⟨_, typed, integer⟩ := fits.converts
        exact .expr within nested typed integer holds
  | @arguments depth _ _ _ _ _ ends =>
    cases fits with
    | arguments within nested fits holds =>
      cases fits with
      | cons fits others =>
        have evaluates := gives_fits laid (ready depth) within nested fits (covers_anytime _)
        exact .arguments within nested others (evaluates.ends holds ends).2
  | stmt =>
    cases fits with
    | body within plain follow proper nested holds =>
      cases follow with
      | cons first _ => exact .stmt within plain first proper nested holds
  | @stmts depth _ _ _ _ ends =>
    cases fits with
    | body within plain follow proper nested holds =>
      cases follow with
      | cons first others =>
        have runs := runs_stmt laid (ready depth) within plain first proper nested (covers_anytime _)
        exact .body within plain others (first.proper proper) (first.nested nested)
          (runs.ends holds ends).2
  | evaluates is =>
    cases fits with
    | stmt within plain follows proper nested holds =>
      obtain ⟨_, typed, integer⟩ := follows.first is
      exact .expr within nested typed integer holds
  | block =>
    cases fits with
    | stmt within plain follows proper nested holds =>
      cases follows with
      | block inside => exact .opened within plain inside proper nested holds
  | tested is ends truth =>
    cases fits with
    | stmt within plain follows proper nested holds =>
      obtain ⟨typed, notWidened, inside⟩ := follows.tested is
      exact .opened within plain inside proper nested
        (holds.evaluated laid (ready _) within nested typed notWidened (covers_anytime _) ends)
  | otherwise ends truth =>
    cases fits with
    | stmt within plain follows proper nested holds =>
      cases follows with
      | ifElse typed notWidened _ _ other =>
        exact .stmt within plain other proper nested
          (holds.evaluated laid (ready _) within nested typed notWidened (covers_anytime _) ends)
  | @again depth _ _ _ _ _ _ _ _ ends truth goesOn =>
    cases fits with
    | stmt within plain follows proper nested holds =>
      cases follows with
      | whileLoop typed notWidened inside =>
        have runs := (runs_body laid (ready depth) within plain inside (proper.push "block")
          (nested.push "block") (covers_anytime _)).inScope (fills_nil _)
        have between :=
          holds.evaluated laid (ready _) within nested typed notWidened (covers_anytime _) ends
        exact .stmt within plain (.whileLoop typed notWidened inside) proper nested
          (runs.ends between goesOn).2
  | bound ends =>
    cases fits with
    | stmt within plain follows proper nested holds =>
      cases follows with
      | forLoop firstTyped firstPlain boundTyped boundPlain _ _ _ =>
        exact .plain within nested boundTyped boundPlain
          (holds.evaluated laid (ready _) within nested firstTyped firstPlain (covers_anytime _) ends)
  | rounds ends endsToo starts stops =>
    cases fits with
    | stmt within plain follows proper nested holds =>
      cases follows with
      | forLoop firstTyped firstPlain boundTyped boundPlain _ fresh inside =>
        have between :=
          holds.evaluated laid (ready _) within nested firstTyped firstPlain (covers_anytime _) ends
        exact .rounds within plain fresh inside proper nested
          (between.evaluated laid (ready _) within nested boundTyped boundPlain (covers_anytime _)
            endsToo)
  | @round _ counter _ number =>
    cases fits with
    | @rounds _ _ _ _ _ mark _ _ _ _ _ _ within plain fresh inside proper nested holds =>
      have opened := (proper.push "for").define fresh (proper_counterSymbol mark counter)
      have counts := fills_counter fresh number
      exact .opened within plain inside opened (nested.counted fresh)
        ⟨holds.steady.scopes _, .cons counts holds.filled⟩
  | @roundsAfter depth counter _ number _ _ _ goesOn =>
    cases fits with
    | @rounds _ _ _ _ _ mark _ _ _ _ _ _ within plain fresh inside proper nested holds =>
      have opened := (proper.push "for").define fresh (proper_counterSymbol mark counter)
      have runs := runs_body laid (ready depth) within plain inside (opened.push "block")
        ((nested.counted fresh).push "block") (covers_anytime _)
      exact .rounds within plain fresh inside proper nested
        ((Runs.counted fresh runs _).ends holds goesOn).2

/-- What a run comes to while the variables of a program get their first values is well typed, in
states whose variables hold values of their types. -/
theorem Initially.fits (laid : Laid program) {record : Recorder σ} {world : σ → Prop}
    (keeps : record.Keeps program world) {limits : Limits} {before : σ} (holds : world before)
    {point : Point σ} (reached : Initially program record limits before point) :
    point.Fits program (Contract.anytime (fun _ => True) world) := by
  induction reached with
  | refl =>
    obtain ⟨table, within, typed⟩ := laid.typed.within
    refine .firsts typed (bindingsOf_declarations program) (fun _ member => member) within ?_
    exact ⟨⟨fun _ _ _ found => (nomatch found), fun _ _ _ => trivial, holds⟩, rfl⟩
  | tail _ enters ih => exact enters.fits laid keeps ih

/-- While the variables of a program get their first values every expression that yields a value
yields one of the type that is noted for it. -/
theorem Initially.yields (laid : Laid program) {record : Recorder σ} {world : σ → Prop}
    (keeps : record.Keeps program world) {limits : Limits} {before : σ} (holds : world before)
    {depth : Nat} {expr : Expr Mark} {state after : State σ} {value : Value}
    (reached : Initially program record limits before ⟨depth, .expr expr, state⟩)
    (ends : endOf (evaluate (frameAt program record limits.rounds depth) expr) state =
      (.ok value, after)) :
    expr.noted? = some value.type := by
  cases reached.fits laid keeps holds with
  | expr within nested typed integer inside =>
    have ready := ready_at laid (kept_anytime keeps) limits.rounds depth
    have evaluates := gives_expr laid ready within nested typed (covers_anytime _) integer
    have is := (evaluates.ends inside ends).1
    rw [is, Expr.noted?, Expr.givenType, typed.noted]
    split <;> rfl

end Scoped

end Lag
