import Lag.Check.Mark
import Lag.Host.Lower
import Lag.Run.Machine

/-!
# Programs with nested scopes

A checked program runs by the names of its source: every block, every round of a loop and every
call has a scope of its own, a declaration makes a new variable in the innermost scope, and a name
stands for the variable of the innermost scope that has one, or else for the variable of the
module. Nothing is renamed and no scope is flattened. Operators, conversions and texts of values
are those of the host.

Calls and written texts go down one level, so a run with the same limits as one of the host meets
them at the same place.
-/
namespace Lag.Scoped

open Run (Store Flow Limits)

/-- What a run carries along. -/
structure State (σ : Type) where
  /-- The variables of the module that have a value. -/
  globals : Store
  /-- The scopes of the function that runs, the innermost first. -/
  scopes : List Store
  /-- The world around the script. -/
  world : σ

/-- A run. -/
abbrev Eval (σ : Type) := Run.Task (State σ)

/-- What happens when a script writes a line: the world takes it down, and may look at the
variables of the module. -/
abbrev Recorder (σ : Type) := String → List (Option Value) → σ → σ

/-- What the statements of a program run in. -/
structure Frame (σ : Type) where
  /-- The program. -/
  program : Program Mark
  /-- What a call of a function does. -/
  call : String → List Value → Eval σ Value
  /-- The text of a value. -/
  text : Value → Eval σ String
  /-- What a written line does. -/
  record : Recorder σ
  /-- The greatest number of rounds of a loop with a test. -/
  rounds : Nat

variable {σ : Type}

/-- The value of a name in the innermost scope that has it. -/
def findIn? (name : String) : List Store → Option Value
  | [] => none
  | scope :: outer => (Table.find? scope name).or (findIn? name outer)

/-- Change the value of a name in the innermost scope that has it, if there is one. -/
def putIn? (name : String) (value : Value) : List Store → Option (List Store)
  | [] => none
  | scope :: outer =>
    match Table.find? scope name with
    | some _ => some (Table.put name value scope :: outer)
    | none => (putIn? name value outer).map (scope :: ·)

/-- The value of a variable. -/
def readName (name : String) : Eval σ Value := do
  let state ← get
  match (findIn? name state.scopes).or (Table.find? state.globals name) with
  | some value => return value
  | none => throw (.unboundGlobal name)

/-- Change a variable. -/
def assign (name : String) (value : Value) : Eval σ Unit :=
  modify fun state =>
    match putIn? name value state.scopes with
    | some scopes => { state with scopes := scopes }
    | none => { state with globals := Table.put name value state.globals }

/-- Make a variable in the innermost scope, or in the module. -/
def declare (name : String) (value : Value) : Eval σ Unit :=
  modify fun state =>
    match state.scopes with
    | scope :: outer => { state with scopes := Table.put name value scope :: outer }
    | [] => { state with globals := Table.put name value state.globals }

/-- Run something in a scope of its own, with the variables that it starts with. -/
def inScope {α : Type} (scope : Store) (action : Eval σ α) : Eval σ α := do
  modify fun state => { state with scopes := scope :: state.scopes }
  let result ← action
  modify fun state => { state with scopes := state.scopes.tail }
  return result

/-- The values of the variables of a module, none for a variable without a value. -/
def valuesOf (program : Program Mark) (globals : Store) : List (Option Value) :=
  program.bindings.map fun binding => Table.find? globals binding.name

/-- Write a line. -/
def writeLine (frame : Frame σ) (line : String) : Eval σ Unit :=
  modify fun state =>
    { state with world := frame.record line (valuesOf frame.program state.globals) state.world }

/-- Call a built-in function. -/
def callBuiltin (frame : Frame σ) (function : Builtin) (value : Value) : Eval σ Value :=
  match function with
  | .print => do
    writeLine frame (← frame.text value)
    return .none
  | .str => return .string (← frame.text value)
  | .len => Run.lift (Run.length value)
  | .sqrt => Run.lift (Run.squareRoot value)
  | .floor => Run.lift (Run.floor value)

/-- Convert the value of an expression if that is noted. -/
def convert (mark : Mark) (value : Eval σ Value) : Eval σ Value :=
  if mark.widened then do Run.lift (Run.toFloat (← value)) else value

mutual

/-- Evaluate an expression. -/
def evaluate (frame : Frame σ) : Expr Mark → Eval σ Value
  | .literal mark value _ => convert mark (return value.toValue)
  | .read ident => convert ident.note (readName ident.name)
  | .unary mark .not operand => convert mark do
    return .bool (!Run.truth (← evaluate frame operand))
  | .unary mark .negate operand => convert mark do
    Run.lift (Run.negate (← evaluate frame operand))
  | .binary mark op left right => convert mark do
    let value ← evaluate frame left
    match op, Run.truth value with
    | .and, false | .or, true => return value
    | .and, true | .or, false => evaluate frame right
    | op, _ =>
      let other ← evaluate frame right
      Run.lift (Run.operate (op.lower (left.isInt && right.isInt)) value other)
  | .call mark callee arguments => convert mark do
    let values ← evaluateAll frame arguments
    match frame.program.functions.find? (·.name == callee.name), Builtin.ofName? callee.name with
    | some _, _ => frame.call callee.name values
    | none, some builtin => callBuiltin frame builtin (values.headD .none)
    | none, none => throw (.unboundGlobal callee.name)

/-- Evaluate expressions in order. -/
def evaluateAll (frame : Frame σ) : List (Expr Mark) → Eval σ (List Value)
  | [] => return []
  | expr :: rest => do
    let value ← evaluate frame expr
    return value :: (← evaluateAll frame rest)

end

mutual

/-- Run a statement. -/
def execute (frame : Frame σ) : Stmt Mark → Eval σ Flow
  | .declare binding => do
    declare binding.name (← evaluate frame binding.value)
    return .next
  | .assign _ target value => do
    assign target.name (← evaluate frame value)
    return .next
  | .leave _ none => return .leave .none
  | .leave _ (some value) => do return .leave (← evaluate frame value)
  | .evaluate _ value => do
    let _ ← evaluate frame value
    return .next
  | .block _ body => inScope [] (executeAll frame body)
  | .ifThen _ test _ body => do
    if Run.truth (← evaluate frame test) then inScope [] (executeAll frame body)
    else return .next
  | .ifElse _ test _ body otherwise => do
    if Run.truth (← evaluate frame test) then inScope [] (executeAll frame body)
    else execute frame otherwise
  | .whileLoop _ test _ body =>
    Run.rounds (evaluate frame test) (inScope [] (executeAll frame body)) frame.rounds
  | .forLoop _ counter first bound _ body => do
    let first ← evaluate frame first
    let bound ← evaluate frame bound
    let first ← Run.lift (Run.loopBound first)
    let bound ← Run.lift (Run.loopBound bound)
    let step (value : Value) : Eval σ Flow :=
      inScope [(counter, value)] (inScope [] (executeAll frame body))
    Run.countRounds step first (bound - first).toNat

/-- Run statements in order, until one leaves. -/
def executeAll (frame : Frame σ) : List (Stmt Mark) → Eval σ Flow
  | [] => return .next
  | stmt :: rest => do
    match ← execute frame stmt with
    | .next => executeAll frame rest
    | .leave value => return .leave value

end

/-- Run the body of a function with arguments. -/
def runFunction (frame : Frame σ) (function : Function Mark) (arguments : List Value) :
    Eval σ Value := do
  let params := function.params.map (·.name)
  let scope ← Run.lift (Run.bindArguments function.name params arguments)
  let outer := (← get).scopes
  modify fun state => { state with scopes := [scope] }
  let flow ← inScope [] (executeAll frame function.body)
  modify fun state => { state with scopes := outer }
  match flow with
  | .next => return .none
  | .leave value => return value

/-- The text of a value as a script writes it: the members of the class of truth values have words
of their own. -/
def valueText (value : Value) : Run.Outcome String :=
  if Run.isMember "bool" value then .ok (if Run.truth value then "true" else "false")
  else Run.hostText value

/-- A value that is no entity is written as a script writes it. -/
theorem valueText_eq {value : Value} (plain : ∀ entity, value ≠ .entity entity) :
    valueText value = Run.scriptText value := by
  cases value with
  | bool value => rfl
  | entity entity => exact absurd rfl (plain entity)
  | _ => simp [valueText, Run.isMember, Value.kindName, Run.scriptText]

/-- The text of a value, with calls nested up to a depth. -/
def textAt (depth : Nat) (value : Value) : Eval σ String :=
  match depth with
  | 0 => throw .recursion
  | _ + 1 => Run.lift (valueText value)

/-- Call a function of a program, with a limit on rounds and with calls nested up to a depth. -/
def callFunction (program : Program Mark) (record : Recorder σ) (rounds : Nat) :
    Nat → String → List Value → Eval σ Value
  | 0, _, _ => throw .recursion
  | depth + 1, name, arguments =>
    match program.functions.find? (·.name == name) with
    | none => throw (.unboundGlobal name)
    | some function =>
      runFunction ⟨program, callFunction program record rounds depth, textAt depth, record, rounds⟩
        function arguments

/-- What the first values of variables are evaluated in. -/
def topFrame (program : Program Mark) (record : Recorder σ) (limits : Limits) : Frame σ :=
  ⟨program, callFunction program record limits.rounds limits.calls, textAt limits.calls, record,
    limits.rounds⟩

/-- Declare variables of the module, in order. -/
def giveFirst (frame : Frame σ) : List (Binding Mark) → Eval σ Unit
  | [] => return ()
  | binding :: rest => do
    declare binding.name (← evaluate frame binding.value)
    giveFirst frame rest

/-- Declare the variables of a program, in order. -/
def initialise (program : Program Mark) (record : Recorder σ) (limits : Limits) : Eval σ Unit :=
  giveFirst (topFrame program record limits) program.bindings

/-- Call a function of a program. -/
def invoke (program : Program Mark) (record : Recorder σ) (limits : Limits) (name : String)
    (arguments : List Value) : Eval σ Value :=
  match program.functions.find? (·.name == name) with
  | some _ => callFunction program record limits.rounds limits.calls name arguments
  | none => throw (.unboundGlobal name)

end Lag.Scoped
