import Lag.Run.Given
import Lag.Table

/-!
# Running host modules

A module runs as the host runs it. Every function has one flat scope: a name is local to a
function when the function has it as a parameter or assigns to it, unless the function lists it as
a variable of the module; reading a local name without a value is a trouble. Any other name stands
for the variable of the module once that got its first value, and before for the last function of
the name, for what every module starts with, or for what the host gives; reading a name that stands
for nothing is a trouble.

Writing a line is not the end of the matter: whoever watches the script may act, and change the
module's own variables, before the script goes on. So a run carries a world along, and a written
line is handed over with the variables of the module.

Calls are nested up to a depth, and a loop with a test makes a limited number of rounds; both
limits are arguments of structural recursions, and every run is told its limits.
-/
namespace Lag.Run

/-- Variables with their values, in the order in which they got their first values. -/
abbrev Store := Table Value

/-- What a run carries along. -/
structure State (σ : Type) where
  /-- The variables of the module. -/
  globals : Store
  /-- The variables of the function that runs. -/
  locals : Store
  /-- The world around the script. -/
  world : σ

/-- A computation: it changes a state, and gives a result unless it meets trouble. -/
abbrev Task (τ : Type) := ExceptT Trouble (StateM τ)

/-- A run: a computation on what is carried along. -/
abbrev Eval (σ : Type) := Task (State σ)

/-- What happens when a script writes a line: the variables of the module and the world after
it. -/
abbrev Writer (σ : Type) := String → Store → σ → Store × σ

/-- What the body of a function runs in. -/
structure Frame (σ : Type) where
  /-- The local names. -/
  names : List String
  /-- What the other names stand for, unless they are variables with values. -/
  outer : String → Option Value
  /-- What a call of a value does. -/
  call : Value → List Value → Eval σ Value
  /-- What a written line does. -/
  write : Writer σ
  /-- The greatest number of rounds of a loop with a test. -/
  rounds : Nat

/-- Whether a body goes on or leaves its function. -/
inductive Flow where
  /-- It goes on. -/
  | next
  /-- It leaves the function with a value. -/
  | leave (value : Value)
  deriving Repr, Inhabited

variable {σ τ : Type}

/-- Take over the outcome of an operation. -/
def lift {α : Type} (outcome : Outcome α) : Task τ α := ExceptT.mk (pure outcome)

/-- What a name stands for. -/
def readName (frame : Frame σ) (name : String) : Eval σ Value := do
  let state ← get
  if frame.names.contains name then
    match state.locals.find? name with
    | some value => return value
    | none => throw (.unboundLocal name)
  else
    match (state.globals.find? name).or (frame.outer name) with
    | some value => return value
    | none => throw (.unboundGlobal name)

/-- Give a variable a value. -/
def writeName (frame : Frame σ) (name : String) (value : Value) : Eval σ Unit :=
  modify fun state =>
    if frame.names.contains name then { state with locals := Table.put name value state.locals }
    else { state with globals := Table.put name value state.globals }

/-- Write a line. -/
def writeLine (frame : Frame σ) (line : String) : Eval σ Unit :=
  modify fun state =>
    let (globals, world) := frame.write line state.globals state.world
    { state with globals := globals, world := world }

/-- Call what a name stands for with an argument, which is evaluated after the name. -/
def callOn (frame : Frame σ) (name : String) (argument : Eval σ Value) : Eval σ Value := do
  let callee ← readName frame name
  let value ← argument
  frame.call callee [value]

/-- Require that what a name stands for has a part. -/
def requirePart (frame : Frame σ) (name part : String) : Eval σ Unit := do
  let value ← readName frame name
  if hasPart part value then return () else throw (.part value part)

/-- Call a built-in function with an argument. -/
def callBuiltin (frame : Frame σ) (function : Builtin) (argument : Eval σ Value) :
    Eval σ Value :=
  match function with
  | .print => do
    requirePart frame "_lag_logger" "info"
    let text ← callOn frame "_lag_str" argument
    writeLine frame (← lift (hostText text))
    return .none
  | .str => callOn frame "_lag_str" argument
  | .len => callOn frame "len" argument
  | .sqrt => do
    requirePart frame "_lag_math" "sqrt"
    lift (squareRoot (← argument))
  | .floor => do
    requirePart frame "_lag_math" "floor"
    lift (floor (← argument))

/-- Write a value as a text, as a script does: truth values have words of their own. -/
def writeValue (frame : Frame σ) (value : Value) : Eval σ Value := do
  let test ← readName frame "isinstance"
  let kind ← readName frame "bool"
  if truth (← frame.call test [value, kind]) then
    return .string (if truth value then "true" else "false")
  else
    let conversion ← readName frame "str"
    frame.call conversion [value]

mutual

/-- Evaluate an expression. -/
def evaluate (frame : Frame σ) : Host.Expr → Eval σ Value
  | .int value => return .int value
  | .float value => return .float value
  | .text value => return .string value
  | .truth value => return .bool value
  | .read name => readName frame name
  | .not operand => do return .bool (!truth (← evaluate frame operand))
  | .negate operand => do lift (negate (← evaluate frame operand))
  | .binary op left right => do
    let left ← evaluate frame left
    match op, truth left with
    | .and, false | .or, true => return left
    | .and, true | .or, false => evaluate frame right
    | op, _ => lift (operate op left (← evaluate frame right))
  | .call function arguments => do
    let callee ← readName frame function
    let values ← evaluateAll frame arguments
    frame.call callee values
  | .builtin function arguments =>
    callBuiltin frame function do return (← evaluateAll frame arguments).headD .none
  | .toFloat value => callOn frame "float" (evaluate frame value)

/-- Evaluate expressions in order. -/
def evaluateAll (frame : Frame σ) : List Host.Expr → Eval σ (List Value)
  | [] => return []
  | expr :: rest => do
    let value ← evaluate frame expr
    return value :: (← evaluateAll frame rest)

end

/-- Make rounds as long as a test holds and the body goes on, at most a number of times. -/
def rounds (test : Task τ Value) (body : Task τ Flow) : Nat → Task τ Flow
  | 0 => throw .endless
  | left + 1 => do
    if truth (← test) then
      match ← body with
      | .next => rounds test body left
      | .leave value => return .leave value
    else return .next

/-- Make a number of rounds with a counter, as long as the body goes on. -/
def countRounds (step : Value → Task τ Flow) (counter : Int) : Nat → Task τ Flow
  | 0 => return .next
  | left + 1 => do
    match ← step (.int counter) with
    | .next => countRounds step (counter + 1) left
    | .leave value => return .leave value

/-- Make a round for each character of a text, as long as the body goes on. -/
def textRounds (step : Value → Task τ Flow) : List Char → Task τ Flow
  | [] => return .next
  | c :: rest => do
    match ← step (.string c.toString) with
    | .next => textRounds step rest
    | .leave value => return .leave value

/-- Make a round for each thing that a value holds, as long as the body goes on. -/
def roundsOver (step : Value → Task τ Flow) : Value → Task τ Flow
  | .entity (.span first bound) => countRounds step first (bound - first).toNat
  | .string text => textRounds step text.toList
  | value => throw (.iteration value)

mutual

/-- Run a statement. -/
def execute (frame : Frame σ) : Host.Stmt → Eval σ Flow
  | .assign name value => do
    writeName frame name (← evaluate frame value)
    return .next
  | .evaluate value => do
    let _ ← evaluate frame value
    return .next
  | .leave none => return .leave .none
  | .leave (some value) => do return .leave (← evaluate frame value)
  | .ifThen test body => do
    if truth (← evaluate frame test) then executeAll frame body else return .next
  | .ifElse test body otherwise => do
    if truth (← evaluate frame test) then executeAll frame body else executeAll frame otherwise
  | .ifElif test body otherwise => do
    if truth (← evaluate frame test) then executeAll frame body else execute frame otherwise
  | .whileLoop test body => rounds (evaluate frame test) (executeAll frame body) frame.rounds
  | .forLoop counter first bound body => do
    let callee ← readName frame "range"
    let first ← evaluate frame first
    let bound ← evaluate frame bound
    let step (value : Value) : Eval σ Flow := do
      writeName frame counter value
      executeAll frame body
    roundsOver step (← frame.call callee [first, bound])

/-- Run statements in order, until one leaves. -/
def executeAll (frame : Frame σ) : List Host.Stmt → Eval σ Flow
  | [] => return .next
  | stmt :: rest => do
    match ← execute frame stmt with
    | .next => executeAll frame rest
    | .leave value => return .leave value

end

mutual

/-- The names that a statement assigns to. -/
def assignedNames : Host.Stmt → List String
  | .assign name _ => [name]
  | .evaluate _ | .leave _ => []
  | .ifThen _ body => assignedNamesAll body
  | .ifElse _ body otherwise => assignedNamesAll body ++ assignedNamesAll otherwise
  | .ifElif _ body otherwise => assignedNamesAll body ++ assignedNames otherwise
  | .whileLoop _ body => assignedNamesAll body
  | .forLoop counter _ _ body => counter :: assignedNamesAll body

/-- The names that statements assign to. -/
def assignedNamesAll : List Host.Stmt → List String
  | [] => []
  | stmt :: rest => assignedNames stmt ++ assignedNamesAll rest

end

/-- The local names of a function. -/
def localNames (function : Host.Function) : List String :=
  function.params ++
    (assignedNamesAll function.body).eraseDups.filter (!function.globals.contains ·)

/-- Put arguments into the parameters of a function. -/
def bindArguments (name : String) (params : List String) (arguments : List Value) :
    Outcome Store :=
  let takes := params.length
  if takes < arguments.length then .error (.tooManyArguments name takes arguments.length)
  else if arguments.length < takes then
    .error (.tooFewArguments name (params.drop arguments.length))
  else .ok (params.zip arguments)

/-- The place of the last function of a name; the first argument is the place of the first
function. -/
def lastPlace? (name : String) : Nat → List (String × Host.Function) → Option Nat
  | _, [] => none
  | place, (_, function) :: rest =>
    (lastPlace? name (place + 1) rest).or (if function.name == name then some place else none)

/-- What a name of a module stands for, unless it is a variable with a value. -/
def outerValue? (program : Host.Module) (name : String) : Option Value :=
  match lastPlace? name 0 program.functions with
  | some place => some (.entity (.function place name))
  | none => (startValue? name).or (givenValue? name)

/-- Run the body of a function with arguments; the frame has the names around the function. -/
def runFunction (frame : Frame σ) (function : Host.Function) (arguments : List Value) :
    Eval σ Value := do
  let locals ← lift (bindArguments function.name function.params arguments)
  let outer := (← get).locals
  modify fun state => { state with locals := locals }
  let flow ← executeAll { frame with names := localNames function } function.body
  modify fun state => { state with locals := outer }
  match flow with
  | .next => return .none
  | .leave value => return value

/-- Call a value in a module, with a limit on rounds and with calls nested up to a depth. -/
def callValue (program : Host.Module) (write : Writer σ) (rounds depth : Nat) (callee : Value)
    (arguments : List Value) : Eval σ Value :=
  match callee, depth with
  | .entity (.function _ _), 0 | .entity .writing, 0 => throw .recursion
  | .entity (.function place name), depth + 1 =>
    match program.functions[place]? with
    | none => throw (.unboundGlobal name)
    | some (_, function) =>
      runFunction ⟨[], outerValue? program, callValue program write rounds depth, write, rounds⟩
        function arguments
  | .entity .writing, depth + 1 => do
    let _ ← lift (bindArguments "_lag_str" ["value"] arguments)
    writeValue ⟨[], outerValue? program, callValue program write rounds depth, write, rounds⟩
      (arguments.headD .none)
  | .entity (.given name), _ => lift (applyGiven name arguments)
  | .entity (.kind name), _ => lift (applyKind name arguments)
  | value, _ => throw (.call value)

/-- The limits of a run. -/
structure Limits where
  /-- The greatest number of rounds of a loop with a test. -/
  rounds : Nat := Nat.pow 10 15
  /-- The depth of nested calls. -/
  calls : Nat := 960
  deriving DecidableEq, Repr, Inhabited

/-- What the body of no function runs in: all names are names of the module. -/
def topFrame (program : Host.Module) (write : Writer σ) (limits : Limits) : Frame σ :=
  ⟨[], outerValue? program, callValue program write limits.rounds limits.calls, write,
    limits.rounds⟩

/-- Give variables their first values, in order. -/
def giveFirst (frame : Frame σ) : List (String × Host.Expr) → Eval σ Unit
  | [] => return ()
  | (name, value) :: rest => do
    writeName frame name (← evaluate frame value)
    giveFirst frame rest

/-- Give the variables of a module their first values, in order. -/
def initialise (program : Host.Module) (write : Writer σ) (limits : Limits := {}) : Eval σ Unit :=
  giveFirst (topFrame program write limits) program.firsts

/-- The function that a module exports under a name: the last one that has the name of the function
which is exported so. -/
def exported? (program : Host.Module) (entry : String) : Option Entity := do
  let (_, function) ← program.functions.find? fun (name, _) => name == entry
  let place ← lastPlace? function.name 0 program.functions
  return .function place function.name

/-- Call a function that a module exports. -/
def invoke (program : Host.Module) (write : Writer σ) (function : Entity)
    (arguments : List Value) (limits : Limits := {}) : Eval σ Value :=
  callValue program write limits.rounds limits.calls (.entity function) arguments

/-- The result of a run from variables of a module and a world, with both after it. -/
def Eval.runOn {α : Type} (action : Eval σ α) (globals : Store) (world : σ) :
    Except Trouble α × Store × σ :=
  let (result, state) := (ExceptT.run action).run ⟨globals, [], world⟩
  (result, state.globals, state.world)

end Lag.Run
