import Lag.Run.Machine

/-!
# Running scripts of the host language

A script may be written in the host language itself. What it does is left to the host: from one line
that it writes to the next it may change the variables of its module and the things that all scripts
share, and in the end it gives a value or raises something.

A module of a Lag program runs as it is written unless what it uses of the host was replaced, which
can only happen while it is not running or while it writes a line. From then on it is left to the
host, too.
-/
namespace Lag.Run

/-- What the host raises in a run that is left to it. -/
structure Raised where
  /-- The class. -/
  kind : String
  /-- The wording. -/
  message : String
  /-- The last line of the script that was reached, zero for none. -/
  line : Nat := 0
  /-- Whether it passes whoever watches for errors of scripts: it is no error, or it is raised where
  nobody watches. -/
  escapes : Bool := false
  deriving DecidableEq, Repr, Inhabited

/-- What stops a run of a module. -/
inductive Accident where
  /-- A program in Lag meets trouble. -/
  | trouble (trouble : Trouble)
  /-- The host raises something. -/
  | raised (error : Raised)
  deriving Repr, Inhabited

namespace Accident

/-- An accident by its class and wording. -/
def display : Accident → String
  | .trouble met => met.display
  | .raised error => error.kind ++ ": " ++ error.message

/-- The class of an accident. -/
def className : Accident → String
  | .trouble met => met.className
  | .raised error => error.kind

/-- The wording of an accident. -/
def message : Accident → String
  | .trouble met => met.message
  | .raised error => error.message

/-- The last line of a script of the host language that was reached, zero for none. -/
def line : Accident → Nat
  | .trouble _ => 0
  | .raised error => error.line

/-- Whether an accident passes whoever watches for errors of scripts. -/
def escapes : Accident → Bool
  | .trouble _ => false
  | .raised error => error.escapes

end Accident

/-- What is asked of a module. -/
inductive Request where
  /-- To run its text from the first line to the last. -/
  | body
  /-- To give its variables their first values. -/
  | initial
  /-- To call one of its functions with arguments. -/
  | call (function : Entity) (arguments : List Value)
  deriving Repr, Inhabited

/-- What the host makes of a run, from one written line to the next. -/
inductive Course where
  /-- It ends. The variables of the module and the shared things are left. -/
  | done (outcome : Except Raised Value) (globals shared : Store)
  /-- It writes a line. It resumes with the variables and the shared things as they are then. -/
  | line (text : String) (globals shared : Store) (resume : Store → Store → Course)

instance : Inhabited Course := ⟨.done (.ok .none) [] []⟩

/-- A script of the host language as a module. What it exports is found when its text has run, and
is kept among its variables from then on. -/
structure Native where
  /-- What it does on a request, with its variables and the shared things. -/
  run : Request → Store → Store → Course
  /-- The names that it exports, by its variables. -/
  exports : Store → List String
  /-- What it exports under a name. -/
  find? : Store → String → Option Entity
  deriving Inhabited

/-- Where a run meets the world. -/
structure Port (σ : Type) where
  /-- What happens when it writes a line. -/
  write : Writer σ
  /-- The things that all scripts share. -/
  shared : σ → Store
  /-- Set the things that all scripts share. -/
  share : Store → σ → σ

/-- A run of a module: with the variables and the world that it begins with, what it comes to, and
the variables and the world that it leaves. -/
abbrev Part (σ : Type) := Store → σ → Except Accident Value × Store × σ

variable {σ : Type}

/-- Follow the course of a run, in a world. -/
def Course.follow (port : Port σ) : Course → σ → Except Accident Value × Store × σ
  | .done outcome globals shared, world =>
    (outcome.mapError .raised, globals, port.share shared world)
  | .line text globals shared resume, world =>
    let (globals, world) := port.write text globals (port.share shared world)
    (resume globals (port.shared world)).follow port world

/-- Run a script of the host language. -/
def Native.serve (native : Native) (request : Request) (port : Port σ) : Part σ :=
  fun globals world => (native.run request globals (port.shared world)).follow port world

/-- Run a module of a Lag program. Its text does nothing but name its functions. -/
def serve (program : Host.Module) (request : Request) (write : Writer σ) : Eval σ Value :=
  match request with
  | .body => return .none
  | .initial => do
    initialise program write
    return .none
  | .call function arguments => invoke program write function arguments

/-- Write lines as long as nothing was replaced, and note the variables after each line, the last
ones first. -/
def watching (isReplaced : Store → Bool) (port : Port σ) : Writer (σ × List Store) :=
  fun line globals (world, past) =>
    if isReplaced (port.shared world) then (globals, world, past)
    else
      let (globals, world) := port.write line globals world
      (globals, world, globals :: past)

/-- Run a part of a program as long as nothing that it uses was replaced. What it does once something
is depends on the variables that it began with and on those after each line; what it would have done
after the last line, with nothing replaced, does not take place. -/
def guarded (isReplaced : Store → Bool) (further : Store → List Store → Store → Course)
    (part : Writer (σ × List Store) → Eval (σ × List Store) Value) (port : Port σ) : Part σ :=
  fun begun world =>
    let (outcome, globals, world, past) :=
      (part (watching isReplaced port)).runOn begun (world, [])
    if isReplaced (port.shared world) then
      (further begun past (port.shared world)).follow port world
    else (outcome.mapError .trouble, globals, world)

end Lag.Run
