import Lag.Event
import Lag.Files
import Lag.Log
import Lag.World.Content

/-!
# The world of scripts

Scripts are built into modules. A module has a version, which no other module has; later modules
have greater versions. At most one module of an identifier is active and answers calls. Scripts
whose modules became active are stored under their identifiers, and identifiers whose scripts were
deleted are remembered until they are loaded again. Scripts in the host language also share things
beside their modules.

Around this engine there are files, the watch on files, and what was announced: events, lines that
scripts wrote, and entries of the journal. Whoever uses the world may add a part of their own, and
may act at two moments: after a module was compiled, and after a script wrote a line. The host
language is left open: it comes with the hooks.
-/
namespace Lag

/-- A module that was built for a script. -/
structure Module where
  /-- The identifier of the script. -/
  id : String
  /-- The version. -/
  version : Nat
  /-- What it holds. -/
  content : Content
  /-- The variables with their values. -/
  globals : Run.Store := []
  /-- Whether the module is active. -/
  isLoaded : Bool := false
  deriving Inhabited

/-- The modules and scripts. -/
structure Engine where
  /-- The greatest number of failures of a check. -/
  limit : Nat := 20
  /-- All modules: the module of version `n + 1` at place `n`. -/
  modules : Array Module := #[]
  /-- The versions of the active modules. -/
  active : Table Nat := []
  /-- The stored scripts. -/
  stored : Table Script := []
  /-- The identifiers that were deleted. -/
  deleted : List String := []
  /-- The things that scripts in the host language share. -/
  shared : Run.Store := []
  deriving Inhabited

/-- What was announced and not yet collected. -/
structure Outbox where
  /-- The events. -/
  events : Array Event := #[]
  /-- The lines that scripts wrote, with their identifiers. -/
  lines : Array (String × String) := #[]
  /-- The entries of the journal. -/
  entries : Array Log.Entry := #[]
  deriving Repr, Inhabited

/-- Why an operation fails. -/
inductive Fault where
  /-- A source text does not compile. -/
  | compile (fault : CompileFault)
  /-- The variables of a module could not get their first values. -/
  | initial (id : String) (version : Nat) (accident : Run.Accident)
  /-- No module is active. -/
  | notLoaded (id : String)
  /-- A module does not export a function. -/
  | noEntry (id entry : String) (available : List String)
  /-- A function met an accident. -/
  | script (id entry : String) (accident : Run.Accident)
  /-- An accident that passes whoever watches for errors of scripts. -/
  | escaped (accident : Run.Accident)
  /-- A script without an identifier cannot be treated in a way. -/
  | invalidId (action : String)
  /-- A file cannot be used. -/
  | file (fault : FileFault)
  /-- The suffix of a path belongs to no language. -/
  | suffix (path : Text.Path)
  /-- A path is no directory. -/
  | noDirectory (path : Text.Path)
  /-- A script has no file. -/
  | noPath (id : String)
  /-- The file of a script is missing. -/
  | missingFile (id : String) (path : Text.Path)
  /-- A name stands for nothing in a session. -/
  | unknownName (name : String)
  deriving Repr

/-- Names between commas in parentheses, or nothing. -/
def availableText (names : List String) : String :=
  if names.isEmpty then "" else " (available: " ++ ", ".intercalate names ++ ")"

/-- The message of a fault. -/
def Fault.message : Fault → String
  | .compile fault => fault.message
  | .initial id version accident =>
    "initialisation of '" ++ id ++ "' v" ++ toString version ++ " failed: " ++ accident.display
  | .notLoaded id => "no module is loaded for '" ++ id ++ "'"
  | .noEntry id entry available =>
    "module '" ++ id ++ "' has no entry point '" ++ entry ++ "'" ++ availableText available
  | .script id entry accident => "'" ++ id ++ "." ++ entry ++ "' raised " ++ accident.display
  | .escaped accident => accident.message
  | .invalidId action => "cannot " ++ action ++ " a script with an invalid id"
  | .file fault => fault.message
  | .suffix path => Language.suffixMessage path path.toText
  | .noDirectory path => "not a directory: " ++ path.toText
  | .noPath id => "script '" ++ id ++ "' has no file to watch"
  | .missingFile id path => "script file for '" ++ id ++ "' is missing: " ++ path.toText
  | .unknownName name => Text.quoted name

/-- The display of a fault. -/
def Fault.display : Fault → String
  | .compile fault => fault.display
  | fault => fault.message

/-- Whether a fault is one of a script, which the operations on many scripts survive. -/
def Fault.isScriptFault : Fault → Bool
  | .compile fault => fault.isScriptFault
  | .initial _ _ _ | .notLoaded _ | .noEntry _ _ _ | .script _ _ _ | .missingFile _ _ => true
  | .escaped _ | .invalidId _ | .file _ | .suffix _ | .noDirectory _ | .noPath _ | .unknownName _ => false

/-- The fault of an accident: a given one, unless the accident escapes. -/
def Fault.ofAccident (accident : Run.Accident) (fault : Fault) : Fault :=
  if accident.escapes then .escaped accident else fault

/-- The last observed state of a watched file. -/
structure WatchRecord where
  /-- The identifier of the script. -/
  id : String
  /-- The path. -/
  path : Text.Path
  /-- The time of the last change that was observed. -/
  time : Int
  /-- The number of reloads. -/
  reloads : Nat := 0
  /-- Why the last reload failed. -/
  lastFault : Option Fault := none
  deriving Repr

/-- Whether a reload is under way, and whether another one is due after it. -/
structure Slot where
  /-- Whether a reload is under way. -/
  running : Bool := false
  /-- Whether another reload is due. -/
  again : Bool := false
  deriving DecidableEq, Repr, Inhabited

/-- The watch on files. -/
structure Watch where
  /-- All records that were ever made. -/
  records : Array WatchRecord := #[]
  /-- The places of the records in force. -/
  watched : Table Nat := []
  /-- The scripts that are watched. -/
  scripts : Table Script := []
  /-- The state of reloads. -/
  slots : Table Slot := []
  /-- Whether reloads wait until they are run. -/
  deferred : Bool := false
  /-- The reloads that wait: identifiers and places of records. -/
  jobs : List (String × Nat) := []
  deriving Repr, Inhabited

/-- The world of scripts, with a part that belongs to its user. -/
structure World (κ : Type) where
  /-- The modules and scripts. -/
  engine : Engine
  /-- The files. -/
  files : Files
  /-- The watch on files. -/
  watch : Watch
  /-- What was announced. -/
  outbox : Outbox
  /-- The part of the user. -/
  own : κ

/-- What the user of a world does at the two moments, and the host language. -/
structure Hooks (κ : Type) where
  /-- After a module was compiled. -/
  afterCompile : World κ → World κ
  /-- After a script wrote a line. -/
  afterLine : World κ → World κ
  /-- The host language. -/
  language : HostLanguage

/-- Hooks that do nothing. -/
def Hooks.none {κ : Type} (language : HostLanguage := .none) : Hooks κ := ⟨id, id, language⟩

/-- An operation on a world, which may fail; what it did to the world before it failed stands. -/
abbrev Act (κ α : Type) := ExceptT Fault (StateM (World κ)) α

namespace World

variable {κ : Type}

/-- A world without scripts. -/
def initial (own : κ) : World κ := ⟨{}, {}, {}, {}, own⟩

/-- Write an entry of the journal. -/
def note (part : String) (level : Log.Level) (message : String) (world : World κ) : World κ :=
  let entry : Log.Entry := ⟨Log.rootName ++ "." ++ part, level, message⟩
  { world with outbox := { world.outbox with entries := world.outbox.entries.push entry } }

/-- Announce an event. -/
def announce (event : Event) (world : World κ) : World κ :=
  { world with outbox := { world.outbox with events := world.outbox.events.push event } }

/-- Record a line that a script wrote. -/
def addLine (id line : String) (world : World κ) : World κ :=
  let outbox := world.outbox
  { world with outbox :=
      { outbox with
        lines := outbox.lines.push (id, line)
        entries := outbox.entries.push ⟨Log.scriptPart id, .info, line⟩ } }

/-- Change the engine. -/
def withEngine (change : Engine → Engine) (world : World κ) : World κ :=
  { world with engine := change world.engine }

/-- Change the watch. -/
def withWatch (change : Watch → Watch) (world : World κ) : World κ :=
  { world with watch := change world.watch }

end World

namespace Engine

/-- The module of a version. -/
def module? (engine : Engine) (version : Nat) : Option Module := engine.modules[version - 1]?

/-- Change the module of a version. -/
def withModule (version : Nat) (change : Module → Module) (engine : Engine) : Engine :=
  { engine with modules := engine.modules.modify (version - 1) change }

/-- The variables of a module. -/
def globalsOf (engine : Engine) (version : Nat) : Run.Store :=
  ((engine.module? version).map (·.globals)).getD []

/-- Set the variables of a module. -/
def withGlobals (version : Nat) (globals : Run.Store) (engine : Engine) : Engine :=
  engine.withModule version fun module => { module with globals := globals }

/-- The version of the active module of an identifier. -/
def active? (engine : Engine) (id : String) : Option Nat := engine.active.find? id

/-- The version that the next module gets. -/
def nextVersion (engine : Engine) : Nat := engine.modules.size + 1

/-- Set the things that scripts share. -/
def share (shared : Run.Store) (engine : Engine) : Engine := { engine with shared := shared }

/-- Set the variables of a module and the things that scripts share. -/
def settle (version : Nat) (globals shared : Run.Store) (engine : Engine) : Engine :=
  (engine.withGlobals version globals).share shared

/-- Add a module; it gets the next version. -/
def add (id : String) (content : Content) (engine : Engine) : Engine :=
  { engine with modules := engine.modules.push ⟨id, engine.nextVersion, content, [], false⟩ }

/-- Make a module active in place of the one that was active before. -/
def publish (id : String) (version : Nat) (engine : Engine) : Engine :=
  let engine := match engine.active? id with
    | some old => engine.withModule old fun module => { module with isLoaded := false }
    | none => engine
  let engine := engine.withModule version fun module => { module with isLoaded := true }
  { engine with active := Table.put id version engine.active }

/-- Make an identifier inactive. -/
def retract (id : String) (engine : Engine) : Engine :=
  let engine := match engine.active? id with
    | some old => engine.withModule old fun module => { module with isLoaded := false }
    | none => engine
  { engine with active := engine.active.erase id }

/-- Store a script. -/
def store (script : Script) (engine : Engine) : Engine :=
  { engine with stored := Table.put script.id script engine.stored }

/-- Forget a stored script. -/
def unstore (id : String) (engine : Engine) : Engine :=
  { engine with stored := engine.stored.erase id }

/-- Remember that an identifier was deleted. -/
def bury (id : String) (engine : Engine) : Engine :=
  if engine.deleted.contains id then engine else { engine with deleted := id :: engine.deleted }

/-- Forget that an identifier was deleted. -/
def revive (id : String) (engine : Engine) : Engine :=
  { engine with deleted := engine.deleted.filter (· != id) }

end Engine

end Lag
