import Lag.World.Simple
import Lag.World.Watch

/-!
# Sessions

A session is a list of commands on one world. Scripts and modules are kept under names. Every
command ends in a step: its answer, what was announced since the step before it ended, and the
steps of the commands that ran in between.

Commands can be left for later: a list of commands runs once, after the next compilation or after
the next line that a script writes. The steps of such a list are reported by the step in which it
ran. A list that ran after a compilation goes unreported when one of its own steps already
reported lists; the commands that leave lists report none.

Of the host language a session knows simple scripts only.
-/
namespace Lag

/-- A command of a session. -/
inductive Command where
  /-- Make a script. -/
  | script (name id code : String) (path : Option String)
  /-- Make a script with another source text. -/
  | edit (name code target : String)
  /-- Read a script from a file. -/
  | read (name path : String) (id : Option String)
  /-- Load a script. -/
  | load (name : String)
  /-- Reload a script. -/
  | reload (name : String)
  /-- Build a script. -/
  | build (name target : String)
  /-- The text of a module. -/
  | source (name : String)
  /-- A module. -/
  | module (name : String)
  /-- Make a module active. -/
  | activate (name : String)
  /-- Make an identifier inactive. -/
  | deactivate (id : String)
  /-- Whether an identifier is active. -/
  | isActive (id : String)
  /-- The active identifiers. -/
  | activeIds
  /-- Call a function. -/
  | invoke (id entry : String) (arguments : List Value)
  /-- Delete a script. -/
  | delete (id : String)
  /-- The active module of an identifier. -/
  | active (id : String)
  /-- The variables of an active module. -/
  | globals (id : String)
  /-- Translate a source text. -/
  | translate (code title : String) (file : Option String)
  /-- Load a script from a file. -/
  | loadFile (path : String) (id : Option String)
  /-- Load the scripts of a directory. -/
  | loadDirectory (path : String)
  /-- Read the scripts of a directory. -/
  | discover (path : String)
  /-- Store a script. -/
  | save (name : String)
  /-- A stored script. -/
  | stored (id : String)
  /-- Forget a stored script. -/
  | unstore (id : String)
  /-- Whether a script is stored. -/
  | contains (id : String)
  /-- All stored scripts. -/
  | storedAll
  /-- Forget all stored scripts. -/
  | clear
  /-- Write a file. -/
  | write (path : String) (bytes : ByteArray) (time : Option Int)
  /-- Make a directory. -/
  | makeDirectory (path : String) (time : Option Int)
  /-- Remove a file. -/
  | remove (path : String)
  /-- Start to watch a script. -/
  | watch (name : String)
  /-- Stop watching a script. -/
  | unwatch (id : String)
  /-- The record of a script. -/
  | record (id : String)
  /-- All records. -/
  | watched
  /-- Check a script. -/
  | check (name : String)
  /-- Check all scripts. -/
  | checkAll
  /-- Run the oldest reload that waits. -/
  | runJob
  /-- Run commands after the next compilation. -/
  | onCompile (commands : List Command)
  /-- Run commands after the next line. -/
  | onPrint (commands : List Command)
  deriving Inhabited

namespace Session

/-- A module as it is shown. -/
structure ModuleView where
  /-- The identifier. -/
  id : String
  /-- The version. -/
  version : Nat
  /-- Whether it is active. -/
  isLoaded : Bool
  /-- The names that it exports. -/
  exports : List String
  deriving Repr

/-- A result of a check as it is shown. -/
structure CheckView where
  /-- The result. -/
  result : World.CheckResult
  /-- The module that became active. -/
  module : Option ModuleView
  deriving Repr

/-- The answer to a command. -/
inductive Answer where
  /-- Nothing. -/
  | nothing
  /-- Yes or no. -/
  | flag (value : Bool)
  /-- A text. -/
  | text (value : String)
  /-- Texts. -/
  | texts (values : List String)
  /-- A value. -/
  | value (value : Value)
  /-- A script, if there is one. -/
  | script (script : Option Script)
  /-- An edited script, and whether it equals the one it was made from. -/
  | edited (script : Script) (same : Bool)
  /-- Scripts. -/
  | scripts (scripts : List Script)
  /-- Scripts with their number. -/
  | store (scripts : List Script)
  /-- A module, if there is one. -/
  | module (module : Option ModuleView)
  /-- Variables with their values, if there are any. -/
  | globals (globals : Option (List (String × Value)))
  /-- A record, if there is one. -/
  | record (record : Option WatchRecord)
  /-- Whether a script is watched, and its record. -/
  | watching (record : Option WatchRecord)
  /-- Records. -/
  | records (records : List WatchRecord)
  /-- A result of a check, if there is one. -/
  | check (view : Option CheckView)
  /-- Results of checks. -/
  | checks (views : List CheckView)
  deriving Repr

/-- What one command led to. -/
structure Step where
  /-- The answer, or why there is none. -/
  answer : Except Fault Answer
  /-- The events since the step before it ended. -/
  events : List Event
  /-- The lines that scripts wrote since then. -/
  lines : List (String × String)
  /-- The steps of the lists of commands that ran since then. -/
  lists : List (List Step)

/-- What a session keeps beside the world. -/
structure Own where
  /-- The scripts under names. -/
  scripts : Table Script := []
  /-- The versions of modules under names. -/
  modules : Table Nat := []
  /-- The lists that run after compilations. -/
  afterCompile : List (List Command) := []
  /-- The lists that run after lines. -/
  afterLine : List (List Command) := []
  /-- The steps of lists that are not yet reported. -/
  unreported : List (List Step) := []
  /-- How often unreported lists were reported. -/
  reports : Nat := 0
  deriving Inhabited

/-- The world of a session. -/
abbrev Place := World Own

/-- Change what the session keeps. -/
def withOwn (change : Own → Own) (place : Place) : Place := { place with own := change place.own }

/-- A module as it is shown. -/
def view (place : Place) (version : Nat) : Option ModuleView :=
  (place.engine.module? version).map fun module =>
    ⟨module.id, module.version, module.isLoaded, module.content.exports module.globals⟩

/-- A result of a check as it is shown. -/
def viewCheck (place : Place) (result : World.CheckResult) : CheckView :=
  ⟨result, result.version.bind (view place)⟩

/-- The script under a name. -/
def scriptNamed (name : String) : Act Own Script := do
  match (← get).own.scripts.find? name with
  | some script => return script
  | none => throw (.unknownName name)

/-- The version under a name. -/
def versionNamed (name : String) : Act Own Nat := do
  match (← get).own.modules.find? name with
  | some version => return version
  | none => throw (.unknownName name)

/-- Keep a script under a name. -/
def keepScript (name : String) (script : Script) : Act Own Unit :=
  modify (withOwn fun own => { own with scripts := Table.put name script own.scripts })

/-- A value that is shown among the variables of a module. -/
def isShownValue : Value → Bool
  | .none | .entity _ => false
  | _ => true

/-- The variables of the active module of an identifier, in the order of their names. -/
def globalsOf (place : Place) (id : String) : Option (List (String × Value)) :=
  (place.engine.active? id).map fun version =>
    ((place.engine.globalsOf version).filter fun (name, value) =>
      isShownValue value && !Host.isUnderscored name.toList).mergeSort
        fun first second => first.1 ≤ second.1

/-- The answer with a module of a version. -/
def moduleAnswer (version : Option Nat) : Act Own Answer := do
  return .module (version.bind (view (← get)))

/-- Change the files. -/
def changeFiles (change : Files → Except FileFault Files) : Act Own Answer := do
  let files ← World.take .file (change (← get).files)
  modify fun place => { place with files := files }
  return .nothing

mutual

/-- The number of lists in a command. -/
def listCount : Command → Nat
  | .onCompile commands => 1 + listCountAll commands
  | .onPrint commands => 1 + listCountAll commands
  | _ => 0

/-- The number of lists in commands. -/
def listCountAll : List Command → Nat
  | [] => 0
  | command :: rest => listCount command + listCountAll rest

end

/-- How often a reload can be done: once, once more for a change that was seen while it waited, and
once more for each list that waits, also inside another list. -/
def reloadBound : Act Own Nat := do
  let own := (← get).own
  let waiting := own.afterCompile ++ own.afterLine
  return listCountAll waiting.flatten + waiting.length + 2

/-- Carry out a command. -/
def carryOut (hooks : Hooks Own) : Command → Act Own Answer
  | .script name id code path => do
    let script : Script := ⟨id, .lag, code, path.map Text.Path.ofText⟩
    keepScript name script
    return .flag script.isValid
  | .edit name code target => do
    let script ← scriptNamed name
    let edited := script.withSource .lag code
    keepScript target edited
    return .edited edited (edited == script)
  | .read name path id => do
    let script ← World.readScript (Text.Path.ofText path) id
    keepScript name script
    return .script (some script)
  | .load name => do moduleAnswer (← World.load hooks (← scriptNamed name))
  | .reload name => do moduleAnswer (← World.reload hooks (← scriptNamed name))
  | .build name target => do
    let version ← World.build hooks (← scriptNamed name)
    modify (withOwn fun own => { own with modules := Table.put target version own.modules })
    moduleAnswer (some version)
  | .source name => do
    let version ← versionNamed name
    let module := (← get).engine.module? version
    return .text ((module.map (·.content.text)).getD "")
  | .module name => do moduleAnswer (some (← versionNamed name))
  | .activate name => do return .flag (← World.activate hooks (← versionNamed name))
  | .deactivate id => do return .flag (← World.deactivate id)
  | .isActive id => do return .flag (← World.activeVersion id).isSome
  | .activeIds => do return .texts (World.sortTexts (← get).engine.active.names)
  | .invoke id entry arguments => do return .value (← World.invoke hooks id entry arguments)
  | .delete id => do return .flag (← World.delete id)
  | .active id => do moduleAnswer (← World.activeVersion id)
  | .globals id => do return .globals (globalsOf (← get) id)
  | .translate code title file => do
    let limit := (← get).engine.limit
    return .text (← World.take .compile (Lag.translate code title file limit)).toText
  | .loadFile path id => do
    return .script (some (← World.loadFile hooks (Text.Path.ofText path) id))
  | .loadDirectory path => do
    return .scripts (← World.loadDirectory hooks (Text.Path.ofText path))
  | .discover path => do return .scripts (← World.discover (Text.Path.ofText path))
  | .save name => do
    World.save (← scriptNamed name)
    return .nothing
  | .stored id => do return .script ((← get).engine.stored.find? id)
  | .unstore id => do return .flag (← World.unstore id)
  | .contains id => do return .flag ((← get).engine.stored.has id)
  | .storedAll => do return .store (← get).engine.stored.values
  | .clear => do
    World.change fun engine => { engine with stored := [] }
    return .nothing
  | .write path bytes time => changeFiles (·.write (Text.Path.ofText path) bytes time)
  | .makeDirectory path time => changeFiles (·.makeDirectory (Text.Path.ofText path) time)
  | .remove path => changeFiles (·.remove (Text.Path.ofText path))
  | .watch name => do return .record (some (← World.startWatch (← scriptNamed name)))
  | .unwatch id => do return .flag (← World.stopWatch id)
  | .record id => do return .watching (← World.recordOf? id)
  | .watched => do return .records (← World.allRecords)
  | .check name => do
    let result ← World.check hooks (← reloadBound) (← scriptNamed name)
    return .check (some (viewCheck (← get) result))
  | .checkAll => do
    let results ← World.checkAll hooks (← reloadBound)
    return .checks (results.map (viewCheck (← get)))
  | .runJob => do
    let result ← World.runJob hooks (← reloadBound)
    return .check (result.map (viewCheck (← get)))
  | .onCompile commands => do
    modify (withOwn fun own => { own with afterCompile := own.afterCompile ++ [commands] })
    return .nothing
  | .onPrint commands => do
    modify (withOwn fun own => { own with afterLine := own.afterLine ++ [commands] })
    return .nothing

/-- Whether a command leaves commands for later. -/
def isLeaving : Command → Bool
  | .onCompile _ | .onPrint _ => true
  | _ => false

/-- Collect what was announced. -/
def collect (place : Place) : Place :=
  { place with outbox := { place.outbox with events := #[], lines := #[] } }

/-- Report the lists that are not yet reported. -/
def reportLists (place : Place) : Place :=
  if place.own.unreported.isEmpty then place
  else place |> withOwn fun own => { own with unreported := [], reports := own.reports + 1 }

/-- End a command in a step. -/
def finish (command : Command) (answer : Except Fault Answer) (place : Place) : Step × Place :=
  let outbox := place.outbox
  let leaving := isLeaving command
  let lists := if leaving then [] else place.own.unreported
  let place := collect place
  (⟨answer, outbox.events.toList, outbox.lines.toList, lists⟩,
    if leaving then place else reportLists place)

/-- Perform commands in order with a way to perform one. -/
def performAll (perform : Command → Place → Step × Place) :
    List Command → Place → List Step × Place
  | [], place => ([], place)
  | command :: rest, place =>
    let (step, place) := perform command place
    let (steps, place) := performAll perform rest place
    (step :: steps, place)

/-- Note the steps of a list. -/
def addList (steps : List Step) : Place → Place :=
  withOwn fun own => { own with unreported := own.unreported ++ [steps] }

/-- Run the list that is due after a compilation. It goes unreported when one of its own steps
reported lists. -/
def afterCompile (perform : Command → Place → Step × Place) (place : Place) : Place :=
  match place.own.afterCompile with
  | [] => place
  | commands :: rest =>
    let before := place.own.reports
    let (steps, place) :=
      performAll perform commands (place |> withOwn fun own => { own with afterCompile := rest })
    if place.own.reports = before then addList steps place else place

/-- Run the list that is due after a line. -/
def afterLine (perform : Command → Place → Step × Place) (place : Place) : Place :=
  match place.own.afterLine with
  | [] => place
  | commands :: rest =>
    let (steps, place) :=
      performAll perform commands (place |> withOwn fun own => { own with afterLine := rest })
    addList steps place

/-- The hooks that run the lists. -/
def hooksOf (perform : Command → Place → Step × Place) : Hooks Own :=
  ⟨afterCompile perform, afterLine perform, .simple⟩

/-- Perform a command. Lists run inside each other at most to a depth. -/
def perform : Nat → Command → Place → Step × Place
  | 0, command, place =>
    let (answer, place) := (carryOut (.none .simple) command).run place
    finish command answer place
  | depth + 1, command, place =>
    let (answer, place) := (carryOut (hooksOf (perform depth)) command).run place
    finish command answer place

/-- A world for a session. -/
def start (limit : Nat) (deferred : Bool) : Place :=
  let place : Place := World.initial {}
  { place with
    engine := { place.engine with limit := limit }
    watch := { place.watch with deferred := deferred } }

/-- Perform commands in order. No list is run twice, so lists run inside each other at most as
often as there are lists. -/
def run (commands : List Command) (place : Place) : List Step × Place :=
  performAll (perform (listCountAll commands)) commands place

end Session

end Lag
