import Lag.World.Basic

/-!
# Operations of the engine

A load builds a module and then commits it: the module becomes active, unless a newer one is, and
its script is stored. A reload does the same, but is discarded when the script was deleted in the
meantime. Building and committing are separate steps, so that others may act between them.
-/
namespace Lag.World

variable {κ : Type}

/-- Take over an outcome. -/
def take {α ε : Type} (wrap : ε → Fault) (outcome : Except ε α) : Act κ α :=
  match outcome with
  | .ok value => return value
  | .error fault => throw (wrap fault)

/-- Write an entry of the journal. -/
def say (part : String) (level : Log.Level) (message : String) : Act κ Unit :=
  modify (note part level message)

/-- Change the engine. -/
def change (act : Engine → Engine) : Act κ Unit := modify (withEngine act)

/-- The version of the active module of an identifier. -/
def activeVersion (id : String) : Act κ (Option Nat) := do return (← get).engine.active? id

/-- An identifier and a version. -/
def versionText (id : String) (version : Nat) : String := "'" ++ id ++ "' v" ++ toString version

/-- What happens when a module writes a line. -/
def writer (hooks : Hooks κ) (module : Module) : Run.Writer (World κ) :=
  fun line globals world =>
    let world := world.withEngine (Engine.withGlobals module.version globals)
    let world := hooks.afterLine (world.addLine module.id line)
    (world.engine.globalsOf module.version, world)

/-- Where a module meets the world. -/
def port (hooks : Hooks κ) (module : Module) : Run.Port (World κ) where
  write := writer hooks module
  shared world := world.engine.shared
  share shared := withEngine (Engine.share shared)

/-- What a module does on a request. -/
def runModule (hooks : Hooks κ) (module : Module) (request : Run.Request) :
    Act κ (Except Run.Accident Value) := do
  let world ← get
  let part := hooks.language.serve module.content request (port hooks module)
  let (result, globals, world) := part (world.engine.globalsOf module.version) world
  set (world.withEngine (Engine.withGlobals module.version globals))
  return result

/-- Add a module for a script. -/
def reserve (language : HostLanguage) (script : Script) : Act κ Module := do
  let engine := (← get).engine
  let content ← take .compile (language.compile script engine.limit)
  change (Engine.add script.id content)
  return ⟨script.id, engine.nextVersion, content, [], false⟩

/-- Run the text of a module for a script. The text of a program in Lag does nothing but name its
functions. -/
def prepare (hooks : Hooks κ) (script : Script) (module : Module) : Act κ Unit := do
  match module.content with
  | .lag _ => return ()
  | .host _ _ =>
    match ← runModule hooks module .body with
    | .ok _ => return ()
    | .error accident => throw (.ofAccident accident (.compile (.body script accident)))

/-- Compile a script to a module that is not active: its version. -/
def compileModule (hooks : Hooks κ) (script : Script) : Act κ Nat := do
  let module ← reserve hooks.language script
  prepare hooks script module
  let exports := module.content.exports ((← get).engine.globalsOf module.version)
  say "runtime.compiler" .debug
    ("Compiled " ++ versionText script.id module.version ++ " (" ++ toString exports.length ++
      " export(s))")
  modify hooks.afterCompile
  return module.version

/-- Build a module for a script, and announce whether it worked. -/
def build (hooks : Hooks κ) (script : Script) : Act κ Nat := do
  let announced ← tryCatch (Except.ok <$> compileModule hooks script) fun fault =>
    return .error fault
  match announced with
  | .ok version =>
    modify (announce (.compiled script.id true))
    return version
  | .error fault =>
    if fault.isScriptFault then
      say "runtime.engine" .error
        ("Failed to build '" ++ script.id ++ "': " ++ fault.display)
      modify (announce (.compiled script.id false))
    throw fault

/-- Whether a module is older than the active one, which is noted. -/
def isStale (id : String) (version : Nat) : Act κ Bool := do
  match ← activeVersion id with
  | none => return false
  | some current =>
    if current < version then return false
    say "runtime.loader" .warning
      ("Refusing stale module " ++ versionText id version ++ " (v" ++ toString current ++
        " is active)")
    return true

/-- Give the variables of a module their first values and make it active; whether it is, rather
than a newer one. -/
def activate (hooks : Hooks κ) (version : Nat) : Act κ Bool := do
  match (← get).engine.module? version with
  | none => return false
  | some module =>
    let id := module.id
    if ← isStale id version then return false
    match ← runModule hooks module .initial with
    | .error accident => throw (.ofAccident accident (.initial id version accident))
    | .ok _ =>
      if ← isStale id version then return false
      let current ← activeVersion id
      change (Engine.publish id version)
      match current with
      | some old =>
        say "runtime.loader" .info
          ("Swapped " ++ versionText id old ++ " -> v" ++ toString version)
      | none => say "runtime.loader" .info ("Activated " ++ versionText id version)
      return true

/-- Store a script. -/
def save (script : Script) : Act κ Unit := do
  if !script.isValid then throw (.invalidId "save")
  change (Engine.store script)
  say "runtime.repository" .debug ("Saved script '" ++ script.id ++ "'")

/-- Make a module active, and store the script that it was built from; whether it is active. -/
def commit (hooks : Hooks κ) (script : Script) (version : Nat) : Act κ Bool := do
  if ← activate hooks version then
    save script
    return true
  else return false

/-- Commit the module of a load. -/
def commitLoad (hooks : Hooks κ) (script : Script) (version : Nat) : Act κ (Option Nat) := do
  change (Engine.revive script.id)
  if ← commit hooks script version then return some version
  say "runtime.engine" .info ("Discarding stale build of " ++ versionText script.id version)
  return none

/-- Build a script and make it active: the version, unless a newer one is active. -/
def load (hooks : Hooks κ) (script : Script) : Act κ (Option Nat) := do
  if !script.isValid then throw (.invalidId "load")
  let version ← build hooks script
  commitLoad hooks script version

/-- Commit the module of a reload, unless the script was deleted. -/
def commitReload (hooks : Hooks κ) (script : Script) (version : Nat) : Act κ (Option Nat) := do
  if (← get).engine.deleted.contains script.id then
    say "runtime.engine" .info
      ("Discarding reload of '" ++ script.id ++ "': script was deleted")
    return none
  if ← commit hooks script version then
    say "runtime.engine" .info ("Hot-reloaded " ++ versionText script.id version)
    modify (announce (.reloaded script.id version))
    return some version
  return none

/-- Build a script again and make it active: the version, unless it was discarded. -/
def reload (hooks : Hooks κ) (script : Script) : Act κ (Option Nat) := do
  let version ← build hooks script
  commitReload hooks script version

/-- Texts in order. -/
def sortTexts (texts : List String) : List String :=
  texts.mergeSort fun first second => first ≤ second

/-- Call a function that the active module of an identifier exports. -/
def call (hooks : Hooks κ) (id entry : String) (arguments : List Value) : Act κ Value := do
  let engine := (← get).engine
  match (engine.active? id).bind engine.module? with
  | none => throw (.notLoaded id)
  | some module =>
    match module.content.find? module.globals entry with
    | none => throw (.noEntry id entry (sortTexts (module.content.exports module.globals)))
    | some function =>
      match ← runModule hooks module (.call function arguments) with
      | .ok value => return value
      | .error accident => throw (.ofAccident accident (.script id entry accident))

/-- Call a function of a script, and announce that it returned. -/
def invoke (hooks : Hooks κ) (id entry : String) (arguments : List Value) : Act κ Value := do
  let value ← call hooks id entry arguments
  modify (announce (.executed id entry))
  return value

/-- Make an identifier inactive; whether it was active. -/
def deactivate (id : String) : Act κ Bool := do
  match ← activeVersion id with
  | none => return false
  | some version =>
    change (Engine.retract id)
    say "runtime.loader" .info ("Deactivated " ++ versionText id version)
    return true

/-- Forget a stored script; whether there was one. -/
def unstore (id : String) : Act κ Bool := do
  if (← get).engine.stored.has id then
    change (Engine.unstore id)
    say "runtime.repository" .debug ("Deleted script '" ++ id ++ "'")
    return true
  else return false

/-- Forget a script and make it inactive; whether there was anything to forget. Reloads that are
under way are discarded until the script is loaded again. -/
def delete (id : String) : Act κ Bool := do
  let removed ← unstore id
  let deactivated ← deactivate id
  if removed || deactivated then
    change (Engine.bury id)
    return true
  else return false

/-- Read a script from a file. The identifier is the stem of the path unless one is given. -/
def readScript (path : Text.Path) (id : Option String) : Act κ Script := do
  match Language.ofPath? path with
  | none => throw (.suffix path)
  | some language =>
    let code ← take .file ((← get).files.read path)
    return ⟨id.getD path.stem, language, code, some path⟩

/-- Read scripts from files. -/
def readScripts : List Text.Path → Act κ (List Script)
  | [] => return []
  | path :: rest => do
    let script ← readScript path none
    return script :: (← readScripts rest)

/-- Whether a file in a directory is a script that is discovered. -/
def isDiscovered (files : Files) (path : Text.Path) : Bool :=
  files.isFile path && (Language.ofPath? path).isSome && !path.name.startsWith "_"

/-- Read every script in a directory, in the order of the names of the files. -/
def discover (directory : Text.Path) : Act κ (List Script) := do
  let files := (← get).files
  if !(← take .file (files.isDirectory directory)) then throw (.noDirectory directory)
  let paths := ((files.names directory).map directory.child).filter (isDiscovered files)
  let scripts ← readScripts paths
  say "runtime.repository" .debug
    ("Discovered " ++ toString scripts.length ++ " script(s) in " ++ directory.toText)
  return scripts

/-- Read a script from a file and load it. -/
def loadFile (hooks : Hooks κ) (path : Text.Path) (id : Option String) : Act κ Script := do
  let script ← readScript path id
  let _ ← load hooks script
  return script

/-- Load scripts in order; those that fail are noted and left out. -/
def loadAll (hooks : Hooks κ) : List Script → Act κ (List Script)
  | [] => return []
  | script :: rest => do
    let loaded ← tryCatch (do let _ ← load hooks script; return true) fun fault => do
      if !fault.isScriptFault then throw fault
      say "runtime.engine" .error ("Skipping '" ++ script.id ++ "': " ++ fault.display)
      return false
    let others ← loadAll hooks rest
    return if loaded then script :: others else others

/-- Load every script in a directory. -/
def loadDirectory (hooks : Hooks κ) (directory : Text.Path) : Act κ (List Script) := do
  loadAll hooks (← discover directory)

end Lag.World
