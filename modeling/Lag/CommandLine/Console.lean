import Lag.Settings
import Lag.World.Watch

/-!
# The console

What a run of the program shows: its output, and its error output, where the entries of the journal
that reach the threshold stand between the other lines. The journal also goes to a file, if the
settings name one.
-/
namespace Lag.CommandLine

/-- The console of a run. -/
structure Console where
  /-- The output. -/
  output : String := ""
  /-- The error output. -/
  errors : String := ""
  /-- The level from which on entries of the journal are shown. -/
  level : Log.Level := .unset
  /-- The file that entries of the journal also go to. -/
  logFile : Option Text.Path := none
  deriving Repr, Inhabited

/-- Why a run ends before its request is carried out. -/
inductive Failure where
  /-- An operation fails for a reason outside the scripts. -/
  | fault (fault : Fault)
  /-- The message about the settings cannot be made. -/
  | settings (fault : SettingsFault)
  /-- The journal cannot be set up. -/
  | journal (fault : Log.SetupFault)
  /-- The file of the journal is not a text but of another kind. -/
  | logFile (kind : String)
  /-- No function is named. -/
  | entry
  /-- The result has no text. -/
  | result (trouble : Run.Trouble)
  deriving Repr

/-- The message of a failure. -/
def Failure.message : Failure → String
  | .fault inner => inner.message
  | .settings inner => inner.message
  | .journal inner => inner.message
  | .logFile kind => "expected str, bytes or os.PathLike object, not " ++ kind
  | .entry => "unhashable type: 'list'"
  | .result trouble => trouble.message

/-- A part of a run. -/
abbrev Job (α : Type) := ExceptT Failure (StateM (World Console)) α

/-- Do an operation of the world: its outcome. -/
def attempt {α : Type} (act : Act Console α) : Job (Except Fault α) := do
  let (outcome, world) := act.run (← get)
  set world
  return outcome

/-- Do an operation of the world that has to work. -/
def perform {α : Type} (act : Act Console α) : Job α := do
  match ← attempt act with
  | .ok value => return value
  | .error fault => throw (.fault fault)

/-- Change the console. -/
def withConsole (change : Console → Console) (world : World Console) : World Console :=
  { world with own := change world.own }

/-- Lines that each end in a line feed. -/
def ended (lines : List String) : String := String.join (lines.map (· ++ "\n"))

/-- Write to the file of the journal; without one, or when it cannot be written, nothing is. -/
def writeLog (text : String) (world : World Console) : World Console :=
  match world.own.logFile with
  | none => world
  | some path =>
    match world.files.append path text with
    | .ok files => { world with files := files }
    | .error _ => world

/-- Show the entries of the journal that are not yet shown. -/
def flush (world : World Console) : World Console :=
  let text := ended (Log.shown world.own.level world.outbox.entries.toList)
  let world := { world with outbox := { world.outbox with entries := #[] } }
  let world := withConsole (fun console => { console with errors := console.errors ++ text }) world
  if text = "" then world else writeLog text world

/-- Write to the output. -/
def write (text : String) : Job Unit :=
  modify (withConsole fun console => { console with output := console.output ++ text })

/-- Write a line to the output. -/
def writeLine (line : String) : Job Unit := write (line ++ "\n")

/-- Write a line to the error output. -/
def complain (line : String) : Job Unit := do
  modify flush
  modify (withConsole fun console => { console with errors := console.errors ++ line ++ "\n" })

/-- Set the journal up: its level and its file, which is made if it is missing. -/
def setUpLog (level : String) (file : Document) : Job Unit := do
  match Log.Level.ofWord level with
  | .error fault => throw (.journal (.level fault))
  | .ok level => modify (withConsole fun console => { console with level := level })
  if file.isEmpty then return
  match file.fileName? with
  | some name =>
    let path := Text.Path.ofText name
    let files ← perform (World.take .file ((← get).files.append path ""))
    modify fun world =>
      withConsole (fun console => { console with logFile := some path })
        { world with files := files }
  | none => throw (.logFile file.shortKindName)

end Lag.CommandLine
