import Lag.CommandLine.Perform

/-!
# The program

The outer layer of the command line. It reads the files that a command line names, runs the
request on them, shows the console and writes the files that were changed. During a watch it reads
the files again before every round.
-/
namespace Lag.Main

open CommandLine

/-- Read the file with a name into a file system; a file that cannot be read is taken out, and one
that has not changed keeps its time. -/
def refresh (files : Files) (name : String) : IO Files := do
  let path := Text.Path.ofText name
  let read ← (IO.FS.readBinFile name).toBaseIO
  let changed := match read, files.find path with
    | .error _, _ => files.remove path
    | .ok bytes, .ok (.file old _) =>
      if bytes.data == old.data then .ok files else files.write path bytes none
    | .ok bytes, _ => files.write path bytes none
  return changed.toOption.getD files

/-- Write the files that differ from those before. -/
def store (before after : Files) : IO Unit := do
  for (steps, node) in after.nodes do
    match node, before.at? steps with
    | .file bytes _, some (.file old _) =>
      if bytes.data != old.data then IO.FS.writeBinFile ("/".intercalate steps) bytes
    | .file bytes _, _ => IO.FS.writeBinFile ("/".intercalate steps) bytes
    | .directory _, _ => pure ()

/-- Show the console and write changed files: the world with an empty console. -/
def present (before : Files) (world : World Console) : IO (World Console) := do
  let world := flush world
  IO.print world.own.output
  IO.eprint world.own.errors
  store before world.files
  return withConsole (fun console => { console with output := "", errors := "" }) world

/-- Do a part of a run: its outcome and the world after it. -/
def step {α : Type} (job : Job α) (world : World Console) :
    IO (Except Failure α × World Console) := do
  let (outcome, after) := job.run world
  return (outcome, ← present world.files after)

/-- Tell why a run failed. -/
def fail (failure : Failure) : IO UInt32 := do
  IO.eprintln failure.message
  return 1

/-- Go on with a watch, for a number of rounds or without an end. -/
partial def keepWatch (vigil : Vigil) (rounds : Option Nat) (world : World Console) :
    IO UInt32 := do
  if rounds == some 0 then return 0
  let names := vigil.scripts.filterMap fun script => script.path.map Text.Path.toText
  let files ← names.foldlM refresh world.files
  match ← step vigil.round { world with files := files } with
  | (.error failure, _) => fail failure
  | (.ok (), world) =>
    IO.sleep (vigil.interval * 1000.0).toUInt32
    keepWatch vigil (rounds.map (· - 1)) world

/-- Carry out a command line that is understood. -/
def carryOut (invocation : Invocation) : IO UInt32 := do
  let environment : Environment :=
    ⟨← IO.getEnv "LAGSCRIPT_LOG_LEVEL", ← IO.getEnv "LAGSCRIPT_RELOAD_WORKERS"⟩
  let files ← invocation.files.foldlM refresh {}
  let settings := Settings.load files (invocation.settings.map Text.Path.ofText) environment
  let files ← (settings.toOption.bind Settings.logName?).toList.foldlM refresh files
  let world : World Console := World.initial {}
  match ← step (invocation.start environment) { world with files := files } with
  | (.error failure, _) => fail failure
  | (.ok (.done code), _) => return UInt32.ofNat code
  | (.ok (.watching vigil), world) => keepWatch vigil vigil.rounds world

end Lag.Main

/-- Carry out the words of a command line. -/
def main (words : List String) : IO UInt32 := do
  match Lag.CommandLine.Invocation.ofWords words with
  | .error (.help _) =>
    IO.println Lag.CommandLine.usage
    return 0
  | .error (.misuse title misuse) =>
    IO.eprintln Lag.CommandLine.usage
    IO.eprintln (title ++ ": error: " ++ misuse.message)
    return 2
  | .ok invocation => Lag.Main.carryOut invocation
