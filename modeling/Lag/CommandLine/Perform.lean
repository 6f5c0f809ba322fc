import Lag.CommandLine.Console
import Lag.CommandLine.Request
import Lag.World.Simple

/-!
# Carrying out requests

A run loads the settings, sets up the journal, and does what its command line asks for. It ends
with an exit code: zero when all went well, one when a script or a file is at fault. A watch goes
on in rounds, each of which checks the files and calls the function that was named. Of the host
language simple scripts are known only.
-/
namespace Lag.CommandLine

/-- A watch that goes on. -/
structure Vigil where
  /-- The scripts that are watched. -/
  scripts : List Script
  /-- The function that is called after every round. -/
  entry : Option String
  /-- The time between rounds in seconds. -/
  interval : Float
  /-- The number of rounds; none when the watch does not end. -/
  rounds : Option Nat
  deriving Repr

/-- What became of a request. -/
inductive Progress where
  /-- It is done, with an exit code. -/
  | done (code : Nat)
  /-- A watch goes on. -/
  | watching (vigil : Vigil)
  deriving Repr

/-- The source text of a file with its path, unless nothing is there. -/
def readSource (file : String) : Job (Option (Text.Path × String)) := do
  let path := Text.Path.ofText file
  let files := (← get).files
  if ← perform (World.take .file (files.exists? path)) then
    return some (path, ← perform (World.take .file (files.read path)))
  complain ("Error: File not found: " ++ path.toText)
  return none

/-- Show the diagnostic of a source text that is at fault: the exit code. -/
def refuse (fault : CompileFault) : Job Nat := do
  if fault.isScriptFault then
    complain fault.display
    return 1
  else throw (.fault (.compile fault))

/-- The greatest number of failures that checks report. -/
def limitOf : Job Nat := do return (← get).engine.limit

/-- Check a file. -/
def checkFile (file : String) : Job Nat := do
  match ← readSource file with
  | none => return 1
  | some (path, source) =>
    match readProgram source (some path.toText) with
    | .error fault => refuse fault
    | .ok program =>
      let failures := (program.check (← limitOf)).failures
      if failures.isEmpty then
        writeLine ("OK: " ++ path.name ++ " - " ++ toString program.functions.length ++
          " function(s), " ++ toString program.bindings.length ++ " global(s), no errors")
        return 0
      else
        writeLine
          ("Type checking failed with " ++ toString failures.length ++ " error(s):")
        let lines := Text.linesOf source
        write (ended (failures.map fun failure => (failure.diagnostic lines).display))
        return 1

/-- A function with the types of its parameters and its result. -/
def signatureText (function : Function Node) : String :=
  let params := function.params.map fun param => param.name ++ ": " ++ param.type.type.name
  let result := (function.result.map (·.type.name)).getD "void"
  function.name ++ "(" ++ ", ".intercalate params ++ ") -> " ++ result

/-- List the functions of a file. -/
def listFile (file : String) : Job Nat := do
  match ← readSource file with
  | none => return 1
  | some (path, source) =>
    match readProgram source (some path.toText) with
    | .error fault => refuse fault
    | .ok program =>
      writeLine ("Functions (" ++ toString program.functions.length ++ "):")
      write (ended (program.functions.map ("  " ++ signatureText ·)))
      return 0

/-- A text that is not empty. -/
def given? (text : Option String) : Option String := text.filter (· != "")

/-- Translate a file. -/
def translateFile (file : String) (output name : Option String) : Job Nat := do
  match ← readSource file with
  | none => return 1
  | some (path, source) =>
    let title := (given? name).getD path.stem
    match Lag.translate source title (some path.toText) (← limitOf) with
    | .error fault => refuse fault
    | .ok lowered =>
      match given? output with
      | none => write lowered.toText
      | some target =>
        let store := (← get).files.store (Text.Path.ofText target) lowered.toText
        let files ← perform (World.take .file store)
        modify fun world => { world with files := files }
        writeLine ("Wrote " ++ target)
      return 0

/-- Tell of a fault of a script: the exit code. Other faults end the run. -/
def tell (fault : Fault) : Job Nat := do
  if fault.isScriptFault then
    complain ("Error: " ++ fault.display)
    return 1
  else throw (.fault fault)

/-- Show the result of a function. -/
def showResult : Value → Job Unit
  | .none => return
  | value =>
    match Run.hostText value with
    | .ok text => writeLine text
    | .error trouble => throw (.result trouble)

/-- Load the script in a file, call one of its functions and show the result. -/
def runFile (file : String) (entry : Option String) (arguments : List String) : Job Nat := do
  let path := Text.Path.ofText file
  if !(← perform (World.take .file ((← get).files.exists? path))) then
    complain ("Error: File not found: " ++ file)
    return 1
  match ← attempt (World.loadFile (.none .simple) path none), entry with
  | .error fault, _ => tell fault
  | .ok _, none => throw .entry
  | .ok script, some entry =>
    match ← attempt (World.invoke (.none .simple) script.id entry (arguments.map valueOfWord)) with
    | .error fault => tell fault
    | .ok value =>
      showResult value
      return 0

/-- Write an entry of the journal about a failure of a request. -/
def report (message : String) : Job Unit := modify (World.note "cli" .error message)

/-- Read the script in a file and start to watch it. -/
def beginWatch (file : String) : Act Console Script := do
  let script ← World.readScript (Text.Path.ofText file) none
  let _ ← World.startWatch script
  return script

/-- Watch files and load their scripts: the scripts that are watched. A script that does not load
stays watched. -/
def watchAll : List String → Job (List Script)
  | [] => return []
  | file :: rest => do
    match ← attempt (beginWatch file) with
    | .error fault =>
      report ("Could not watch " ++ file ++ ": " ++ fault.display)
      watchAll rest
    | .ok script =>
      match ← attempt (World.load (.none .simple) script) with
      | .ok _ => pure ()
      | .error fault =>
        if fault.isScriptFault then
          report ("Could not load " ++ file ++ ": " ++ fault.display)
        else throw (.fault fault)
      return script :: (← watchAll rest)

/-- Call a function of scripts in order. -/
def callAll (entry : String) : List Script → Job Unit
  | [] => return
  | script :: rest => do
    match ← attempt (World.invoke (.none .simple) script.id entry []) with
    | .ok _ => pure ()
    | .error fault => if fault.isScriptFault then report fault.display else throw (.fault fault)
    callAll entry rest

/-- One round of a watch. Nothing changes a file during a reload, so none is done again. -/
def Vigil.round (vigil : Vigil) : Job Unit := do
  let _ ← perform (World.checkAll (.none .simple) 1)
  match given? vigil.entry with
  | some entry => callAll entry vigil.scripts
  | none => return

/-- Start to watch files. -/
def watchFiles (files : List String) (interval : Float) (entry : Option String) (rounds : Int) :
    Job Progress := do
  let scripts ← watchAll files
  if scripts.isEmpty then
    complain "Error: nothing to watch"
    return .done 1
  return .watching ⟨scripts, entry, interval, if rounds = 0 then none else some rounds.toNat⟩

/-- Do what is asked for, up to the first round of a watch. -/
def Request.start : Request → Job Progress
  | .check file => .done <$> checkFile file
  | .list file => .done <$> listFile file
  | .translate file output name => .done <$> translateFile file output name
  | .run file entry arguments => .done <$> runFile file entry arguments
  | .watch files interval entry rounds => watchFiles files interval entry rounds

/-- Load the settings, set up the journal and do what is asked for, up to the first round of a
watch. -/
def Invocation.start (invocation : Invocation) (environment : Environment) : Job Progress := do
  let path := invocation.settings.map Text.Path.ofText
  match Settings.load (← get).files path environment with
  | .error fault =>
    if fault.isOfSettings then
      complain ("Error: " ++ fault.message)
      return .done 1
    else throw (.settings fault)
  | .ok settings =>
    setUpLog ((given? invocation.level).getD settings.levelWord) settings.logFile
    modify (World.withEngine fun engine => { engine with limit := settings.limit })
    invocation.request.start

/-- A number of rounds of a watch. -/
def Vigil.rounding (vigil : Vigil) : Nat → Job Unit
  | 0 => return
  | count + 1 => do
    vigil.round
    vigil.rounding count

/-- Do what is asked for, with all rounds of a watch that ends: the exit code. -/
def Invocation.finish (invocation : Invocation) (environment : Environment) : Job Nat := do
  match ← invocation.start environment with
  | .done code => return code
  | .watching vigil =>
    vigil.rounding (vigil.rounds.getD 0)
    return 0

/-- Run a job on files: its outcome, and the world with everything shown. -/
def Job.runOn {α : Type} (job : Job α) (files : Files) : Except Failure α × World Console :=
  let world : World Console := World.initial {}
  let (outcome, world) := job.run { world with files := files }
  (outcome, flush world)

end Lag.CommandLine
