import Lag.World.Engine

/-!
# Watching files

A watched script has a record of the last change of its file that was observed. A check compares
the file with the record; a later change makes the script be read and reloaded. Reloads of one
script do not overlap: a change that is seen during a reload makes that reload be done again. With
deferred reloads, a check leaves a job that is run later.
-/
namespace Lag.World

variable {κ : Type}

/-- The outcome of a check. -/
inductive CheckStatus where
  /-- The file has not changed. -/
  | unchanged
  /-- The script was reloaded. -/
  | reloaded
  /-- The reload failed. -/
  | failed
  /-- The reload was discarded. -/
  | discarded
  /-- A reload that is under way takes the change up. -/
  | coalesced
  /-- The reload waits. -/
  | scheduled
  /-- The script is not watched. -/
  | notWatched
  deriving DecidableEq, Repr, Inhabited

/-- The name under which a status is listed. -/
def CheckStatus.name : CheckStatus → String
  | .unchanged => "UNCHANGED"
  | .reloaded => "RELOADED"
  | .failed => "FAILED"
  | .discarded => "DISCARDED"
  | .coalesced => "COALESCED"
  | .scheduled => "SCHEDULED"
  | .notWatched => "NOT_WATCHED"

/-- Whether a status tells of a change. -/
def CheckStatus.isChange : CheckStatus → Bool
  | .unchanged | .notWatched => false
  | _ => true

/-- The result of a check. -/
structure CheckResult where
  /-- The identifier of the script. -/
  id : String
  /-- The outcome. -/
  status : CheckStatus
  /-- The version of the module that became active. -/
  version : Option Nat := none
  /-- Why the reload failed. -/
  fault : Option Fault := none
  deriving Repr

/-- Change the watch. -/
def changeWatch (act : Watch → Watch) : Act κ Unit := modify (withWatch act)

/-- Change a record. -/
def changeRecord (place : Nat) (act : WatchRecord → WatchRecord) : Act κ Unit :=
  changeWatch fun watch => { watch with records := watch.records.modify place act }

/-- Change the state of the reloads of a script. -/
def setSlot (id : String) (slot : Slot) : Act κ Unit :=
  changeWatch fun watch => { watch with slots := Table.put id slot watch.slots }

/-- The state of the reloads of a script. -/
def slotOf (id : String) : Act κ Slot := do return ((← get).watch.slots.find? id).getD {}

/-- The time of the last change of the file of a script. -/
def changeTime (id : String) (path : Text.Path) : Act κ Int := do
  match (← get).files.find path with
  | .ok node => return node.time
  | .error (.missing _) => throw (.missingFile id path)
  | .error fault => throw (.file fault)

/-- Start to watch the file of a script: the record. -/
def startWatch (script : Script) : Act κ WatchRecord := do
  match script.path with
  | none => throw (.noPath script.id)
  | some path =>
    let id := script.id
    let record : WatchRecord := ⟨id, path, ← changeTime id path, 0, none⟩
    changeWatch fun watch =>
      { watch with
        records := watch.records.push record
        watched := Table.put id watch.records.size watch.watched
        scripts := Table.put id script watch.scripts
        slots := if watch.slots.has id then watch.slots else Table.put id {} watch.slots }
    say "runtime.watcher" .debug ("Watching '" ++ id ++ "' at " ++ path.toText)
    return record

/-- Stop watching a script; whether it was watched. -/
def stopWatch (id : String) : Act κ Bool := do
  let watched := (← get).watch.watched.has id
  changeWatch fun watch =>
    { watch with watched := watch.watched.erase id, scripts := watch.scripts.erase id }
  return watched

/-- The record of a script that is watched. -/
def recordOf? (id : String) : Act κ (Option WatchRecord) := do
  let watch := (← get).watch
  return (watch.watched.find? id).bind fun place => watch.records[place]?

/-- The records of all scripts that are watched. -/
def allRecords : Act κ (List WatchRecord) := do
  let watch := (← get).watch
  return watch.watched.values.filterMap fun place => watch.records[place]?

/-- The time of the last change of the file of a record, and its text. -/
def readChange (record : WatchRecord) : Act κ (Int × String) := do
  let time ← changeTime record.id record.path
  let code ← take .file ((← get).files.read record.path)
  return (time, code)

/-- Note that a reload failed. -/
def failReload (id : String) (place : Nat) (fault : Fault) (message : String) :
    Act κ CheckResult := do
  changeRecord place fun record => { record with lastFault := some fault }
  say "runtime.watcher" .error message
  return ⟨id, .failed, none, some fault⟩

/-- Note that a reload worked. -/
def finishReload (id : String) (place : Nat) (script : Script) (version : Nat) :
    Act κ CheckResult := do
  changeRecord place fun record =>
    { record with lastFault := none, reloads := record.reloads + 1 }
  changeWatch fun watch =>
    if watch.scripts.has id then { watch with scripts := Table.put id script watch.scripts }
    else watch
  return ⟨id, .reloaded, some version, none⟩

/-- The outcome of an operation. -/
def outcomeOf {α : Type} (act : Act κ α) : Act κ (Except Fault α) :=
  tryCatch (Except.ok <$> act) fun fault => return .error fault

/-- The first stage of a reload: its result, or the script with the text of its file. -/
def attempt (id : String) (place : Nat) : Act κ (Except CheckResult Script) := do
  let watch := (← get).watch
  match watch.scripts.find? id, watch.records[place]? with
  | some script, some record =>
    match ← outcomeOf (readChange { record with id := id }) with
    | .error fault =>
      let result ← failReload id place fault
        ("Cannot read '" ++ id ++ "' from " ++ record.path.toText ++ ": " ++ fault.display)
      return .error result
    | .ok (time, code) =>
      changeRecord place fun record => { record with time := max record.time time }
      return .ok (script.withSource script.language code)
  | _, _ => return .error ⟨id, .discarded, none, none⟩

/-- The second stage of a reload: its result, by the answer of the engine. A fault outside the script
ends the reloads. -/
def conclude (id : String) (place : Nat) (script : Script) :
    Except Fault (Option Nat) → Act κ CheckResult
  | .error fault => do
    if fault.isScriptFault then
      failReload id place fault
        ("Reload of '" ++ id ++ "' failed, keeping previous version: " ++ fault.display)
    else
      setSlot id ⟨false, false⟩
      throw fault
  | .ok none => return ⟨id, .discarded, none, none⟩
  | .ok (some version) => finishReload id place script version

/-- What follows a reload: its result, unless another reload is due. -/
def settle (id : String) (result : CheckResult) : Act κ (Option CheckResult) := do
  let slot ← slotOf id
  if slot.again then
    setSlot id ⟨true, false⟩
    say "runtime.watcher" .debug ("Re-reading '" ++ id ++ "' for a change seen mid-reload")
    return none
  else
    setSlot id ⟨false, false⟩
    return some result

/-- Read a script again and reload it: the result, unless another reload is due. -/
def reloadOnce (hooks : Hooks κ) (id : String) (place : Nat) : Act κ (Option CheckResult) := do
  match ← attempt id place with
  | .error result => settle id result
  | .ok script =>
    let outcome ← outcomeOf (reload hooks script)
    settle id (← conclude id place script outcome)

/-- Reload a script until no further change was seen in the meantime, at most a number of times. -/
def runReloads (hooks : Hooks κ) (id : String) (place : Nat) : Nat → Act κ CheckResult
  | 0 => return ⟨id, .discarded, none, none⟩
  | left + 1 => do
    match ← reloadOnce hooks id place with
    | some result => return result
    | none => runReloads hooks id place left

/-- The first stage of a check: its result, or the place of the record of a file that has changed. -/
def notice (script : Script) : Act κ (Except CheckResult Nat) := do
  let id := script.id
  let watch := (← get).watch
  match watch.watched.find? id with
  | none => return .error ⟨id, .notWatched, none, none⟩
  | some place =>
    match watch.records[place]? with
    | none => return .error ⟨id, .notWatched, none, none⟩
    | some record =>
      let time ← changeTime id record.path
      if time ≤ record.time then return .error ⟨id, .unchanged, none, none⟩
      changeRecord place fun record => { record with time := time }
      changeWatch fun watch => { watch with scripts := Table.put id script watch.scripts }
      say "runtime.watcher" .info
        ("Change detected in '" ++ id ++ "' (" ++ record.path.toText ++ ")")
      return .ok place

/-- The second stage of a check: its result, unless the script is to be reloaded now. -/
def claim (id : String) (place : Nat) : Act κ (Option CheckResult) := do
  let slot ← slotOf id
  if slot.running then
    setSlot id ⟨true, true⟩
    return some ⟨id, .coalesced, none, none⟩
  setSlot id ⟨true, false⟩
  if (← get).watch.deferred then
    changeWatch fun watch => { watch with jobs := watch.jobs ++ [(id, place)] }
    return some ⟨id, .scheduled, none, none⟩
  return none

/-- Reload a script if its file has changed; `bound` limits the number of repeated reloads. -/
def check (hooks : Hooks κ) (bound : Nat) (script : Script) : Act κ CheckResult := do
  match ← notice script with
  | .error result => return result
  | .ok place =>
    match ← claim script.id place with
    | some result => return result
    | none => runReloads hooks script.id place bound

/-- Check scripts in order; a file that is missing is a failed check. -/
def checkScripts (hooks : Hooks κ) (bound : Nat) : List Script → Act κ (List CheckResult)
  | [] => return []
  | script :: rest => do
    let result ← tryCatch (check hooks bound script) fun fault => do
      match fault with
      | .missingFile _ _ =>
        say "runtime.watcher" .warning fault.display
        return ⟨script.id, .failed, none, some fault⟩
      | _ => throw fault
    return result :: (← checkScripts hooks bound rest)

/-- Check every script that is watched. -/
def checkAll (hooks : Hooks κ) (bound : Nat) : Act κ (List CheckResult) := do
  checkScripts hooks bound (← get).watch.scripts.values

/-- Run the oldest reload that waits. -/
def runJob (hooks : Hooks κ) (bound : Nat) : Act κ (Option CheckResult) := do
  match (← get).watch.jobs with
  | [] => return none
  | (id, place) :: rest =>
    changeWatch fun watch => { watch with jobs := rest }
    return some (← runReloads hooks id place bound)

end Lag.World
