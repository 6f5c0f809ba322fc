import Lag.Proofs.World.Ended
import Lag.World.Watch

/-!
# Operations as functions of the watch

The stages of checks and reloads are functions of the watch and the files: beside the watch they
change at most what was announced. The functions are given here, and the stages are shown to be
these functions.
-/
namespace Lag

/-- A record of a file whose change at a time was observed. -/
def WatchRecord.observed (time : Int) (record : WatchRecord) : WatchRecord :=
  { record with time := time }

/-- A record of a file that was read at a time. -/
def WatchRecord.seen (time : Int) (record : WatchRecord) : WatchRecord :=
  { record with time := max record.time time }

/-- A record of a script whose reload failed. -/
def WatchRecord.failed (fault : Fault) (record : WatchRecord) : WatchRecord :=
  { record with lastFault := some fault }

/-- A record of a script that was reloaded. -/
def WatchRecord.renewed (record : WatchRecord) : WatchRecord :=
  { record with lastFault := none, reloads := record.reloads + 1 }

namespace Files

/-- The time of the last change of the file of a script. -/
def timeOf (files : Files) (id : String) (path : Text.Path) : Except Fault Int :=
  match files.find path with
  | .ok node => .ok node.time
  | .error (.missing _) => .error (.missingFile id path)
  | .error fault => .error (.file fault)

/-- The time of the last change of the file of a script, and its text. -/
def reading (files : Files) (id : String) (path : Text.Path) : Except Fault (Int × String) :=
  match files.timeOf id path with
  | .error fault => .error fault
  | .ok time =>
    match files.read path with
    | .error fault => .error (.file fault)
    | .ok code => .ok (time, code)

end Files

namespace Watch

/-- The state of the reloads of a script. -/
def slot (watch : Watch) (id : String) : Slot := (watch.slots.find? id).getD {}

/-- Change the state of the reloads of a script. -/
def withSlot (id : String) (slot : Slot) (watch : Watch) : Watch :=
  { watch with slots := Table.put id slot watch.slots }

/-- Change a record. -/
def tell (place : Nat) (change : WatchRecord → WatchRecord) (watch : Watch) : Watch :=
  { watch with records := watch.records.modify place change }

/-- Watch a script in place of the one under its identifier. -/
def withScript (id : String) (script : Script) (watch : Watch) : Watch :=
  { watch with scripts := Table.put id script watch.scripts }

/-- Let a reload wait. -/
def enqueue (id : String) (place : Nat) (watch : Watch) : Watch :=
  { watch with jobs := watch.jobs ++ [(id, place)] }

/-- Add a record in force. -/
def register (script : Script) (record : WatchRecord) (watch : Watch) : Watch :=
  { watch with
    records := watch.records.push record
    watched := Table.put script.id watch.records.size watch.watched
    scripts := Table.put script.id script watch.scripts
    slots := if watch.slots.has script.id then watch.slots else Table.put script.id {} watch.slots }

/-- Start to watch the file of a script. -/
def start (script : Script) (files : Files) (watch : Watch) : Except Fault WatchRecord × Watch :=
  match script.path with
  | none => (.error (.noPath script.id), watch)
  | some path =>
    match files.timeOf script.id path with
    | .error fault => (.error fault, watch)
    | .ok time => (.ok ⟨script.id, path, time, 0, none⟩,
        watch.register script ⟨script.id, path, time, 0, none⟩)

/-- Stop watching a script. -/
def stop (id : String) (watch : Watch) : Watch :=
  { watch with watched := watch.watched.erase id, scripts := watch.scripts.erase id }

/-- The first stage of a check. -/
def notice (script : Script) (files : Files) (watch : Watch) :
    Except Fault (Except World.CheckResult Nat) × Watch :=
  match watch.watched.find? script.id with
  | none => (.ok (.error ⟨script.id, .notWatched, none, none⟩), watch)
  | some place =>
    match watch.records[place]? with
    | none => (.ok (.error ⟨script.id, .notWatched, none, none⟩), watch)
    | some record =>
      match files.timeOf script.id record.path with
      | .error fault => (.error fault, watch)
      | .ok time =>
        if time ≤ record.time then (.ok (.error ⟨script.id, .unchanged, none, none⟩), watch)
        else (.ok (.ok place), (watch.tell place (·.observed time)).withScript script.id script)

/-- The second stage of a check. -/
def claim (id : String) (place : Nat) (watch : Watch) : Option World.CheckResult × Watch :=
  if (watch.slot id).running then
    (some ⟨id, .coalesced, none, none⟩, watch.withSlot id ⟨true, true⟩)
  else if watch.deferred then
    (some ⟨id, .scheduled, none, none⟩, (watch.withSlot id ⟨true, false⟩).enqueue id place)
  else (none, watch.withSlot id ⟨true, false⟩)

/-- The first stage of a reload. -/
def attempt (id : String) (place : Nat) (files : Files) (watch : Watch) :
    Except World.CheckResult Script × Watch :=
  match watch.scripts.find? id, watch.records[place]? with
  | some script, some record =>
    match files.reading id record.path with
    | .error fault => (.error ⟨id, .failed, none, some fault⟩, watch.tell place (·.failed fault))
    | .ok (time, code) =>
      (.ok (script.withSource script.language code), watch.tell place (·.seen time))
  | _, _ => (.error ⟨id, .discarded, none, none⟩, watch)

section

variable {watch : Watch} {files : Files} {id : String} {place : Nat} {script : Script}
  {record : WatchRecord}

/-- A file that cannot be read makes a reload fail. -/
theorem attempt_unread (scripted : watch.scripts.find? id = some script)
    (recorded : watch.records[place]? = some record) {fault : Fault}
    (reading : files.reading id record.path = .error fault) :
    watch.attempt id place files =
      (.error ⟨id, .failed, none, some fault⟩, watch.tell place (·.failed fault)) := by
  unfold attempt
  rw [scripted, recorded]
  dsimp only
  rw [reading]

/-- A file that can be read gives the script its text. -/
theorem attempt_read (scripted : watch.scripts.find? id = some script)
    (recorded : watch.records[place]? = some record) {time : Int} {code : String}
    (reading : files.reading id record.path = .ok (time, code)) :
    watch.attempt id place files =
      (.ok (script.withSource script.language code), watch.tell place (·.seen time)) := by
  unfold attempt
  rw [scripted, recorded]
  dsimp only
  rw [reading]

end

/-- The second stage of a reload. -/
def conclude (id : String) (place : Nat) (script : Script) (outcome : Except Fault (Option Nat))
    (watch : Watch) : Except Fault World.CheckResult × Watch :=
  match outcome with
  | .error fault =>
    if fault.isScriptFault then
      (.ok ⟨id, .failed, none, some fault⟩, watch.tell place (·.failed fault))
    else (.error fault, watch.withSlot id ⟨false, false⟩)
  | .ok none => (.ok ⟨id, .discarded, none, none⟩, watch)
  | .ok (some version) =>
    let watch := watch.tell place (·.renewed)
    (.ok ⟨id, .reloaded, some version, none⟩,
      if watch.scripts.has id then watch.withScript id script else watch)

/-- What follows a reload. -/
def settle (id : String) (result : World.CheckResult) (watch : Watch) :
    Option World.CheckResult × Watch :=
  if (watch.slot id).again then (none, watch.withSlot id ⟨true, false⟩)
  else (some result, watch.withSlot id ⟨false, false⟩)

end Watch

namespace World

variable {κ α β : Type} {world : World κ}

/-- The outcome of an operation is a result. -/
theorem ended_outcomeOf (act : Act κ α) (world : World κ) :
    ended (outcomeOf act) world = (.ok (ended act world).1, (ended act world).2) := by
  unfold outcomeOf
  rw [ended_tryCatch, ended_map]
  cases ended act world with
  | mk outcome after => cases outcome <;> rfl

/-- An operation ends with an outcome, and changes nothing but the watch, and what was announced. -/
def Shows (act : Act κ α) (world : World κ) (ending : Except Fault α × Watch) : Prop :=
  ∃ outbox, ended act world = (ending.1, { world with watch := ending.2, outbox := outbox })

namespace Shows

/-- A result. -/
theorem pure (result : α) : Shows (Pure.pure result : Act κ α) world (.ok result, world.watch) :=
  ⟨_, rfl⟩

/-- A fault. -/
theorem throw (fault : Fault) :
    Shows (MonadExcept.throw fault : Act κ α) world (.error fault, world.watch) :=
  ⟨_, rfl⟩

/-- An entry of the journal. -/
theorem say (part : String) (level : Log.Level) (message : String) :
    Shows (World.say part level message) world (.ok (), world.watch) :=
  ⟨_, rfl⟩

/-- A change of the watch. -/
theorem change (act : Watch → Watch) :
    Shows (changeWatch act) world (.ok (), act world.watch) :=
  ⟨_, rfl⟩

/-- A look at the world. -/
theorem look {next : World κ → Act κ α} {ending : Except Fault α × Watch}
    (goes : Shows (next world) world ending) : Shows (get >>= next) world ending :=
  goes

/-- An operation goes on from where its first step ends. -/
theorem bind {act : Act κ α} {next : α → Act κ β} {result : α} {watch : Watch}
    {ending : Except Fault β × Watch} (first : Shows act world (.ok result, watch))
    (goes : ∀ outbox, Shows (next result) { world with watch := watch, outbox := outbox } ending) :
    Shows (act >>= next) world ending := by
  obtain ⟨outbox, first⟩ := first
  obtain ⟨last, goes⟩ := goes outbox
  exact ⟨last, by rw [ended_bind, first]; exact goes⟩

/-- An operation ends if its first step fails. -/
theorem bind_error {act : Act κ α} {next : α → Act κ β} {fault : Fault} {watch : Watch}
    (first : Shows act world (.error fault, watch)) :
    Shows (act >>= next) world (.error fault, watch) := by
  obtain ⟨outbox, first⟩ := first
  exact ⟨outbox, by rw [ended_bind, first]⟩

/-- The outcome of an operation is a result. -/
theorem outcomeOf {act : Act κ α} {ending : Except Fault α × Watch}
    (shows : Shows act world ending) :
    Shows (World.outcomeOf act) world (.ok ending.1, ending.2) := by
  obtain ⟨outbox, shows⟩ := shows
  exact ⟨outbox, by rw [ended_outcomeOf, shows]⟩

end Shows

/-! ## Stages -/

/-- The time of the last change is looked up. -/
theorem Shows.changeTime (id : String) (path : Text.Path) :
    Shows (World.changeTime id path) world (world.files.timeOf id path, world.watch) := by
  unfold World.changeTime Files.timeOf
  refine Shows.look ?_
  cases world.files.find path with
  | ok node => exact Shows.pure _
  | error fault => cases fault <;> exact Shows.throw _

/-- The file of a record is read. -/
theorem Shows.readChange (record : WatchRecord) :
    Shows (World.readChange record) world
      (world.files.reading record.id record.path, world.watch) := by
  unfold World.readChange Files.reading
  have looks : Shows (World.changeTime record.id record.path) world _ := Shows.changeTime _ _
  cases found : world.files.timeOf record.id record.path with
  | error fault =>
    rw [found] at looks
    exact looks.bind_error
  | ok time =>
    rw [found] at looks
    refine looks.bind fun outbox => Shows.look ?_
    dsimp only
    cases world.files.read record.path with
    | error fault => exact Shows.bind_error (Shows.throw _)
    | ok code => exact Shows.bind (Shows.pure code) fun outbox => Shows.pure _

/-- A script is watched. -/
theorem Shows.startWatch (script : Script) :
    Shows (World.startWatch script) world (world.watch.start script world.files) := by
  unfold World.startWatch Watch.start
  cases script.path with
  | none => exact Shows.throw _
  | some path =>
    have looks : Shows (World.changeTime script.id path) world _ := Shows.changeTime _ _
    dsimp only
    cases found : world.files.timeOf script.id path with
    | error fault =>
      rw [found] at looks
      exact looks.bind_error
    | ok time =>
      rw [found] at looks
      refine looks.bind fun _ => (Shows.change _).bind fun _ => ?_
      exact (Shows.say ..).bind fun _ => Shows.pure _

/-- A script is watched no longer. -/
theorem Shows.stopWatch (id : String) :
    Shows (World.stopWatch id) world (.ok (world.watch.watched.has id), world.watch.stop id) :=
  Shows.look ((Shows.change _).bind fun _ => Shows.pure _)

/-- The first stage of a check. -/
theorem Shows.notice (script : Script) :
    Shows (World.notice script) world (world.watch.notice script world.files) := by
  unfold World.notice Watch.notice
  refine Shows.look ?_
  dsimp only
  cases world.watch.watched.find? script.id with
  | none => exact Shows.pure _
  | some place =>
    dsimp only
    cases world.watch.records[place]? with
    | none => exact Shows.pure _
    | some record =>
      have looks : Shows (World.changeTime script.id record.path) world _ := Shows.changeTime _ _
      dsimp only
      cases found : world.files.timeOf script.id record.path with
      | error fault =>
        rw [found] at looks
        exact looks.bind_error
      | ok time =>
        rw [found] at looks
        refine looks.bind fun _ => ?_
        dsimp only
        split
        · exact Shows.pure _
        · refine (Shows.change _).bind fun _ => (Shows.change _).bind fun _ => ?_
          exact (Shows.say ..).bind fun _ => Shows.pure _

/-- The second stage of a check. -/
theorem Shows.claim (id : String) (place : Nat) :
    Shows (World.claim id place) world
      (.ok (world.watch.claim id place).1, (world.watch.claim id place).2) := by
  unfold World.claim Watch.claim
  refine Shows.bind (Shows.look (Shows.pure _)) fun _ => ?_
  change Shows (if (world.watch.slot id).running = true then _ else _) _ _
  by_cases running : (world.watch.slot id).running = true
  · rw [if_pos running, if_pos running]
    exact (Shows.change _).bind fun _ => Shows.pure _
  · rw [if_neg running, if_neg running]
    refine (Shows.change _).bind fun _ => Shows.look ?_
    by_cases waits : world.watch.deferred = true
    · rw [if_pos waits, if_pos waits]
      refine Shows.bind (Shows.change _) fun _ => ?_
      exact Shows.pure _
    · rw [if_neg waits, if_neg waits]
      exact Shows.pure _

/-- A reload failed. -/
theorem Shows.failReload (id : String) (place : Nat) (fault : Fault) (message : String) :
    Shows (World.failReload id place fault message) world
      (.ok ⟨id, .failed, none, some fault⟩, world.watch.tell place (·.failed fault)) :=
  (Shows.change _).bind fun _ => (Shows.say ..).bind fun _ => Shows.pure _

/-- The first stage of a reload. -/
theorem Shows.attempt (id : String) (place : Nat) :
    Shows (World.attempt id place) world (.ok (world.watch.attempt id place world.files).1,
      (world.watch.attempt id place world.files).2) := by
  unfold World.attempt Watch.attempt
  refine Shows.look ?_
  dsimp only
  cases world.watch.scripts.find? id with
  | none => exact Shows.pure _
  | some script =>
    cases world.watch.records[place]? with
    | none => exact Shows.pure _
    | some record =>
      refine (Shows.readChange { record with id := id }).outcomeOf.bind fun _ => ?_
      dsimp only
      cases world.files.reading id record.path with
      | error fault => exact (Shows.failReload ..).bind fun _ => Shows.pure _
      | ok change => exact (Shows.change _).bind fun _ => Shows.pure _

/-- The second stage of a reload. -/
theorem Shows.conclude (id : String) (place : Nat) (script : Script)
    (outcome : Except Fault (Option Nat)) :
    Shows (World.conclude id place script outcome) world
      (world.watch.conclude id place script outcome) := by
  match outcome with
  | .error fault =>
    unfold World.conclude Watch.conclude
    dsimp only
    cases fault.isScriptFault with
    | true => exact Shows.failReload ..
    | false => exact (Shows.change _).bind fun _ => Shows.throw _
  | .ok none => exact Shows.pure _
  | .ok (some version) =>
    exact (Shows.change _).bind fun _ => (Shows.change _).bind fun _ => Shows.pure _

/-- What follows a reload. -/
theorem Shows.settle (id : String) (result : CheckResult) :
    Shows (World.settle id result) world
      (.ok (world.watch.settle id result).1, (world.watch.settle id result).2) := by
  unfold World.settle Watch.settle
  refine Shows.bind (Shows.look (Shows.pure _)) fun _ => ?_
  change Shows (if (world.watch.slot id).again then _ else _) _ _
  cases (world.watch.slot id).again with
  | true => exact (Shows.change _).bind fun _ => (Shows.say ..).bind fun _ => Shows.pure _
  | false => exact (Shows.change _).bind fun _ => Shows.pure _

end World

end Lag
