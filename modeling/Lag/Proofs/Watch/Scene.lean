import Lag.Proofs.Watch.Functions

/-!
# Scenes of a watch

While the engine reloads a script, anything may happen: scripts are checked, watched and no longer
watched, files are written, other reloads start, go on and end. A scene is a world in which reloads
are under way. It goes on in turns: each turn is an operation up to the moment at which the engine is
asked to reload a script, or what follows the answer of the engine. What the engine does in between,
with the modules, the stored scripts and the announcements, is left open. What one turn can do is said
once, and what a run of turns preserves follows from it.
-/
namespace Lag

/-- How far a reload that is under way has come. -/
inductive Stage where
  /-- The file of the script is to be read. -/
  | due
  /-- The engine reloads the script. -/
  | busy (script : Script)
  deriving DecidableEq, Repr

/-- A reload that is under way. -/
structure Reloading where
  /-- The identifier of the script. -/
  id : String
  /-- The place of the record. -/
  place : Nat
  /-- How far it has come. -/
  stage : Stage
  deriving DecidableEq, Repr

/-- What a watch saw. -/
inductive Sight (κ : Type) where
  /-- A check saw that the file of a record has changed. -/
  | noticed (id : String) (place : Nat)
  /-- A reload looked at the file of a record, in a world. -/
  | attempted (id : String) (place : Nat) (world : World κ)

/-- A world in which reloads are under way. -/
structure Scene (κ : Type) where
  /-- The world. -/
  world : World κ
  /-- The reloads that are under way. -/
  reloads : List Reloading := []
  /-- What was seen, the last one first. -/
  past : List (Sight κ) := []

/-- What may happen next in a scene. -/
inductive Turn (κ : Type) where
  /-- Something changes beside the watch and the files. -/
  | aside (world : World κ)
  /-- Files are written. -/
  | files (files : Files)
  /-- Start to watch a script. -/
  | watch (script : Script)
  /-- Stop watching a script. -/
  | unwatch (id : String)
  /-- Check a script. -/
  | check (script : Script)
  /-- Start the oldest reload that waits. -/
  | release
  /-- Read the file of a reload, and ask the engine, which may answer at once. -/
  | read (which : Nat) (answer : Option (Except Fault (Option Nat)))
  /-- Take over an answer of the engine for which a reload had to wait. -/
  | answer (which : Nat) (answer : Except Fault (Option Nat))

/-- The reload with which a turn goes on. -/
def Turn.reload? {κ : Type} : Turn κ → Option Nat
  | .read which _ => some which
  | .answer which _ => some which
  | _ => none

namespace Scene

variable {κ : Type}

/-- A scene in another world. -/
def withWorld (scene : Scene κ) (world : World κ) : Scene κ := { scene with world := world }

/-- A scene in which a reload got to a stage. -/
def reach (scene : Scene κ) (which : Nat) (reloading : Reloading) (stage : Stage) : Scene κ :=
  { scene with reloads := scene.reloads.set which { reloading with stage := stage } }

/-- A scene in which something was seen. -/
def sees (scene : Scene κ) (sight : Sight κ) : Scene κ := { scene with past := sight :: scene.past }

/-- A check of a script, up to the reload that it starts. -/
def checked (scene : Scene κ) (script : Script) : Scene κ :=
  match World.ended (World.notice script) scene.world with
  | (.ok (.ok place), world) =>
    let scene := (scene.withWorld world).sees (.noticed script.id place)
    match World.ended (World.claim script.id place) world with
    | (.ok none, world) =>
      { scene with world := world, reloads := scene.reloads ++ [⟨script.id, place, .due⟩] }
    | (_, world) => scene.withWorld world
  | (_, world) => scene.withWorld world

/-- The start of the oldest reload that waits. -/
def released (scene : Scene κ) : Scene κ :=
  match scene.world.watch.jobs with
  | [] => scene
  | (id, place) :: rest =>
    { scene with
      world := scene.world.withWatch fun watch => { watch with jobs := rest }
      reloads := scene.reloads ++ [⟨id, place, .due⟩] }

/-- What follows a reload: it is over, unless it is due again. -/
def closed (scene : Scene κ) (which : Nat) (reloading : Reloading) :
    Except Fault (Option World.CheckResult) × World κ → Scene κ
  | (.ok none, world) => (scene.withWorld world).reach which reloading .due
  | (_, world) => { scene with world := world, reloads := scene.reloads.eraseIdx which }

/-- The answer of the engine is taken over. -/
def answered (scene : Scene κ) (which : Nat) (reloading : Reloading) (script : Script)
    (answer : Except Fault (Option Nat)) : Scene κ :=
  scene.closed which reloading (World.ended
    (World.conclude reloading.id reloading.place script answer >>= World.settle reloading.id)
    scene.world)

/-- Whether a reload has a file to look at. -/
def looks (scene : Scene κ) (id : String) (place : Nat) : Bool :=
  scene.world.watch.scripts.has id && scene.world.watch.records[place]?.isSome

/-- The file of a reload is read, up to the question to the engine. -/
def read (scene : Scene κ) (which : Nat) (reloading : Reloading)
    (answer : Option (Except Fault (Option Nat))) : Scene κ :=
  let (id, place) := (reloading.id, reloading.place)
  let seen := if scene.looks id place then scene.sees (.attempted id place scene.world) else scene
  match World.ended (World.attempt id place) scene.world with
  | (.ok (.error result), world) =>
    (seen.withWorld world).closed which reloading (World.ended (World.settle id result) world)
  | (.ok (.ok script), world) =>
    match answer with
    | none => (seen.withWorld world).reach which reloading (.busy script)
    | some answer => (seen.withWorld world).answered which reloading script answer
  | (.error _, world) => seen.withWorld world

/-- Take a turn. -/
def step (scene : Scene κ) : Turn κ → Scene κ
  | .aside world =>
    scene.withWorld { world with watch := scene.world.watch, files := scene.world.files }
  | .files files => scene.withWorld { scene.world with files := files }
  | .watch script => scene.withWorld (World.ended (World.startWatch script) scene.world).2
  | .unwatch id => scene.withWorld (World.ended (World.stopWatch id) scene.world).2
  | .check script => scene.checked script
  | .release => scene.released
  | .read which answer =>
    match scene.reloads[which]? with
    | some ⟨id, place, .due⟩ => scene.read which ⟨id, place, .due⟩ answer
    | _ => scene
  | .answer which answer =>
    match scene.reloads[which]? with
    | some ⟨id, place, .busy script⟩ =>
      scene.answered which ⟨id, place, .busy script⟩ script answer
    | _ => scene

/-- Take turns in order. -/
def run (scene : Scene κ) (turns : List (Turn κ)) : Scene κ := turns.foldl step scene

/-- Each turn of a run is allowed in the scene in which it is taken. -/
def Allows (allowed : Scene κ → Turn κ → Prop) (scene : Scene κ) : List (Turn κ) → Prop
  | [] => True
  | turn :: rest => allowed scene turn ∧ Allows allowed (scene.step turn) rest

/-- Runs one after the other. -/
theorem run_append (scene : Scene κ) (turns others : List (Turn κ)) :
    scene.run (turns ++ others) = (scene.run turns).run others :=
  List.foldl_append

end Scene

/-! ## What a turn can do -/

/-- Whether an answer of the engine ends the reloads of a script for a reason outside the script. -/
def isOutside : Except Fault (Option Nat) → Bool
  | .error fault => !fault.isScriptFault
  | .ok _ => false

/-- Whether the engine answers with a fault outside the script in a turn. -/
def Turn.isOutside {κ : Type} : Turn κ → Bool
  | .read _ (some given) => Lag.isOutside given
  | .answer _ given => Lag.isOutside given
  | _ => false

/-- The watch after an answer of the engine; the state of the reloads is left alone. -/
def Watch.told (id : String) (place : Nat) (script : Script) (answer : Except Fault (Option Nat))
    (watch : Watch) : Watch :=
  match answer with
  | .error fault => if fault.isScriptFault then watch.tell place (·.failed fault) else watch
  | .ok none => watch
  | .ok (some _) =>
    let watch := watch.tell place (·.renewed)
    if watch.scripts.has id then watch.withScript id script else watch

/-- How a reload comes to its end in a scene: whether for a reason outside the script, the watch
before the reload is settled, and what was seen. -/
inductive Passed {κ : Type} (scene : Scene κ) (id : String) (place : Nat) :
    Stage → Bool → Watch → List (Sight κ) → Prop where
  /-- There was nothing to read. -/
  | gone (nothing : scene.looks id place = false) :
    Passed scene id place .due false scene.world.watch scene.past
  /-- The file could not be read. -/
  | unread {script : Script} {record : WatchRecord} {fault : Fault}
    (scripted : scene.world.watch.scripts.find? id = some script)
    (recorded : scene.world.watch.records[place]? = some record)
    (reading : scene.world.files.reading id record.path = .error fault) :
    Passed scene id place .due false (scene.world.watch.tell place (·.failed fault))
      (.attempted id place scene.world :: scene.past)
  /-- The engine answered at once. -/
  | atOnce {script : Script} {record : WatchRecord} {time : Int} {code : String}
    (scripted : scene.world.watch.scripts.find? id = some script)
    (recorded : scene.world.watch.records[place]? = some record)
    (reading : scene.world.files.reading id record.path = .ok (time, code))
    (answer : Except Fault (Option Nat)) :
    Passed scene id place .due (isOutside answer)
      ((scene.world.watch.tell place (·.seen time)).told id place
        (script.withSource script.language code) answer)
      (.attempted id place scene.world :: scene.past)
  /-- The engine answered after a while. -/
  | inTheEnd (script : Script) (answer : Except Fault (Option Nat)) :
    Passed scene id place (.busy script) (isOutside answer)
      (scene.world.watch.told id place script answer) scene.past

/-- How a reload is claimed: the watch and the reloads that are under way afterwards. -/
inductive Claimed (watch : Watch) (id : String) (place : Nat) (reloads : List Reloading) :
    Watch → List Reloading → Prop where
  /-- A reload that is under way, or waits, takes the change up. -/
  | takenUp (running : (watch.slot id).running = true) :
    Claimed watch id place reloads (watch.withSlot id ⟨true, true⟩) reloads
  /-- A reload waits. -/
  | waits (idle : (watch.slot id).running = false) :
    Claimed watch id place reloads ((watch.withSlot id ⟨true, false⟩).enqueue id place) reloads
  /-- A reload starts. -/
  | starts (idle : (watch.slot id).running = false) :
    Claimed watch id place reloads (watch.withSlot id ⟨true, false⟩)
      (reloads ++ [⟨id, place, .due⟩])

/-- What a turn can do to a scene. -/
inductive Took {κ : Type} (scene : Scene κ) : Turn κ → Scene κ → Prop where
  /-- Nothing happened to the watch and the files. -/
  | aside (turn : Turn κ) {world : World κ} (watch : world.watch = scene.world.watch)
    (files : world.files = scene.world.files) : Took scene turn (scene.withWorld world)
  /-- Files were written. -/
  | files (files : Files) :
    Took scene (.files files) (scene.withWorld { scene.world with files := files })
  /-- A script is watched. -/
  | watched {script : Script} {path : Text.Path} {time : Int} {world : World κ}
    (known : script.path = some path) (found : scene.world.files.timeOf script.id path = .ok time)
    (watch : world.watch = scene.world.watch.register script ⟨script.id, path, time, 0, none⟩)
    (files : world.files = scene.world.files) :
    Took scene (.watch script) (scene.withWorld world)
  /-- A script is no longer watched. -/
  | unwatched (id : String) {world : World κ} (watch : world.watch = scene.world.watch.stop id)
    (files : world.files = scene.world.files) :
    Took scene (.unwatch id) (scene.withWorld world)
  /-- A change was noticed, and the reload is claimed. -/
  | noticed {script : Script} {place : Nat} {record : WatchRecord} {time : Int} {world : World κ}
    {reloads : List Reloading}
    (inForce : scene.world.watch.watched.find? script.id = some place)
    (recorded : scene.world.watch.records[place]? = some record)
    (found : scene.world.files.timeOf script.id record.path = .ok time) (later : record.time < time)
    (claimed : Claimed
      ((scene.world.watch.tell place (·.observed time)).withScript script.id script)
      script.id place scene.reloads world.watch reloads)
    (files : world.files = scene.world.files) :
    Took scene (.check script) ⟨world, reloads, .noticed script.id place :: scene.past⟩
  /-- A reload that waited starts. -/
  | released {id : String} {place : Nat} {rest : List (String × Nat)} {world : World κ}
    (jobs : scene.world.watch.jobs = (id, place) :: rest)
    (watch : world.watch = { scene.world.watch with jobs := rest })
    (files : world.files = scene.world.files) :
    Took scene .release ⟨world, scene.reloads ++ [⟨id, place, .due⟩], scene.past⟩
  /-- A file was read, and the engine is asked to reload the script. -/
  | asked {which : Nat} {id : String} {place : Nat} {script : Script} {record : WatchRecord}
    {time : Int} {code : String} {world : World κ}
    (found : scene.reloads[which]? = some ⟨id, place, .due⟩)
    (scripted : scene.world.watch.scripts.find? id = some script)
    (recorded : scene.world.watch.records[place]? = some record)
    (reading : scene.world.files.reading id record.path = .ok (time, code))
    (watch : world.watch = scene.world.watch.tell place (·.seen time))
    (files : world.files = scene.world.files) :
    Took scene (.read which none)
      ⟨world, scene.reloads.set which ⟨id, place, .busy (script.withSource script.language code)⟩,
        .attempted id place scene.world :: scene.past⟩
  /-- The reloads of a script are over. -/
  | finished {turn : Turn κ} {which : Nat} {id : String} {place : Nat} {stage : Stage}
    {outside : Bool} {watch : Watch} {past : List (Sight κ)} {world : World κ}
    (about : turn.reload? = some which)
    (found : scene.reloads[which]? = some ⟨id, place, stage⟩)
    (passed : Passed scene id place stage outside watch past)
    (last : outside = false → (watch.slot id).again = false)
    (settled : world.watch = watch.withSlot id ⟨false, false⟩)
    (files : world.files = scene.world.files) (blamed : outside = true → turn.isOutside = true) :
    Took scene turn ⟨world, scene.reloads.eraseIdx which, past⟩
  /-- A reload is due again. -/
  | renewed {turn : Turn κ} {which : Nat} {id : String} {place : Nat} {stage : Stage}
    {watch : Watch} {past : List (Sight κ)} {world : World κ} (about : turn.reload? = some which)
    (found : scene.reloads[which]? = some ⟨id, place, stage⟩)
    (passed : Passed scene id place stage false watch past)
    (again : (watch.slot id).again = true)
    (settled : world.watch = watch.withSlot id ⟨true, false⟩)
    (files : world.files = scene.world.files) :
    Took scene turn ⟨world, scene.reloads.set which ⟨id, place, .due⟩, past⟩

/-- A reload is claimed in one of these ways. -/
theorem Watch.claimed (watch : Watch) (id : String) (place : Nat) (reloads : List Reloading) :
    Claimed watch id place reloads (watch.claim id place).2
      (if (watch.claim id place).1.isNone then reloads ++ [⟨id, place, .due⟩] else reloads) := by
  unfold Watch.claim
  by_cases running : (watch.slot id).running = true
  · rw [if_pos running]
    exact .takenUp running
  · have idle : (watch.slot id).running = false := by simpa using running
    rw [if_neg running]
    split
    · exact .waits idle
    · exact .starts idle

/-- What the watch makes of an answer, by whether it ends the reloads for a reason outside the
script. -/
theorem Watch.conclude_cases (id : String) (place : Nat) (script : Script)
    (answer : Except Fault (Option Nat)) (watch : Watch) :
    (isOutside answer = false ∧ ∃ result,
      watch.conclude id place script answer = (.ok result, watch.told id place script answer)) ∨
    (isOutside answer = true ∧ ∃ fault,
      watch.conclude id place script answer =
        (.error fault, (watch.told id place script answer).withSlot id ⟨false, false⟩)) := by
  match answer with
  | .error fault =>
    by_cases ours : fault.isScriptFault = true
    · refine .inl ⟨by simp [isOutside, ours], ⟨id, .failed, none, some fault⟩, ?_⟩
      simp only [Watch.conclude, Watch.told, if_pos ours]
    · refine .inr ⟨by simp [isOutside, ours], fault, ?_⟩
      simp only [Watch.conclude, Watch.told, if_neg ours]
  | .ok none => exact .inl ⟨rfl, _, rfl⟩
  | .ok (some version) => exact .inl ⟨rfl, _, rfl⟩

namespace Scene

variable {κ : Type} {scene : Scene κ}

/-- A check notices a change, or does nothing to the watch. -/
theorem took_checked (scene : Scene κ) (script : Script) :
    Took scene (.check script) (scene.checked script) := by
  obtain ⟨outbox, notices⟩ : World.Shows (World.notice script) scene.world _ :=
    World.Shows.notice script
  unfold checked
  rw [notices]
  unfold Watch.notice
  cases inForce : scene.world.watch.watched.find? script.id with
  | none => exact .aside _ rfl rfl
  | some place =>
    dsimp only
    cases recorded : scene.world.watch.records[place]? with
    | none => exact .aside _ rfl rfl
    | some record =>
      dsimp only
      cases found : scene.world.files.timeOf script.id record.path with
      | error fault => exact .aside _ rfl rfl
      | ok time =>
        dsimp only
        by_cases unchanged : time ≤ record.time
        · rw [if_pos unchanged]
          exact .aside _ rfl rfl
        · rw [if_neg unchanged]
          dsimp only
          obtain ⟨last, claims⟩ : World.Shows (World.claim script.id place) { scene.world with
            watch := (scene.world.watch.tell place (·.observed time)).withScript script.id script
            outbox := outbox } _ := World.Shows.claim script.id place
          have claimed := Watch.claimed
            ((scene.world.watch.tell place (·.observed time)).withScript script.id script)
            script.id place scene.reloads
          rw [claims]
          revert claimed
          dsimp only
          generalize Watch.claim script.id place _ = claim
          obtain ⟨result, left⟩ := claim
          cases result <;>
            exact fun claimed => .noticed inForce recorded found (by omega) claimed rfl

/-- The oldest reload that waits starts, if there is one. -/
theorem took_released (scene : Scene κ) : Took scene .release scene.released := by
  unfold released
  cases jobs : scene.world.watch.jobs with
  | nil => exact .aside _ rfl rfl
  | cons job rest => exact .released jobs rfl rfl

/-- A reload that came to its end is over or due again. -/
theorem took_closed {turn : Turn κ} {which : Nat} {id : String} {place : Nat} {stage : Stage}
    {watch : Watch} {past : List (Sight κ)} (about : turn.reload? = some which)
    (found : scene.reloads[which]? = some ⟨id, place, stage⟩)
    (passed : Passed scene id place stage false watch past) (result : World.CheckResult)
    {world : World κ} (isWatch : world.watch = watch) (files : world.files = scene.world.files) :
    Took scene turn (closed ⟨world, scene.reloads, past⟩ which ⟨id, place, stage⟩
      (World.ended (World.settle id result) world)) := by
  subst isWatch
  obtain ⟨outbox, settles⟩ : World.Shows (World.settle id result) world _ :=
    World.Shows.settle id result
  rw [settles]
  unfold Watch.settle
  by_cases again : (world.watch.slot id).again = true
  · rw [if_pos again]
    exact .renewed about found passed again rfl files
  · rw [if_neg again]
    exact .finished about found passed (fun _ => by simpa using again) rfl files nofun

/-- An answer of the engine is taken over, and the reload is settled unless the answer ends it. -/
theorem took_answered {turn : Turn κ} {which : Nat} {id : String} {place : Nat} {stage : Stage}
    {script : Script} {answer : Except Fault (Option Nat)} {watch : Watch} {past : List (Sight κ)}
    (about : turn.reload? = some which) (found : scene.reloads[which]? = some ⟨id, place, stage⟩)
    (passed : Passed scene id place stage (isOutside answer) (watch.told id place script answer)
      past)
    {world : World κ} (isWatch : world.watch = watch) (files : world.files = scene.world.files)
    (blamed : isOutside answer = true → turn.isOutside = true) :
    Took scene turn
      (answered ⟨world, scene.reloads, past⟩ which ⟨id, place, stage⟩ script answer) := by
  subst isWatch
  obtain ⟨outbox, concludes⟩ : World.Shows (World.conclude id place script answer) world _ :=
    World.Shows.conclude id place script answer
  unfold answered
  rw [World.ended_bind, concludes]
  rcases world.watch.conclude_cases id place script answer with
    ⟨inside, result, is⟩ | ⟨outside, fault, is⟩
  · rw [is]
    rw [inside] at passed
    exact took_closed about found passed result rfl files
  · rw [is]
    rw [outside] at passed
    exact .finished about found passed (fun no => by cases no) rfl files fun _ => blamed outside

/-- A reload has a file to look at if its script and its record are there. -/
theorem looks_of_found {id : String} {place : Nat} {script : Script} {record : WatchRecord}
    (scripted : scene.world.watch.scripts.find? id = some script)
    (recorded : scene.world.watch.records[place]? = some record) : scene.looks id place = true := by
  simp [looks, Table.has, scripted, recorded]

/-- A reload reads its file, and comes to its end or waits for the engine. -/
theorem took_read {which : Nat} {id : String} {place : Nat}
    (found : scene.reloads[which]? = some ⟨id, place, .due⟩)
    (answer : Option (Except Fault (Option Nat))) :
    Took scene (.read which answer) (scene.read which ⟨id, place, .due⟩ answer) := by
  obtain ⟨outbox, attempts⟩ : World.Shows (World.attempt id place) scene.world _ :=
    World.Shows.attempt id place
  unfold read
  dsimp only
  rw [attempts]
  cases looking : scene.looks id place with
  | false =>
    have gone : scene.world.watch.attempt id place scene.world.files =
        (.error ⟨id, .discarded, none, none⟩, scene.world.watch) := by
      unfold Watch.attempt
      split
      · rename_i script record scripted recorded
        rw [looks_of_found scripted recorded] at looking
        cases looking
      · rfl
    rw [gone]
    exact took_closed rfl found (.gone looking) _ rfl rfl
  | true =>
    obtain ⟨scripted, recorded⟩ := Bool.and_eq_true_iff.1 looking
    obtain ⟨script, scripted⟩ := Option.isSome_iff_exists.1 scripted
    obtain ⟨record, recorded⟩ := Option.isSome_iff_exists.1 recorded
    cases reading : scene.world.files.reading id record.path with
    | error fault =>
      rw [Watch.attempt_unread scripted recorded reading]
      exact took_closed rfl found (.unread scripted recorded reading) _ rfl rfl
    | ok change =>
      obtain ⟨time, code⟩ := change
      rw [Watch.attempt_read scripted recorded reading]
      cases answer with
      | none => exact .asked found scripted recorded reading rfl rfl
      | some answer =>
        exact took_answered rfl found (.atOnce scripted recorded reading answer) rfl rfl
          fun outside => outside

/-- A turn does one of these things. -/
theorem took (scene : Scene κ) (turn : Turn κ) : Took scene turn (scene.step turn) := by
  cases turn with
  | aside world => exact .aside _ rfl rfl
  | files files => exact .files files
  | watch script =>
    obtain ⟨outbox, starts⟩ : World.Shows (World.startWatch script) scene.world _ :=
      World.Shows.startWatch script
    change Took scene _ (scene.withWorld (World.ended (World.startWatch script) scene.world).2)
    rw [starts]
    unfold Watch.start
    cases known : script.path with
    | none => exact .aside _ rfl rfl
    | some path =>
      dsimp only
      cases found : scene.world.files.timeOf script.id path with
      | error fault => exact .aside _ rfl rfl
      | ok time => exact .watched known found rfl rfl
  | unwatch id =>
    obtain ⟨outbox, stops⟩ : World.Shows (World.stopWatch id) scene.world _ :=
      World.Shows.stopWatch id
    change Took scene _ (scene.withWorld (World.ended (World.stopWatch id) scene.world).2)
    rw [stops]
    exact .unwatched id rfl rfl
  | check script => exact took_checked scene script
  | release => exact took_released scene
  | read which answer =>
    unfold step
    dsimp only
    split
    · rename_i id place found
      exact took_read found answer
    · exact .aside _ rfl rfl
  | answer which answer =>
    unfold step
    dsimp only
    split
    · rename_i id place script found
      exact took_answered rfl found (.inTheEnd script answer) rfl rfl fun outside => outside
    · exact .aside _ rfl rfl

/-- The files after a turn. -/
def filesAfter (scene : Scene κ) : Turn κ → Files
  | .files files => files
  | _ => scene.world.files

/-- Only writing files changes the files. -/
theorem files_step (scene : Scene κ) (turn : Turn κ) :
    (scene.step turn).world.files = scene.filesAfter turn := by
  have others {after : Scene κ} (took : Took scene turn after)
      (reads : ∀ files, turn ≠ .files files) : after.world.files = scene.world.files := by
    cases took with
    | files files => exact absurd rfl (reads files)
    | aside _ _ files | watched _ _ _ files | unwatched _ _ files | noticed _ _ _ _ _ files
    | released _ _ files | asked _ _ _ _ _ files | finished _ _ _ _ _ files
    | renewed _ _ _ _ _ files => exact files
  cases turn with
  | files => rfl
  | _ => exact others (took scene _) fun files is => by cases is

/-- What holds at first and is preserved by every turn that is allowed holds after every run. -/
theorem run_preserves {allowed : Scene κ → Turn κ → Prop} {holds : Scene κ → Prop}
    (preserves : ∀ {scene after : Scene κ} {turn}, allowed scene turn → holds scene →
      Took scene turn after → holds after)
    {turns : List (Turn κ)} (all : scene.Allows allowed turns) (first : holds scene) :
    holds (scene.run turns) := by
  induction turns generalizing scene with
  | nil => exact first
  | cons turn rest ih => exact ih all.2 (preserves all.1 first (took scene turn))

/-- Turns that are always allowed are allowed in a run. -/
theorem allows_of_forall {allowed : Turn κ → Prop} {turns : List (Turn κ)}
    (all : ∀ turn ∈ turns, allowed turn) (scene : Scene κ) :
    scene.Allows (fun _ => allowed) turns := by
  induction turns generalizing scene with
  | nil => trivial
  | cons turn rest ih =>
    obtain ⟨now, later⟩ := List.forall_mem_cons.1 all
    exact ⟨now, ih later _⟩

end Scene

end Lag
