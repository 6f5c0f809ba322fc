import Lag.Proofs.Watch.Single

/-!
# Reloads follow the records in force

A reload keeps the record for which it was started. So it looks at the file of the record in force,
and its outcome is stored there, as long as no script is watched anew while a reload of it is under
way or waits. When a script is watched anew in the meantime, the reload goes on with the file of the
record that is no longer in force, and a change of the new file that is noticed is taken up by that
reload.
-/
namespace Lag

variable {κ : Type}

/-- A record after an answer of the engine. -/
def WatchRecord.answered (answer : Except Fault (Option Nat)) (record : WatchRecord) : WatchRecord :=
  match answer with
  | .error fault => if fault.isScriptFault then record.failed fault else record
  | .ok none => record
  | .ok (some _) => record.renewed

/-- A record after its file was read, and perhaps the engine answered at once. -/
def WatchRecord.looked (reading : Except Fault (Int × String))
    (answer : Option (Except Fault (Option Nat))) (record : WatchRecord) : WatchRecord :=
  match reading, answer with
  | .error fault, _ => record.failed fault
  | .ok (time, _), none => record.seen time
  | .ok (time, _), some answer => (record.seen time).answered answer

/-- The text of a file that was read. -/
theorem Files.read_of_reading {files : Files} {id : String} {path : Text.Path} {time : Int}
    {code : String} (reading : files.reading id path = .ok (time, code)) :
    files.read path = .ok code := by
  unfold Files.reading at reading
  split at reading
  · cases reading
  · split at reading
    · cases reading
    · rename_i read
      cases reading
      exact read

/-! ## Outcomes -/

/-- A record that is changed to what it is. -/
theorem modify_same (records : Array WatchRecord) (place : Nat) :
    records.modify place (fun record => record) = records := by
  apply Array.ext_getElem?
  intro other
  rw [Array.getElem?_modify]
  split
  · exact Option.map_id_fun'.symm ▸ rfl
  · rfl

/-- A record that is changed twice. -/
theorem modify_modify (records : Array WatchRecord) (place : Nat)
    (change next : WatchRecord → WatchRecord) :
    (records.modify place change).modify place next =
      records.modify place fun record => next (change record) := by
  apply Array.ext_getElem?
  intro other
  simp only [Array.getElem?_modify]
  split
  · exact Option.map_map ..
  · rfl

/-- An answer of the engine is stored on the record of the reload, and on no other. -/
theorem Watch.records_told (id : String) (place : Nat) (script : Script)
    (answer : Except Fault (Option Nat)) (watch : Watch) :
    (watch.told id place script answer).records =
      watch.records.modify place (·.answered answer) := by
  match answer with
  | .error fault =>
    unfold told WatchRecord.answered
    dsimp only
    split
    · rfl
    · exact (modify_same ..).symm
  | .ok none => exact (modify_same ..).symm
  | .ok (some version) =>
    unfold told
    dsimp only
    split <;> rfl

namespace Scene

variable {scene after : Scene κ}

/-- Settling a reload writes to no record. -/
theorem records_closed (scene : Scene κ) (which : Nat) (reloading : Reloading)
    (result : World.CheckResult) (world : World κ) :
    (scene.closed which reloading
      (World.ended (World.settle reloading.id result) world)).world.watch.records =
      world.watch.records := by
  obtain ⟨outbox, settles⟩ : World.Shows (World.settle reloading.id result) world _ :=
    World.Shows.settle reloading.id result
  rw [settles]
  unfold Watch.settle
  split <;> rfl

/-- An answer of the engine is stored on the record of the reload. -/
theorem records_answered (scene : Scene κ) (which : Nat) (reloading : Reloading) (script : Script)
    (answer : Except Fault (Option Nat)) :
    (scene.answered which reloading script answer).world.watch.records =
      scene.world.watch.records.modify reloading.place (·.answered answer) := by
  obtain ⟨id, place, stage⟩ := reloading
  rw [← Watch.records_told id place script answer]
  obtain ⟨outbox, concludes⟩ : World.Shows (World.conclude id place script answer) scene.world _ :=
    World.Shows.conclude id place script answer
  unfold answered
  rw [World.ended_bind, concludes]
  rcases scene.world.watch.conclude_cases id place script answer with
    ⟨-, result, is⟩ | ⟨-, fault, is⟩
  · rw [is]
    exact records_closed scene which ⟨id, place, stage⟩ result _
  · rw [is]
    rfl

/-- What a reload sees at its file is stored on its record. -/
theorem records_read {id : String} {place : Nat} {script : Script} {record : WatchRecord}
    (scripted : scene.world.watch.scripts.find? id = some script)
    (recorded : scene.world.watch.records[place]? = some record) (which : Nat)
    (answer : Option (Except Fault (Option Nat))) :
    (scene.read which ⟨id, place, .due⟩ answer).world.watch.records =
      scene.world.watch.records.modify place
        (·.looked (scene.world.files.reading id record.path) answer) := by
  obtain ⟨outbox, attempts⟩ : World.Shows (World.attempt id place) scene.world _ :=
    World.Shows.attempt id place
  unfold read
  dsimp only
  rw [attempts]
  cases reading : scene.world.files.reading id record.path with
  | error fault =>
    rw [Watch.attempt_unread scripted recorded reading]
    exact records_closed _ which ⟨id, place, .due⟩ _ _
  | ok change =>
    obtain ⟨time, code⟩ := change
    rw [Watch.attempt_read scripted recorded reading]
    cases answer with
    | none => rfl
    | some answer =>
      refine (records_answered _ which ⟨id, place, .due⟩ _ answer).trans ?_
      exact modify_modify ..

/-! ## Records in force -/

/-- Whether a reload of a script for the record at a place is under way or waits. -/
def Reloads (scene : Scene κ) (id : String) (place : Nat) : Prop :=
  (∃ stage, ⟨id, place, stage⟩ ∈ scene.reloads) ∨ (id, place) ∈ scene.world.watch.jobs

/-- A script is an owner of its reloads. -/
theorem mem_owners {id : String} {place : Nat} (reloads : scene.Reloads id place) :
    id ∈ scene.owners := by
  rcases reloads with ⟨stage, inside⟩ | waits
  · exact List.mem_append_left _ (List.mem_map.2 ⟨_, inside, rfl⟩)
  · exact List.mem_append_right _ (List.mem_map.2 ⟨_, waits, rfl⟩)

/-- The reloads that are under way or wait are for the records in force. -/
structure Current (scene : Scene κ) : Prop where
  /-- Turns led to the scene. -/
  sane : scene.Sane
  /-- A reload of a script that is watched is for the record in force. -/
  place : ∀ {id place spot}, scene.world.watch.watched.find? id = some spot →
    scene.Reloads id place → place = spot
  /-- A reload that looked at a file did so for the record in force. -/
  looked : ∀ {id place world}, .attempted id place world ∈ scene.past →
    world.watch.watched.find? id = some place
  /-- The engine reloads a script with the text of the file at which a reload looked. -/
  asked : ∀ {id place script}, ⟨id, place, .busy script⟩ ∈ scene.reloads →
    ∃ world record, .attempted id place world ∈ scene.past ∧
      world.watch.records[place]? = some record ∧ world.files.read record.path = .ok script.code

/-- A turn that watches no script whose reload is under way or waits. -/
def WatchesIdle (scene : Scene κ) (turn : Turn κ) : Prop :=
  ∀ id ∈ scene.owners, turn.watches id = false

/-- A reload that looks at a file does so for the record in force. -/
theorem Current.inForce (current : scene.Current) {which : Nat} {id : String} {place : Nat}
    {stage : Stage} {script : Script} (found : scene.reloads[which]? = some ⟨id, place, stage⟩)
    (scripted : scene.world.watch.scripts.find? id = some script) :
    scene.world.watch.watched.find? id = some place := by
  have watched : scene.world.watch.watched.has id = true := by
    rw [current.sane.watched, Table.has, scripted]
    rfl
  obtain ⟨spot, inForce⟩ := Option.isSome_iff_exists.1 watched
  rw [current.place inForce (.inl ⟨stage, List.mem_of_getElem? found⟩)]
  exact inForce

/-- A record in force was so before every turn that does not watch its script. -/
theorem Sane.wasInForce (sane : scene.Sane) {turn : Turn κ} (took : Took scene turn after)
    {id : String} (watches : turn.watches id = false) {place : Nat}
    (inForce : after.world.watch.watched.find? id = some place) :
    scene.world.watch.watched.find? id = some place := by
  by_cases unwatches : turn.unwatches id = true
  · cases took with
    | aside _ watch =>
      rw [← watch]
      exact inForce
    | unwatched other watch =>
      cases beq_iff_eq.1 unwatches
      rw [withWorld, watch] at inForce
      cases (Table.find?_erase ..).symm.trans inForce
    | finished about | renewed about =>
      rw [Turn.reload?_of_unwatches unwatches] at about
      cases about
    | _ => cases unwatches
  · exact (sane.inForce took watches (by simpa using unwatches)).symm.trans inForce

/-- Watching a script starts no reload. -/
theorem reloads_of_watches {turn : Turn κ} (took : Took scene turn after) {id : String}
    (watches : turn.watches id = true) {other : String} {place : Nat}
    (reloads : after.Reloads other place) : scene.Reloads other place := by
  cases took with
  | aside _ watch =>
    rw [Reloads, withWorld, watch] at reloads
    exact reloads
  | watched _ _ watch =>
    rw [Reloads, withWorld, watch] at reloads
    exact reloads
  | finished about | renewed about =>
    rw [Turn.reload?_of_watches watches] at about
    cases about
  | _ => cases watches

/-- Reloads stay for the records in force. -/
theorem Current.place_step (current : scene.Current) {turn : Turn κ}
    (idle : scene.WatchesIdle turn) (took : Took scene turn after) {id : String} {place spot : Nat}
    (inForce : after.world.watch.watched.find? id = some spot) (reloads : after.Reloads id place) :
    place = spot := by
  by_cases watches : turn.watches id = true
  · rw [idle id (mem_owners (reloads_of_watches took watches reloads))] at watches
    cases watches
  · rw [Bool.not_eq_true] at watches
    have before := current.sane.wasInForce took watches inForce
    rcases current.sane.refers took watches (.inr reloads) with same | started
    · exact Option.some.inj (same.symm.trans before)
    · exact current.place before started

/-- What a reload that comes to its end saw, it saw at the file of the record in force. -/
theorem Current.looked_passed (current : scene.Current) {which : Nat} {id : String} {place : Nat}
    {stage : Stage} (found : scene.reloads[which]? = some ⟨id, place, stage⟩) {outside : Bool}
    {watch : Watch} {past : List (Sight κ)}
    (passed : Passed scene id place stage outside watch past) {other : String} {spot : Nat}
    {world : World κ} (seen : .attempted other spot world ∈ past) :
    world.watch.watched.find? other = some spot := by
  cases passed with
  | gone | inTheEnd => exact current.looked seen
  | unread scripted | atOnce scripted =>
    rcases List.mem_cons.1 seen with is | before
    · cases is
      exact current.inForce found scripted
    · exact current.looked before

/-- What was seen stays seen when a reload comes to its end. -/
theorem mem_passed {id : String} {place : Nat} {stage : Stage} {outside : Bool} {watch : Watch}
    {past : List (Sight κ)} (passed : Passed scene id place stage outside watch past)
    {sight : Sight κ} (seen : sight ∈ scene.past) : sight ∈ past := by
  cases passed with
  | gone | inTheEnd => exact seen
  | unread | atOnce => exact List.mem_cons_of_mem _ seen

/-- The engine is asked to reload a script with the text at which a reload just looked. -/
theorem Current.asked_step (current : scene.Current) {turn : Turn κ} (took : Took scene turn after)
    {id : String} {place : Nat} {script : Script}
    (inside : ⟨id, place, .busy script⟩ ∈ after.reloads) :
    ∃ world record, .attempted id place world ∈ after.past ∧
      world.watch.records[place]? = some record ∧
        world.files.read record.path = .ok script.code := by
  have before (was : ⟨id, place, .busy script⟩ ∈ scene.reloads)
      (kept : ∀ {sight}, sight ∈ scene.past → sight ∈ after.past) :
      ∃ world record, .attempted id place world ∈ after.past ∧
        world.watch.records[place]? = some record ∧
        world.files.read record.path = .ok script.code := by
    obtain ⟨world, record, seen, recorded, read⟩ := current.asked was
    exact ⟨world, record, kept seen, recorded, read⟩
  cases took with
  | aside | files | watched | unwatched => exact before inside fun seen => seen
  | @noticed _ _ _ _ world _ _ _ _ _ claimed =>
    refine before ?_ (List.mem_cons_of_mem _)
    generalize world.watch = watch at claimed
    cases claimed with
    | takenUp | waits => exact inside
    | starts =>
      refine (List.mem_append.1 inside).resolve_right fun last => ?_
      cases List.mem_singleton.1 last
  | released =>
    refine before ((List.mem_append.1 inside).resolve_right fun last => ?_) fun seen => seen
    cases List.mem_singleton.1 last
  | @asked which other spot _ record time code _ found scripted recorded reading =>
    rcases List.mem_or_eq_of_mem_set inside with was | is
    · exact before was (List.mem_cons_of_mem _)
    · cases is
      exact ⟨scene.world, record, List.mem_cons_self, recorded, Files.read_of_reading reading⟩
  | finished _ _ passed =>
    exact before (List.mem_of_mem_eraseIdx inside) (mem_passed passed)
  | renewed _ _ passed =>
    refine before ((List.mem_or_eq_of_mem_set inside).resolve_right fun is => ?_) (mem_passed passed)
    cases is

/-- Every turn that watches no script whose reload is under way or waits leaves the reloads for the
records in force. -/
theorem Current.step (current : scene.Current) {turn : Turn κ} (idle : scene.WatchesIdle turn)
    (took : Took scene turn after) : after.Current where
  sane := current.sane.step took
  place := current.place_step idle took
  looked {id place world} seen := by
    cases took with
    | aside | files | watched | unwatched | released => exact current.looked seen
    | noticed =>
      refine current.looked ((List.mem_cons.1 seen).resolve_left fun is => ?_)
      cases is
    | asked found scripted =>
      rcases List.mem_cons.1 seen with is | before
      · cases is
        exact current.inForce found scripted
      · exact current.looked before
    | finished _ found passed => exact current.looked_passed found passed seen
    | renewed _ found passed => exact current.looked_passed found passed seen
  asked := current.asked_step took

/-- Nothing is reloaded in a scene in which nothing was watched. -/
theorem IsFresh.current (fresh : scene.IsFresh) : scene.Current where
  sane := fresh.sane
  place inForce := by
    obtain ⟨deferred, watch⟩ := fresh.watch
    rw [watch] at inForce
    cases inForce
  looked seen := by
    rw [fresh.past] at seen
    cases seen
  asked inside := by
    rw [fresh.reloads] at inside
    cases inside

/-- Each reload follows one record, which is the one in force when it looks at the file. -/
structure FollowsRecords (scene : Scene κ) : Prop where
  /-- A reload that looked at a file did so for the record in force. -/
  looked : ∀ {id place world}, .attempted id place world ∈ scene.past →
    world.watch.watched.find? id = some place
  /-- The engine reloads a script with the text of the file at which a reload looked. -/
  asked : ∀ {id place script}, ⟨id, place, .busy script⟩ ∈ scene.reloads →
    ∃ world record, .attempted id place world ∈ scene.past ∧
      world.watch.records[place]? = some record ∧ world.files.read record.path = .ok script.code
  /-- A reload that is to look at a file will look at the file of the record in force, and stores
  what comes of it on that record and on no other. -/
  reads : ∀ {which id place script}, scene.reloads[which]? = some ⟨id, place, .due⟩ →
    scene.world.watch.scripts.find? id = some script → ∃ record,
      scene.world.watch.watched.find? id = some place ∧
      scene.world.watch.records[place]? = some record ∧ record.id = id ∧
      ∀ answer, (scene.step (.read which answer)).world.watch.records =
        scene.world.watch.records.modify place
          (·.looked (scene.world.files.reading id record.path) answer)
  /-- The answer of the engine is stored on the record for which the reload looked at the file, and
  on no other. -/
  answers : ∀ {which id place script}, scene.reloads[which]? = some ⟨id, place, .busy script⟩ →
    ∀ answer, (scene.step (.answer which answer)).world.watch.records =
      scene.world.watch.records.modify place (·.answered answer)

/-- Reloads follow the records in force. -/
theorem Current.follows (current : scene.Current) : scene.FollowsRecords where
  looked := current.looked
  asked := current.asked
  reads {which id place script} found scripted := by
    have inForce := current.inForce found scripted
    obtain ⟨record, recorded, own⟩ := current.sane.record (.inl inForce)
    refine ⟨record, inForce, recorded, own, fun answer => ?_⟩
    unfold Scene.step
    dsimp only
    rw [found]
    exact records_read scripted recorded which answer
  answers {which id place script} found answer := by
    unfold Scene.step
    dsimp only
    rw [found]
    dsimp only
    exact records_answered scene which ⟨id, place, .busy script⟩ script answer

end Scene

/-- In every run in which no script is watched anew while a reload of it is under way or waits, a
reload that looks at a file looks at that of the record in force, the engine is asked to reload the
script with the text that is there, and what comes of it is stored on that record alone. -/
theorem reload_registered {scene : Scene κ} (fresh : scene.IsFresh) {turns : List (Turn κ)}
    (idle : scene.Allows Scene.WatchesIdle turns) : (scene.run turns).FollowsRecords :=
  Scene.Current.follows
    (Scene.run_preserves (fun idle current took => current.step idle took) idle fresh.current)

/-- The first reload that looks at a file that changes does so for the only record. -/
theorem reload_registered_changing :
    (⟨filedWorld, [], []⟩ : Scene Unit).IsFresh ∧
      (⟨filedWorld, [], []⟩ : Scene Unit).Allows Scene.WatchesIdle (.watch filed :: changing) ∧
      let scene := (⟨filedWorld, [], []⟩ : Scene Unit).run (.watch filed :: changing)
      scene.FollowsRecords ∧ scene.past.length = 3 := by
  have fresh : (⟨filedWorld, [], []⟩ : Scene Unit).IsFresh := ⟨⟨false, rfl⟩, rfl, rfl⟩
  have idle : (⟨filedWorld, [], []⟩ : Scene Unit).Allows Scene.WatchesIdle
      (.watch filed :: changing) :=
    ⟨fun _ inside => (by cases inside), fun _ _ => rfl, fun _ _ => rfl, fun _ _ => rfl,
      fun _ _ => rfl, fun _ _ => rfl, trivial⟩
  exact ⟨fresh, idle, reload_registered fresh idle, by decide +kernel⟩

/-- Whether a reload looked at the file of the record in force, if it looked at one. -/
def Sight.isRegistered : Sight κ → Bool
  | .noticed _ _ => true
  | .attempted id place world => world.watch.watched.find? id == some place

/-- Reloads that follow the records in force look at no other files. -/
theorem Scene.FollowsRecords.all_registered {scene : Scene κ} (follows : scene.FollowsRecords) :
    scene.past.all Sight.isRegistered = true := by
  refine List.all_eq_true.2 fun sight seen => ?_
  cases sight with
  | noticed => rfl
  | attempted id place world => exact beq_iff_eq.2 (follows.looked seen)

/-- Two files, which were written at two times. -/
def writtenBoth (first second : Int) : Files :=
  { nodes := [(["f.lag"], .file "fn f() -> int \x7b return 1; \x7d".toUTF8 first),
      (["g.lag"], .file "fn g() -> int \x7b return 2; \x7d".toUTF8 second)] }

/-- A script with the first file. -/
def filedFirst : Script := ⟨"a", .lag, "", some ⟨0, ["f.lag"]⟩⟩

/-- A script under the same identifier, with the second file. -/
def filedSecond : Script := ⟨"a", .lag, "", some ⟨0, ["g.lag"]⟩⟩

/-- A world with both files, in which reloads wait until they are run. -/
def deferredWorld : World Unit :=
  { World.initial () with files := writtenBoth 1 1, watch := { deferred := true } }

/-- A script is watched with the second file while a reload for the first one waits. The second file
changes, and the change is taken up by the reload. -/
def replacing : Act Unit (Option World.CheckResult) := do
  let _ ← World.startWatch filedFirst
  modify fun world => { world with files := writtenBoth 2 1 }
  let _ ← World.check Hooks.none 5 filedFirst
  let _ ← World.stopWatch "a"
  let _ ← World.startWatch filedSecond
  modify fun world => { world with files := writtenBoth 2 2 }
  let _ ← World.check Hooks.none 5 filedSecond
  World.runJob Hooks.none 5

/-- The same as a run of turns, up to the first look at a file. -/
def replacingTurns : List (Turn Unit) :=
  [.watch filedFirst, .files (writtenBoth 2 1), .check filedFirst, .unwatch "a", .watch filedSecond,
    .files (writtenBoth 2 2), .check filedSecond, .release, .read 0 (some (.ok (some 1)))]

/-- The reload looks at the first file, which is not that of the record in force. When it is over, the
first file is loaded, and the change of the second one, which was noticed, is lost. -/
theorem reload_unregistered_replacing :
    ¬ ((⟨deferredWorld, [], []⟩ : Scene Unit).run replacingTurns).FollowsRecords ∧
      let world := (World.ended replacing deferredWorld).2
      world.watch.watched.find? "a" = some 1 ∧
        (world.watch.records[1]?.map fun record => (record.path, record.time, record.reloads)) =
          some (⟨0, ["g.lag"]⟩, 2, 0) ∧
        world.watch.jobs = [] ∧ world.watch.slot "a" = ⟨false, false⟩ ∧
        (world.engine.stored.find? "a").map (·.code) =
          some "fn f() -> int \x7b return 1; \x7d" := by
  refine ⟨fun follows => ?_, by decide +kernel⟩
  have registered := follows.all_registered
  exact absurd registered (by decide +kernel)

end Lag
