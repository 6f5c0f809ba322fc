import Lag.Proofs.Watch.Single
import Lag.World.Simple

/-!
# No change that was noticed is lost

The time of a record runs ahead of the reloads: a check sets it when it notices a change, and the
file is read later, perhaps by a reload that was under way already. What ties them together is that
from the first change that is noticed on, the script either awaits a reload that will look at its
file, or the last look at the file was at no earlier change than that of the record, and at the file
as it is or at an earlier change.
-/
namespace Lag

variable {κ : Type}

/-- Whether the time of a record is that of its file. -/
def World.isCurrent (world : World κ) (place : Nat) : Bool :=
  match world.watch.records[place]? with
  | none => false
  | some record =>
    match world.files.find record.path with
    | .ok node => record.time == node.time
    | .error _ => false

/-- What is at the file of a record. -/
def World.target (world : World κ) (place : Nat) : Option (Except FileFault FileNode) :=
  world.watch.records[place]?.map fun record => world.files.find record.path

namespace Sight

/-- Whether a change of the file of a script was noticed. -/
def notices (id : String) : Sight κ → Bool
  | .noticed other _ => other == id
  | .attempted _ _ _ => false

/-- The look of a reload of a script at the file of a record: the place of the record, and the
world. -/
def attempt? (id : String) : Sight κ → Option (Nat × World κ)
  | .noticed _ _ => none
  | .attempted other place world => if other = id then some (place, world) else none

end Sight

/-- Files in which the one at a path is as it was, or has a later change. -/
def Files.KeepsOrRenews (path : Text.Path) (before after : Files) : Prop :=
  after.find path = before.find path ∨
    ∃ node, after.find path = .ok node ∧ ∀ old, before.find path = .ok old → old.time < node.time

/-- A turn that leaves a script watched, with its file as it was or with a later change. -/
def Turn.LeavesWatched (id : String) (path : Text.Path) (scene : Scene κ) : Turn κ → Prop
  | .watch script => script.id ≠ id
  | .unwatch other => other ≠ id
  | .files written => scene.world.files.KeepsOrRenews path written
  | _ => True

/-- A turn does not end the reloads of a script for a reason outside the script while another change
waits to be taken up by the reload that is under way. -/
def Turn.KeepsChanges (id : String) (scene : Scene κ) (turn : Turn κ) : Prop :=
  turn.isOutside = true → ∀ {which place script}, turn.reload? = some which →
    scene.reloads[which]? = some ⟨id, place, .busy script⟩ →
    (scene.world.watch.slot id).again = false

/-- The time of the last change of a file that is there. -/
theorem Files.exists_of_timeOf {files : Files} {id : String} {path : Text.Path} {time : Int}
    (found : files.timeOf id path = .ok time) :
    ∃ node, files.find path = .ok node ∧ node.time = time := by
  unfold Files.timeOf at found
  split at found
  · rename_i node is
    exact ⟨node, is, Except.ok.inj found⟩
  · cases found
  · cases found

/-- A file that was read is there. -/
theorem Files.exists_of_reading {files : Files} {id : String} {path : Text.Path} {time : Int}
    {code : String} (reading : files.reading id path = .ok (time, code)) :
    ∃ node, files.find path = .ok node ∧ node.time = time := by
  unfold Files.reading at reading
  split at reading
  · cases reading
  · rename_i other found
    split at reading
    · cases reading
    · cases reading
      exact Files.exists_of_timeOf found

namespace Watch

variable {watch : Watch} {place : Nat} {record : WatchRecord}

/-- A record that was written to. -/
theorem tell_record {change : WatchRecord → WatchRecord}
    (there : watch.records[place]? = some record) :
    (watch.tell place change).records[place]? = some (change record) := by
  unfold tell
  rw [Array.getElem?_modify, if_pos rfl, there]
  rfl

/-- A record keeps its file and its time when an answer of the engine is taken over. -/
theorem told_record {script : Script} (id : String) (answer : Except Fault (Option Nat))
    (there : watch.records[place]? = some record) :
    ∃ written, (watch.told id place script answer).records[place]? = some written ∧
      written.path = record.path ∧ written.time = record.time := by
  unfold told
  match answer with
  | .error fault =>
    dsimp only
    split
    · exact ⟨_, tell_record there, rfl, rfl⟩
    · exact ⟨record, there, rfl, rfl⟩
  | .ok none => exact ⟨record, there, rfl, rfl⟩
  | .ok (some version) =>
    dsimp only
    split <;> exact ⟨_, tell_record there, rfl, rfl⟩

end Watch

namespace Scene

variable {scene after : Scene κ} {id : String} {path : Text.Path} {place : Nat}

/-- Whether a change of the file of a script was noticed. -/
def hasNoticed (scene : Scene κ) (id : String) : Bool := scene.past.any (·.notices id)

/-- The last look of a reload of a script at its file. -/
def lastAttempt (scene : Scene κ) (id : String) : Option (Nat × World κ) :=
  scene.past.findSome? (·.attempt? id)

/-- A script awaits a reload that will look at its file. -/
def Awaits (scene : Scene κ) (id : String) : Prop :=
  (scene.world.watch.slot id).again = true ∨ (∃ place, (id, place) ∈ scene.world.watch.jobs) ∨
    ∃ place, ⟨id, place, .due⟩ ∈ scene.reloads

/-- The last look at a file was at no earlier change than a time, and at the file as it is or at an
earlier change. -/
def Caught (scene : Scene κ) (id : String) (place : Nat) (time : Int) (node : FileNode) : Prop :=
  ∃ world seen, scene.lastAttempt id = some (place, world) ∧ world.target place = some (.ok seen) ∧
    time ≤ seen.time ∧ (seen = node ∨ seen.time < node.time)

/-- From the first change of a file that is noticed on, a reload is awaited or the last look is not
out of date. -/
def IsAbreast (scene : Scene κ) (id : String) (path : Text.Path) (place : Nat) : Prop :=
  ∃ record node, scene.world.watch.records[place]? = some record ∧ record.path = path ∧
    scene.world.files.find path = .ok node ∧ record.time ≤ node.time ∧
    (scene.hasNoticed id = true → scene.Awaits id ∨ scene.Caught id place record.time node)

/-- A script was never watched. -/
structure Unheard (id : String) (scene : Scene κ) : Prop where
  /-- Turns led to the scene. -/
  sane : scene.Sane
  /-- The script refers to no record. -/
  refers : ∀ place, ¬ scene.Refers id place
  /-- No change was noticed. -/
  noticed : scene.hasNoticed id = false

/-- A script is watched by one record, and each change that was noticed is reloaded or will be. -/
structure Heard (id : String) (path : Text.Path) (place : Nat) (scene : Scene κ) : Prop where
  /-- Turns led to the scene. -/
  sane : scene.Sane
  /-- The record is in force. -/
  inForce : scene.world.watch.watched.find? id = some place
  /-- The script refers to no other record. -/
  own : ∀ {other}, scene.Refers id other → other = place
  /-- The reloads are abreast of the changes that were noticed. -/
  abreast : scene.IsAbreast id path place

/-- What happens between two scenes does not concern a script. -/
structure Bypasses (id : String) (place : Nat) (scene after : Scene κ) : Prop where
  /-- The record is the same. -/
  record : ∀ {record}, scene.world.watch.records[place]? = some record →
    after.world.watch.records[place]? = some record
  /-- The files are the same. -/
  files : after.world.files = scene.world.files
  /-- No change of the file was noticed. -/
  noticed : after.hasNoticed id = scene.hasNoticed id
  /-- No reload looked at the file. -/
  attempt : after.lastAttempt id = scene.lastAttempt id
  /-- A reload that was awaited still is. -/
  awaits : scene.Awaits id → after.Awaits id

/-- What does not concern a script loses no change. -/
theorem IsAbreast.bypassed (abreast : scene.IsAbreast id path place)
    (bypasses : Bypasses id place scene after) : after.IsAbreast id path place := by
  obtain ⟨record, node, there, isPath, found, bound, caught⟩ := abreast
  refine ⟨record, node, bypasses.record there, isPath, bypasses.files ▸ found, bound,
    fun noticed => ?_⟩
  rw [bypasses.noticed] at noticed
  refine (caught noticed).imp bypasses.awaits fun seen => ?_
  unfold Caught at seen ⊢
  rwa [bypasses.attempt]

/-- Scripts refer to different records. -/
theorem Sane.place_ne (sane : scene.Sane) {other : String} {spot : Nat}
    (refers : scene.Refers id place) (others : scene.Refers other spot) (different : other ≠ id) :
    place ≠ spot := by
  rintro rfl
  obtain ⟨record, found, own⟩ := sane.record refers
  obtain ⟨same, there, owner⟩ := sane.record others
  rw [found] at there
  cases there
  exact different (owner.symm.trans own)

/-- A reload that comes to its end notices no change. -/
theorem passed_noticed {other : String} {spot : Nat} {stage : Stage} {outside : Bool} {watch : Watch}
    {past : List (Sight κ)} (passed : Passed scene other spot stage outside watch past)
    (id : String) : past.any (·.notices id) = scene.hasNoticed id := by
  cases passed with
  | gone | inTheEnd => rfl
  | unread | atOnce => simp [hasNoticed, Sight.notices]

/-- A reload of another script does not look at the file of a script. -/
theorem passed_attempt_ne {other : String} {spot : Nat} {stage : Stage} {outside : Bool}
    {watch : Watch} {past : List (Sight κ)}
    (passed : Passed scene other spot stage outside watch past)
    (different : other ≠ id) : past.findSome? (·.attempt? id) = scene.lastAttempt id := by
  cases passed with
  | gone | inTheEnd => rfl
  | unread | atOnce => simp [lastAttempt, Sight.attempt?, different]

/-- A reload that is due stays due when another one gets further. -/
theorem mem_due_set {which : Nat} {reloading : Reloading} (next : Reloading)
    (found : scene.reloads[which]? = some reloading) (different : reloading.id ≠ id)
    (due : ⟨id, place, .due⟩ ∈ scene.reloads) :
    ⟨id, place, .due⟩ ∈ scene.reloads.set which next := by
  obtain ⟨index, is⟩ := List.mem_iff_getElem?.1 due
  have apart : which ≠ index := by
    rintro rfl
    rw [found] at is
    cases is
    exact different rfl
  exact List.mem_iff_getElem?.2 ⟨index, by rw [List.getElem?_set_ne apart, is]⟩

/-- A reload that is due stays due when another one is over. -/
theorem mem_due_erase {which : Nat} {reloading : Reloading}
    (found : scene.reloads[which]? = some reloading) (different : reloading.id ≠ id)
    (due : ⟨id, place, .due⟩ ∈ scene.reloads) :
    ⟨id, place, .due⟩ ∈ scene.reloads.eraseIdx which := by
  obtain ⟨index, is⟩ := List.mem_iff_getElem?.1 due
  refine List.mem_eraseIdx_iff_getElem?.2 ⟨index, fun same => ?_, is⟩
  subst same
  rw [found] at is
  cases is
  exact different rfl

/-- A reload stays awaited if the slot does, and the reloads that wait or are due. -/
theorem Awaits.mono (awaits : scene.Awaits id)
    (slot : after.world.watch.slot id = scene.world.watch.slot id)
    (jobs : ∀ {spot}, (id, spot) ∈ scene.world.watch.jobs →
      (id, spot) ∈ after.world.watch.jobs ∨ ⟨id, spot, .due⟩ ∈ after.reloads)
    (due : ∀ {spot}, ⟨id, spot, .due⟩ ∈ scene.reloads → ⟨id, spot, .due⟩ ∈ after.reloads) :
    after.Awaits id := by
  rcases awaits with again | ⟨spot, waits⟩ | ⟨spot, isDue⟩
  · exact .inl (slot ▸ again)
  · exact .inr ((jobs waits).imp (⟨spot, ·⟩) (⟨spot, ·⟩))
  · exact .inr (.inr ⟨spot, due isDue⟩)

/-- What is written to another record does not concern a script. -/
theorem Bypasses.of_writes {spot : Nat} {middle : Watch} (apart : place ≠ spot)
    (writes : Watch.Writes spot scene.world.watch middle)
    (watch : ∃ slots jobs, after.world.watch = { middle with slots := slots, jobs := jobs })
    (files : after.world.files = scene.world.files)
    (noticed : after.hasNoticed id = scene.hasNoticed id)
    (attempt : after.lastAttempt id = scene.lastAttempt id)
    (awaits : scene.Awaits id → after.Awaits id) : Bypasses id place scene after where
  record there := by
    obtain ⟨slots, jobs, is⟩ := watch
    rw [is]
    exact (writes.other apart).trans there
  files := files
  noticed := noticed
  attempt := attempt
  awaits := awaits

/-- A reload of another script that is claimed does not concern a script. -/
theorem Bypasses.of_claimed {other : String} {spot : Nat} {middle : Watch} (apart : place ≠ spot)
    (different : other ≠ id) (writes : Watch.Writes spot scene.world.watch middle) {world : World κ}
    {reloads : List Reloading}
    (claimed : Claimed middle other spot scene.reloads world.watch reloads)
    (files : world.files = scene.world.files) :
    Bypasses id place scene ⟨world, reloads, .noticed other spot :: scene.past⟩ := by
  refine .of_writes apart writes claimed.tables files
    (by simp [hasNoticed, Sight.notices, different]) rfl fun awaits => ?_
  have slot (state : Slot) :
      (middle.withSlot other state).slot id = scene.world.watch.slot id := by
    rw [Watch.slot_withSlot_ne _ _ (Ne.symm different), writes.slot]
  have jobs := writes.jobs
  generalize isWatch : world.watch = watch at claimed
  cases claimed with
  | takenUp =>
    have left : world.watch.jobs = scene.world.watch.jobs := by rw [isWatch]; exact jobs
    exact awaits.mono (isWatch ▸ slot _) (fun waits => .inl (left ▸ waits)) fun due => due
  | waits =>
    have left : world.watch.jobs = scene.world.watch.jobs ++ [(other, spot)] := by
      rw [isWatch, ← jobs]
      rfl
    exact awaits.mono (isWatch ▸ slot _)
      (fun waits => .inl (left ▸ List.mem_append_left _ waits)) fun due => due
  | starts =>
    have left : world.watch.jobs = scene.world.watch.jobs := by rw [isWatch]; exact jobs
    exact awaits.mono (isWatch ▸ slot _) (fun waits => .inl (left ▸ waits)) (List.mem_append_left _)

/-- A reload that starts does not concern a script beyond that it is due. -/
theorem Bypasses.of_released {other : String} {spot : Nat} {rest : List (String × Nat)}
    {world : World κ} (jobs : scene.world.watch.jobs = (other, spot) :: rest)
    (watch : world.watch = { scene.world.watch with jobs := rest })
    (files : world.files = scene.world.files) :
    Bypasses id place scene ⟨world, scene.reloads ++ [⟨other, spot, .due⟩], scene.past⟩ := by
  refine .of_writes (Nat.ne_of_lt (Nat.lt_succ_self place)) (.refl _ _) ⟨_, _, watch⟩ files rfl rfl
    fun awaits => awaits.mono (by rw [watch]; rfl) (fun waits => ?_) (List.mem_append_left _)
  rw [jobs] at waits
  rcases List.mem_cons.1 waits with is | later
  · cases is
    exact .inr (List.mem_append_right _ List.mem_cons_self)
  · exact .inl (by rw [watch]; exact later)

/-- A reload of another script that gets to a stage, or is over, does not concern a script. -/
theorem Bypasses.of_reload {spot : Nat} {middle : Watch} {past : List (Sight κ)} {world : World κ}
    {reloads : List Reloading} (apart : place ≠ spot)
    (writes : Watch.Writes spot scene.world.watch middle)
    (watch : ∃ slots, world.watch = { middle with slots := slots })
    (slot : world.watch.slot id = middle.slot id) (files : world.files = scene.world.files)
    (noticed : past.any (·.notices id) = scene.hasNoticed id)
    (attempt : past.findSome? (·.attempt? id) = scene.lastAttempt id)
    (due : ∀ {spot}, ⟨id, spot, .due⟩ ∈ scene.reloads → ⟨id, spot, .due⟩ ∈ reloads) :
    Bypasses id place scene ⟨world, reloads, past⟩ := by
  obtain ⟨slots, is⟩ := watch
  have jobs : world.watch.jobs = scene.world.watch.jobs := by rw [is]; exact writes.jobs
  exact .of_writes apart writes ⟨_, _, is⟩ files noticed attempt fun awaits =>
    awaits.mono (slot.trans (by rw [writes.slot])) (fun waits => .inl (jobs ▸ waits)) due

/-- Watching a script does not concern the records that are there. -/
theorem Bypasses.of_register {script : Script} {record : WatchRecord} {world : World κ}
    (watch : world.watch = scene.world.watch.register script record)
    (files : world.files = scene.world.files) :
    Bypasses id place scene (scene.withWorld world) where
  record found := by
    obtain ⟨inside, -⟩ := Array.getElem?_eq_some_iff.1 found
    rw [withWorld, watch]
    exact (Array.getElem?_push_lt inside).trans ((Array.getElem?_eq_getElem _).symm.trans found)
  files := files
  noticed := rfl
  attempt := rfl
  awaits awaits := by
    have slot : world.watch.slot = scene.world.watch.slot := by rw [watch, Watch.slot_register]
    exact awaits.mono (congrFun slot id) (fun waits => .inl (by rw [withWorld, watch]; exact waits))
      fun due => due

/-- Watching a script no longer does not concern the records that are there. -/
theorem Bypasses.of_stop {other : String} {world : World κ}
    (watch : world.watch = scene.world.watch.stop other) (files : world.files = scene.world.files) :
    Bypasses id place scene (scene.withWorld world) where
  record found := by
    rw [withWorld, watch]
    exact found
  files := files
  noticed := rfl
  attempt := rfl
  awaits awaits := awaits.mono (by rw [withWorld, watch]; rfl)
    (fun waits => .inl (by rw [withWorld, watch]; exact waits)) fun due => due

/-! ## Reloads of the script -/

/-- A reload that comes to its end leaves its record at no later change than that of the file; if it
did not look at the file, it leaves the time alone. -/
theorem passed_record {stage : Stage} {outside : Bool} {watch : Watch} {past : List (Sight κ)}
    (passed : Passed scene id place stage outside watch past) {record : WatchRecord}
    (there : scene.world.watch.records[place]? = some record) {node : FileNode}
    (found : scene.world.files.find record.path = .ok node) (bound : record.time ≤ node.time) :
    ∃ written, watch.records[place]? = some written ∧ written.path = record.path ∧
      written.time ≤ node.time ∧ (stage ≠ .due → written.time = record.time) := by
  cases passed with
  | gone => exact ⟨record, there, rfl, bound, fun _ => rfl⟩
  | unread => exact ⟨_, Watch.tell_record there, rfl, bound, fun _ => rfl⟩
  | @atOnce script other time code scripted recorded reading answer =>
    rw [there] at recorded
    cases recorded
    obtain ⟨read, is, same⟩ := Files.exists_of_reading reading
    rw [found] at is
    cases is
    have seen : (scene.world.watch.tell place (·.seen time)).records[place]? =
        some (record.seen time) := Watch.tell_record there
    obtain ⟨written, last, isPath, isTime⟩ := Watch.told_record id answer seen
    refine ⟨written, last, isPath, ?_, fun notDue => absurd rfl notDue⟩
    rw [isTime]
    change max record.time time ≤ node.time
    omega
  | inTheEnd script answer =>
    obtain ⟨written, last, isPath, isTime⟩ := Watch.told_record id answer there
    exact ⟨written, last, isPath, isTime ▸ bound, fun _ => isTime⟩

/-- A reload that was due looked at its file when it came to its end. -/
theorem passed_attempt {outside : Bool} {watch : Watch} {past : List (Sight κ)}
    (passed : Passed scene id place .due outside watch past) (looks : scene.looks id place = true) :
    past.findSome? (·.attempt? id) = some (place, scene.world) := by
  cases passed with
  | gone nothing => rw [nothing] at looks; cases looks
  | unread | atOnce => simp [Sight.attempt?]

/-- The reload of a script looks at its file. -/
theorem Heard.looks (heard : Heard id path place scene) : scene.looks id place = true := by
  obtain ⟨record, there, -⟩ := heard.sane.record (.inl heard.inForce)
  have scripted : scene.world.watch.scripts.has id = true := by
    rw [← heard.sane.watched, Table.has, heard.inForce]
    rfl
  rw [Scene.looks, scripted, there]
  rfl

/-- What a look at the file of a script sees. -/
theorem Heard.target (heard : Heard id path place scene) {node : FileNode}
    (found : scene.world.files.find path = .ok node) :
    scene.world.target place = some (.ok node) := by
  obtain ⟨record, -, there, rfl, -⟩ := heard.abreast
  rw [World.target, there, Option.map_some, found]

/-- A script whose reload is over has no other one. -/
theorem Sane.not_awaits (sane : scene.Sane) {which : Nat} {script : Script}
    (found : scene.reloads[which]? = some ⟨id, place, .busy script⟩)
    (quiet : (scene.world.watch.slot id).again = false) : ¬ scene.Awaits id := by
  have perm : scene.owners.Perm (id :: (⟨scene.world, scene.reloads.eraseIdx which, scene.past⟩ :
      Scene κ).owners) := owners_erase found rfl rfl
  obtain ⟨fresh, -⟩ := List.nodup_cons.1 (perm.nodup sane.owned.once)
  rintro (again | ⟨spot, waits⟩ | ⟨spot, due⟩)
  · rw [quiet] at again
    cases again
  · exact fresh (List.mem_append_right _ (List.mem_map.2 ⟨_, waits, rfl⟩))
  · obtain ⟨index, is⟩ := List.mem_iff_getElem?.1 due
    refine fresh (List.mem_append_left _ (List.mem_map.2 ⟨⟨id, spot, .due⟩, ?_, rfl⟩))
    refine List.mem_eraseIdx_iff_getElem?.2 ⟨index, fun same => ?_, is⟩
    subst same
    rw [found] at is
    cases is

/-- A script awaits the reload that was claimed for it. -/
theorem awaits_of_claimed {middle : Watch} {world : World κ} {reloads : List Reloading}
    (claimed : Claimed middle id place scene.reloads world.watch reloads) (past : List (Sight κ)) :
    Awaits ⟨world, reloads, past⟩ id := by
  generalize isWatch : world.watch = watch at claimed
  cases claimed with
  | takenUp => exact .inl (by rw [isWatch, Watch.slot_withSlot])
  | waits =>
    refine .inr (.inl ⟨place, ?_⟩)
    rw [isWatch]
    exact List.mem_append_right _ List.mem_cons_self
  | starts => exact .inr (.inr ⟨place, List.mem_append_right _ List.mem_cons_self⟩)

/-- The reload of a script comes to its end without a loss. -/
theorem Heard.finished (heard : Heard id path place scene) {turn : Turn κ}
    (keeps : turn.KeepsChanges id scene) {which : Nat} {stage : Stage} {outside : Bool}
    {watch : Watch} {past : List (Sight κ)} {world : World κ} (about : turn.reload? = some which)
    (found : scene.reloads[which]? = some ⟨id, place, stage⟩)
    (passed : Passed scene id place stage outside watch past)
    (last : outside = false → (watch.slot id).again = false)
    (settled : world.watch = watch.withSlot id ⟨false, false⟩)
    (files : world.files = scene.world.files) (blamed : outside = true → turn.isOutside = true) :
    IsAbreast ⟨world, scene.reloads.eraseIdx which, past⟩ id path place := by
  have writes := heard.sane.passed found passed
  obtain ⟨record, node, there, rfl, isThere, bound, caught⟩ := heard.abreast
  obtain ⟨written, found', isPath, bound', sameTime⟩ := passed_record passed there isThere bound
  refine ⟨written, node, by rw [settled]; exact found', isPath, by rw [files]; exact isThere, bound',
    fun noticed => .inr ?_⟩
  cases stage with
  | due =>
    exact ⟨scene.world, node, passed_attempt passed heard.looks, heard.target isThere, bound',
      .inl rfl⟩
  | busy script =>
    cases passed with
    | inTheEnd script answer =>
      have quiet : (scene.world.watch.slot id).again = false := by
        cases ends : isOutside answer with
        | false =>
          rw [← writes.slot]
          exact last ends
        | true => exact keeps (blamed ends) about found
      rw [sameTime (by simp)]
      exact (caught noticed).resolve_left (heard.sane.not_awaits found quiet)

/-- A change of the file of a script is noticed, and a reload for it is awaited. -/
theorem Heard.noticed (heard : Heard id path place scene) {script : Script} {record : WatchRecord}
    {time : Int} {world : World κ} {reloads : List Reloading}
    (recorded : scene.world.watch.records[place]? = some record)
    (isTime : scene.world.files.timeOf id record.path = .ok time)
    (claimed : Claimed ((scene.world.watch.tell place (·.observed time)).withScript id script)
      id place scene.reloads world.watch reloads)
    (files : world.files = scene.world.files) :
    IsAbreast ⟨world, reloads, .noticed id place :: scene.past⟩ id path place := by
  obtain ⟨_, node, there, isPath, isThere, -⟩ := heard.abreast
  cases there.symm.trans recorded
  obtain ⟨now, isNow, sameTime⟩ := Files.exists_of_timeOf isTime
  rw [isPath, isThere] at isNow
  cases isNow
  have observed : (scene.world.watch.tell place (·.observed time)).records[place]? =
      some (record.observed time) := Watch.tell_record there
  obtain ⟨slots, jobs, isWatch⟩ := claimed.tables
  exact ⟨record.observed time, node, by rw [isWatch]; exact observed, isPath,
    by rw [files]; exact isThere, Int.le_of_eq sameTime.symm,
    fun _ => .inl (awaits_of_claimed claimed _)⟩

/-- The file of a script is read for a reload, which looks at what is there now. -/
theorem Heard.asked (heard : Heard id path place scene) {record : WatchRecord} {time : Int}
    {code : String} {world : World κ} {reloads : List Reloading}
    (recorded : scene.world.watch.records[place]? = some record)
    (reading : scene.world.files.reading id record.path = .ok (time, code))
    (watch : world.watch = scene.world.watch.tell place (·.seen time))
    (files : world.files = scene.world.files) :
    IsAbreast ⟨world, reloads, .attempted id place scene.world :: scene.past⟩ id path place := by
  obtain ⟨_, node, there, isPath, isThere, bound, -⟩ := heard.abreast
  cases there.symm.trans recorded
  obtain ⟨read, is, isTime⟩ := Files.exists_of_reading reading
  rw [isPath, isThere] at is
  cases is
  have seen : (scene.world.watch.tell place (·.seen time)).records[place]? =
      some (record.seen time) := Watch.tell_record there
  have upTo : (record.seen time).time ≤ node.time := by
    change max record.time time ≤ node.time
    omega
  exact ⟨record.seen time, node, by rw [watch]; exact seen, isPath, by rw [files]; exact isThere,
    upTo, fun _ => .inr ⟨scene.world, node, by simp [lastAttempt, Sight.attempt?],
      heard.target isThere, upTo, .inl rfl⟩⟩

/-- The reload of a script is due again, so it is awaited. -/
theorem Heard.renewed (heard : Heard id path place scene) {which : Nat} {stage : Stage}
    {watch : Watch} {past : List (Sight κ)} {world : World κ}
    (found : scene.reloads[which]? = some ⟨id, place, stage⟩)
    (passed : Passed scene id place stage false watch past)
    (settled : world.watch = watch.withSlot id ⟨true, false⟩)
    (files : world.files = scene.world.files) :
    IsAbreast ⟨world, scene.reloads.set which ⟨id, place, .due⟩, past⟩ id path place := by
  obtain ⟨record, node, there, rfl, isThere, bound, -⟩ := heard.abreast
  obtain ⟨written, found', isPath, bound', -⟩ := passed_record passed there isThere bound
  exact ⟨written, node, by rw [settled]; exact found', isPath, by rw [files]; exact isThere, bound',
    fun _ => .inl (.inr (.inr ⟨place, List.mem_set (List.getElem?_eq_some_iff.1 found).1 _⟩))⟩

/-- Every turn that leaves a script watched, with its file as it was or with a later change, leaves
the reloads abreast of the changes that were noticed. -/
theorem Heard.abreast_step (heard : Heard id path place scene) {turn : Turn κ}
    (leaves : turn.LeavesWatched id path scene) (keeps : turn.KeepsChanges id scene)
    (took : Took scene turn after) :
    after.IsAbreast id path place := by
  have mine : scene.Refers id place := .inl heard.inForce
  have theirs {which : Nat} {other : String} {spot : Nat} {stage : Stage}
      (found : scene.reloads[which]? = some ⟨other, spot, stage⟩) : scene.Refers other spot :=
    .inr (.inl ⟨stage, List.mem_of_getElem? found⟩)
  cases took with
  | @aside _ world watch files =>
    refine heard.abreast.bypassed (.of_writes (Nat.ne_of_lt (Nat.lt_succ_self place)) (.refl _ _)
      ⟨_, _, watch⟩ files rfl rfl fun awaits => ?_)
    exact awaits.mono (congrArg (Watch.slot · id) watch) (fun waits => .inl (watch ▸ waits))
      fun due => due
  | files files =>
    obtain ⟨record, node, there, isPath, isThere, bound, caught⟩ := heard.abreast
    rcases leaves with same | ⟨next, isNext, later⟩
    · exact ⟨record, node, there, isPath, same.trans isThere, bound, caught⟩
    · have older : node.time < next.time := later node isThere
      refine ⟨record, next, there, isPath, isNext, by omega,
        fun noticed => (caught noticed).imp_right ?_⟩
      rintro ⟨world, seen, attempt, target, upTo, is | earlier⟩
      · exact ⟨world, seen, attempt, target, upTo, .inr (is ▸ older)⟩
      · exact ⟨world, seen, attempt, target, upTo, .inr (by omega)⟩
  | watched _ _ watch files => exact heard.abreast.bypassed (.of_register watch files)
  | unwatched _ watch files => exact heard.abreast.bypassed (.of_stop watch files)
  | @noticed script spot _ time world reloads inForce recorded isTime later claimed files =>
    by_cases same : script.id = id
    · subst same
      cases heard.own (.inl inForce)
      exact heard.noticed recorded isTime claimed files
    · exact heard.abreast.bypassed (.of_claimed (heard.sane.place_ne mine (.inl inForce) same) same
        (heard.sane.observes inForce time) claimed files)
  | released jobs watch files => exact heard.abreast.bypassed (.of_released jobs watch files)
  | @asked which other spot script _ time code world isDue scripted recorded reading watch files =>
    by_cases same : other = id
    · subst same
      cases heard.own (theirs isDue)
      exact heard.asked recorded reading watch files
    · have writes : Watch.Writes spot scene.world.watch
          (scene.world.watch.tell spot (·.seen time)) := .tell fun _ => ⟨rfl, rfl⟩
      exact heard.abreast.bypassed (.of_reload (heard.sane.place_ne mine (theirs isDue) same) writes
        ⟨_, watch⟩ (by rw [watch]) files (by simp [hasNoticed, Sight.notices])
        (by simp [lastAttempt, Sight.attempt?, same]) (mem_due_set _ isDue same))
  | @finished _ which other spot stage outside watch past world about isUnderWay passed last
      settled files blamed =>
    by_cases same : other = id
    · subst same
      cases heard.own (theirs isUnderWay)
      exact heard.finished keeps about isUnderWay passed last settled files blamed
    · exact heard.abreast.bypassed (.of_reload
        (heard.sane.place_ne mine (theirs isUnderWay) same) (heard.sane.passed isUnderWay passed)
        ⟨_, settled⟩ (by rw [settled, Watch.slot_withSlot_ne _ _ (Ne.symm same)]) files
        (passed_noticed passed id) (passed_attempt_ne passed same) (mem_due_erase isUnderWay same))
  | @renewed _ which other spot stage watch past world _ isUnderWay passed again settled files =>
    by_cases same : other = id
    · subst same
      cases heard.own (theirs isUnderWay)
      exact heard.renewed isUnderWay passed settled files
    · exact heard.abreast.bypassed (.of_reload
        (heard.sane.place_ne mine (theirs isUnderWay) same) (heard.sane.passed isUnderWay passed)
        ⟨_, settled⟩ (by rw [settled, Watch.slot_withSlot_ne _ _ (Ne.symm same)]) files
        (passed_noticed passed id) (passed_attempt_ne passed same) (mem_due_set _ isUnderWay same))

/-- A turn that leaves a script watched neither watches it nor stops to do so. -/
theorem watches_of_leaves {turn : Turn κ} (leaves : turn.LeavesWatched id path scene) :
    turn.watches id = false ∧ turn.unwatches id = false := by
  cases turn with
  | watch script => exact ⟨beq_eq_false_iff_ne.2 leaves, rfl⟩
  | unwatch other => exact ⟨rfl, beq_eq_false_iff_ne.2 leaves⟩
  | _ => exact ⟨rfl, rfl⟩

/-- Every turn that leaves a script watched, with its file as it was or with a later change, loses no
change. -/
theorem Heard.step (heard : Heard id path place scene) {turn : Turn κ}
    (leaves : turn.LeavesWatched id path scene) (keeps : turn.KeepsChanges id scene)
    (took : Took scene turn after) : Heard id path place after where
  sane := heard.sane.step took
  inForce := by
    obtain ⟨watches, unwatches⟩ := watches_of_leaves leaves
    exact (heard.sane.inForce took watches unwatches).trans heard.inForce
  own refers := heard.own (heard.sane.refers took (watches_of_leaves leaves).1 refers)
  abreast := heard.abreast_step leaves keeps took

/-- A script stays unwatched by every turn that does not watch it. -/
theorem Unheard.step (unheard : Unheard id scene) {turn : Turn κ}
    (watches : turn.watches id = false) (took : Took scene turn after) : Unheard id after where
  sane := unheard.sane.step took
  refers place refers := unheard.refers place (unheard.sane.refers took watches refers)
  noticed := by
    have before := unheard.noticed
    cases took with
    | aside | files | watched | unwatched | released => exact before
    | @noticed script spot _ _ _ _ inForce =>
      have different : script.id ≠ id := fun same => unheard.refers spot (.inl (same ▸ inForce))
      simpa [hasNoticed, Sight.notices, different] using before
    | asked => simpa [hasNoticed, Sight.notices] using before
    | finished _ _ passed => exact (passed_noticed passed id).trans before
    | renewed _ _ passed => exact (passed_noticed passed id).trans before

/-- A script is not watched in a scene in which nothing was watched. -/
theorem IsFresh.unheard (fresh : scene.IsFresh) (id : String) : Unheard id scene where
  sane := fresh.sane
  refers place := by
    obtain ⟨⟨deferred, watch⟩, reloads, -⟩ := fresh
    simp [Refers, watch, reloads, Table.find?]
  noticed := by simp [hasNoticed, fresh.past]

/-- A script that was never watched is watched by one record, or could not be watched. -/
theorem Unheard.watch {script : Script} (unheard : Unheard script.id scene)
    (known : script.path = some path) :
    (∃ place, Heard script.id path place (scene.step (.watch script))) ∨
      Unheard script.id (scene.step (.watch script)) := by
  have took := scene.took (.watch script)
  have sane := unheard.sane.step took
  generalize scene.step (.watch script) = after at took sane
  cases took with
  | @aside _ world watch files =>
    refine .inr ⟨sane, fun place refers => unheard.refers place ?_, unheard.noticed⟩
    rw [Refers, withWorld, watch] at refers
    exact refers
  | @watched _ own time world isPath found watch files =>
    rw [known] at isPath
    cases isPath
    obtain ⟨node, isThere, sameTime⟩ := Files.exists_of_timeOf found
    have there : world.watch.watched.find? script.id = some scene.world.watch.records.size := by
      rw [watch]
      exact Table.find?_put ..
    refine .inl ⟨scene.world.watch.records.size, sane, there, fun {other} refers => ?_,
      ⟨script.id, path, time, 0, none⟩, node, ?_, rfl, files ▸ isThere, Int.le_of_eq sameTime.symm,
      fun noticed => ?_⟩
    · rcases refers with forced | started
      · exact Option.some.inj (forced.symm.trans there)
      · rw [withWorld, watch] at started
        exact absurd (.inr started) (unheard.refers other)
    · rw [withWorld, watch]
      exact Array.getElem?_push_size
    · exact absurd noticed (by rw [Bool.not_eq_true]; exact unheard.noticed)
  | finished about => cases about
  | renewed about => cases about

/-- A script none of whose reloads is under way or waits, of which a change was noticed, and whose
record in force is of the last change of its file. -/
structure AtRest (scene : Scene κ) (id : String) (place : Nat) : Prop where
  /-- No reload is under way or waits. -/
  idle : id ∉ scene.owners
  /-- A change was noticed. -/
  noticed : scene.hasNoticed id = true
  /-- The record is in force. -/
  inForce : scene.world.watch.watched.find? id = some place
  /-- The time of the record is that of the file. -/
  current : scene.world.isCurrent place = true

/-- No reload is awaited if none is under way or waits. -/
theorem Sane.not_awaits_of_idle (sane : scene.Sane) (idle : id ∉ scene.owners) :
    ¬ scene.Awaits id := by
  rintro (again | ⟨place, waits⟩ | ⟨place, due⟩)
  · exact idle ((sane.owned.running id).1 (sane.owned.again id again))
  · exact idle (List.mem_append_right _ (List.mem_map.2 ⟨_, waits, rfl⟩))
  · exact idle (List.mem_append_left _ (List.mem_map.2 ⟨_, due, rfl⟩))

/-- The last reload of a script at rest saw the file as it is. -/
theorem Heard.of_atRest {spot : Nat} (heard : Heard id path place scene)
    (rest : scene.AtRest id spot) :
    ∃ world, scene.lastAttempt id = some (spot, world) ∧
      world.target spot = scene.world.target spot := by
  cases heard.own (.inl rest.inForce)
  obtain ⟨record, node, there, rfl, isThere, -, caught⟩ := heard.abreast
  have current : record.time = node.time := by
    simpa [World.isCurrent, there, isThere] using rest.current
  obtain ⟨world, seen, attempt, target, upTo, is | earlier⟩ :=
    (caught rest.noticed).resolve_left (heard.sane.not_awaits_of_idle rest.idle)
  · exact ⟨world, attempt, target.trans (is ▸ (heard.target isThere).symm)⟩
  · omega

end Scene

/-- No change that was noticed is lost. Let a script be watched once, while every later write to its
file gives it a later time, and no reload in whose course a change was noticed ends for a reason
outside the script; whatever else happens in between, and in whatever order, while reloads are under
way or not: at rest, the last reload of the script was made for what is at its file now. -/
theorem no_change_lost {scene : Scene κ} (fresh : scene.IsFresh) {script : Script}
    {path : Text.Path} (known : script.path = some path) {before after : List (Turn κ)}
    (first : ∀ turn ∈ before, turn.watches script.id = false)
    (leaves : (scene.run (before ++ [.watch script])).Allows
      (fun now turn => turn.LeavesWatched script.id path now ∧ turn.KeepsChanges script.id now)
      after)
    {place : Nat} (rest : (scene.run (before ++ .watch script :: after)).AtRest script.id place) :
    let last := scene.run (before ++ .watch script :: after)
    ∃ world, last.lastAttempt script.id = some (place, world) ∧
      world.target place = last.world.target place := by
  have begins : Scene.Unheard script.id (scene.run before) :=
    Scene.run_preserves (fun watches unheard took => unheard.step watches took)
      (Scene.allows_of_forall first scene) (fresh.unheard script.id)
  let watched := (scene.run before).step (.watch script)
  have goes (turns : List (Turn κ)) :
      scene.run (before ++ .watch script :: turns) = watched.run turns := scene.run_append ..
  rw [goes] at leaves
  simp only [goes] at rest ⊢
  rcases begins.watch known with ⟨spot, heard⟩ | unheard
  · have last : Scene.Heard script.id path spot (watched.run after) :=
      Scene.run_preserves (fun leaves heard took => heard.step leaves.1 leaves.2 took) leaves heard
    exact last.of_atRest rest
  · have last : Scene.Unheard script.id (watched.run after) :=
      Scene.run_preserves
        (fun leaves unheard took => unheard.step (Scene.watches_of_leaves leaves.1).1 took) leaves
        unheard
    exact absurd (.inl rest.inForce) (last.refers place)

/-- A file that is written at a later time has a later change. -/
theorem renews_writtenAt {first second : Int} (later : first < second) :
    (writtenAt first).KeepsOrRenews ⟨0, ["a.lag"]⟩ (writtenAt second) := by
  have found (time : Int) : (writtenAt time).find ⟨0, ["a.lag"]⟩ =
      .ok (.file "fn f() -> int \x7b return 1; \x7d".toUTF8 time) := rfl
  refine .inr ⟨_, found second, fun old is => ?_⟩
  rw [found] at is
  cases is
  exact later

/-- The file of a script changes while it is reloaded, and the reload is done again. -/
def answering : List (Turn Unit) :=
  changing ++ [.answer 0 (.ok (some 1)), .read 0 (some (.ok (some 2)))]

/-- The second reload is made for the second change. -/
theorem no_change_lost_changing :
    (⟨filedWorld, [], []⟩ : Scene Unit).IsFresh ∧ filed.path = some ⟨0, ["a.lag"]⟩ ∧
      ((⟨filedWorld, [], []⟩ : Scene Unit).run [.watch filed]).Allows
        (fun now turn => turn.LeavesWatched "a" ⟨0, ["a.lag"]⟩ now ∧ turn.KeepsChanges "a" now)
        answering ∧
      let last := (⟨filedWorld, [], []⟩ : Scene Unit).run (.watch filed :: answering)
      last.AtRest "a" 0 ∧
        ∃ world, last.lastAttempt "a" = some (0, world) ∧ world.target 0 = last.world.target 0 := by
  have fresh : (⟨filedWorld, [], []⟩ : Scene Unit).IsFresh := ⟨⟨false, rfl⟩, rfl, rfl⟩
  have leaves : ((⟨filedWorld, [], []⟩ : Scene Unit).run [.watch filed]).Allows
      (fun now turn => turn.LeavesWatched "a" ⟨0, ["a.lag"]⟩ now ∧ turn.KeepsChanges "a" now)
      answering := by
    refine ⟨⟨renews_writtenAt (by decide), nofun⟩, ⟨trivial, nofun⟩, ⟨trivial, nofun⟩,
      ⟨?_, nofun⟩, ⟨trivial, nofun⟩, ⟨trivial, nofun⟩, ⟨trivial, nofun⟩, trivial⟩
    change Files.KeepsOrRenews _ (Scene.step _ _).world.files _
    rw [Scene.files_step]
    exact renews_writtenAt (by decide)
  have rest : ((⟨filedWorld, [], []⟩ : Scene Unit).run (.watch filed :: answering)).AtRest "a" 0 :=
    ⟨by decide +kernel, by decide +kernel, by decide +kernel, by decide +kernel⟩
  have never : ∀ turn ∈ ([] : List (Turn Unit)), turn.watches "a" = false := by simp
  have known : filed.path = some ⟨0, ["a.lag"]⟩ := rfl
  exact ⟨fresh, known, leaves, rest, no_change_lost fresh known never leaves rest⟩

/-- A script of the host language that refuses to be asked for names that it lacks. -/
def refusing : Script :=
  ⟨"p", .host, "__lag_exports__ = \x7b\x7d\ndef __getattr__(name):\n    raise ValueError(name)\n",
    some ⟨0, ["p.py"]⟩⟩

/-- The file of the script, with a text that was written at a time. -/
def refusingFile (code : String) (time : Int) : Files :=
  { nodes := [(["p.py"], .file code.toUTF8 time)] }

/-- The fault of a reload of the script, which is not one of scripts. -/
def refusal : Fault :=
  .escaped (.raised { kind := "ValueError", message := "__lag_init__", escapes := true })

/-- The script is reloaded, and its file is written again before the engine answers. -/
def refusingTurns : List (Turn Unit) :=
  [.watch refusing, .files (refusingFile refusing.code 2), .check refusing, .read 0 none,
    .files (refusingFile "" 3), .check refusing, .answer 0 (.error refusal)]

/-- The time of the change that is at the file of a record. -/
def World.targetTime (world : World κ) (place : Nat) : Option Int :=
  ((world.target place).bind Except.toOption).map (·.time)

/-- The engine answers the reload with a fault that is not one of scripts. Then nothing is under way,
and the last change was noticed, but no reload looked at it. -/
theorem change_lost_refusing :
    let first : Scene Unit := ⟨{ World.initial () with files := refusingFile "" 1 }, [], []⟩
    let last := first.run refusingTurns
    first.IsFresh ∧ refusing.isValid = true ∧
      (World.ended (World.reload (.none .simple) refusing) first.world).1 = .error refusal ∧
      last.AtRest "p" 0 ∧ last.world.targetTime 0 = some 3 ∧
      ¬ ∃ world, last.lastAttempt "p" = some (0, world) ∧ world.target 0 = last.world.target 0 := by
  intro first last
  have rest : last.AtRest "p" 0 :=
    ⟨by decide +kernel, by decide +kernel, by decide +kernel, by decide +kernel⟩
  refine ⟨⟨⟨false, rfl⟩, rfl, rfl⟩, by decide, rfl, rest, by decide +kernel, ?_⟩
  rintro ⟨world, attempt, same⟩
  have looked : (last.lastAttempt "p").bind (·.2.targetTime 0) = some 2 := by decide +kernel
  have now : last.world.targetTime 0 = some 3 := by decide +kernel
  rw [attempt] at looked
  have times : world.targetTime 0 = last.world.targetTime 0 := by
    rw [World.targetTime, same, World.targetTime]
  rw [now] at times
  exact absurd (looked.symm.trans times) (by decide)

end Lag
