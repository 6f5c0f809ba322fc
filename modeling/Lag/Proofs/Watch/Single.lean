import Lag.Proofs.Watch.Scene
import Mathlib.Data.List.Perm.Basic

/-!
# One reload of each script

However checks, reloads and changes of the watch follow each other, a script has at most one reload,
which is under way or waits. Its slot is taken exactly while it has one, and notes a further change
only then. A script has a record exactly while it is one of those to check.
-/
namespace Lag

namespace Watch

variable {watch : Watch} {id : String}

/-! ## Slots -/

/-- The state that was set. -/
@[simp] theorem slot_withSlot (watch : Watch) (id : String) (slot : Slot) :
    (watch.withSlot id slot).slot id = slot := by
  simp [withSlot, Watch.slot]

/-- The states of other scripts stay. -/
theorem slot_withSlot_ne (watch : Watch) {id other : String} (slot : Slot) (different : other ≠ id) :
    (watch.withSlot id slot).slot other = watch.slot other := by
  unfold withSlot Watch.slot
  rw [Table.find?_put_ne _ _ different]

/-- The states stay when a script is watched. -/
@[simp] theorem slot_register (watch : Watch) (script : Script) (record : WatchRecord) :
    (watch.register script record).slot = watch.slot := by
  funext other
  unfold register Watch.slot
  dsimp only
  split
  · rfl
  · rename_i fresh
    by_cases same : other = script.id
    · subst same
      have missing : watch.slots.find? script.id = none := by
        simpa [Table.has] using fresh
      rw [Table.find?_put, missing]
      rfl
    · rw [Table.find?_put_ne _ _ same]

/-- Slots tell which scripts have reloads, and no script has two. -/
structure Owned (watch : Watch) (owners : List String) : Prop where
  /-- No script has two reloads. -/
  once : owners.Nodup
  /-- A slot is taken exactly while its script has a reload. -/
  running : ∀ id, (watch.slot id).running = true ↔ id ∈ owners
  /-- A further change is noted only in a slot that is taken. -/
  again : ∀ id, (watch.slot id).again = true → (watch.slot id).running = true

namespace Owned

variable {owners others : List String}

/-- The order of the reloads does not matter, nor does anything but the slots. -/
theorem perm {after : Watch} (owned : watch.Owned owners) (slots : after.slot = watch.slot)
    (same : owners.Perm others) : after.Owned others where
  once := same.nodup owned.once
  running id := by rw [slots, owned.running, same.mem_iff]
  again id := slots ▸ owned.again id

/-- What holds of every slot after one of them was set. -/
theorem of_set {after : Watch} {slot : Slot} (owned : watch.Owned owners)
    (set : after.slot = (watch.withSlot id slot).slot) (once : others.Nodup)
    (own : slot.running = true ↔ id ∈ others) (again : slot.again = true → slot.running = true)
    (rest : ∀ other, other ≠ id → (other ∈ owners ↔ other ∈ others)) : after.Owned others where
  once := once
  running other := by
    by_cases same : other = id
    · subst same
      rw [set, slot_withSlot, own]
    · rw [set, slot_withSlot_ne _ _ same, owned.running, rest other same]
  again other := by
    by_cases same : other = id
    · subst same
      rw [set, slot_withSlot]
      exact again
    · rw [set, slot_withSlot_ne _ _ same]
      exact owned.again other

/-- The slot of a reload notes a further change, or none. -/
theorem flag {after : Watch} {again : Bool} (owned : watch.Owned owners) (inside : id ∈ owners)
    (set : after.slot = (watch.withSlot id ⟨true, again⟩).slot) : after.Owned owners :=
  owned.of_set set owned.once (by simp [inside]) (fun _ => rfl) fun _ _ => Iff.rfl

/-- A script that has no reload may get one. -/
theorem start {after : Watch} (owned : watch.Owned owners) (idle : (watch.slot id).running = false)
    (set : after.slot = (watch.withSlot id ⟨true, false⟩).slot) (same : (id :: owners).Perm others) :
    after.Owned others := by
  have fresh : id ∉ owners := fun inside => by
    rw [(owned.running id).2 inside] at idle
    cases idle
  refine owned.of_set set (same.nodup (List.nodup_cons.2 ⟨fresh, owned.once⟩)) ?_ (fun _ => rfl)
    fun other apart => ?_
  · simp [← same.mem_iff]
  · simp [← same.mem_iff, apart]

/-- The reload of a script may come to its end. -/
theorem close {after : Watch} (owned : watch.Owned owners)
    (set : after.slot = (watch.withSlot id ⟨false, false⟩).slot)
    (same : owners.Perm (id :: others)) : after.Owned others := by
  obtain ⟨fresh, once⟩ := List.nodup_cons.1 (same.nodup owned.once)
  refine owned.of_set set once ?_ (fun none => by cases none) fun other apart => ?_
  · simp [fresh]
  · simp [same.mem_iff, apart]

end Owned

/-! ## Records -/

/-- The record of a script that is watched. -/
def record? (watch : Watch) (id : String) : Option WatchRecord :=
  (watch.watched.find? id).bind fun place => watch.records[place]?

/-- A watch in which one record was written to, and perhaps the texts of scripts. -/
structure Writes (place : Nat) (before after : Watch) : Prop where
  /-- The places of the records in force are the same. -/
  watched : after.watched = before.watched
  /-- The slots are the same. -/
  slots : after.slots = before.slots
  /-- The reloads that wait are the same. -/
  jobs : after.jobs = before.jobs
  /-- The scripts to check have the same identifiers. -/
  has : ∀ other, after.scripts.has other = before.scripts.has other
  /-- A script to check was one before, or has the identifier under which it is to be checked. -/
  script : ∀ {other script}, after.scripts.find? other = some script →
    before.scripts.find? other = some script ∨ script.id = other
  /-- Other records are the same. -/
  other : ∀ {other : Nat}, other ≠ place → after.records[other]? = before.records[other]?
  /-- The record is still one of the file. -/
  record : ∀ {record}, before.records[place]? = some record →
    ∃ written, after.records[place]? = some written ∧ written.id = record.id ∧
      written.path = record.path

namespace Writes

variable {place : Nat}

/-- Nothing is written. -/
theorem refl (place : Nat) (watch : Watch) : Writes place watch watch :=
  ⟨rfl, rfl, rfl, fun _ => rfl, .inl, fun _ => rfl, fun found => ⟨_, found, rfl, rfl⟩⟩

/-- Something is written after something else. -/
theorem trans {first second third : Watch} (begins : Writes place first second)
    (goes : Writes place second third) : Writes place first third where
  watched := goes.watched.trans begins.watched
  slots := goes.slots.trans begins.slots
  jobs := goes.jobs.trans begins.jobs
  has other := (goes.has other).trans (begins.has other)
  script found := (goes.script found).elim begins.script .inr
  other apart := (goes.other apart).trans (begins.other apart)
  record found := by
    obtain ⟨written, found, id, path⟩ := begins.record found
    obtain ⟨last, found, id', path'⟩ := goes.record found
    exact ⟨last, found, id'.trans id, path'.trans path⟩

/-- A record is written to. -/
theorem tell {change : WatchRecord → WatchRecord}
    (keeps : ∀ record, (change record).id = record.id ∧ (change record).path = record.path) :
    Writes place watch (watch.tell place change) where
  watched := rfl
  slots := rfl
  jobs := rfl
  has _ := rfl
  script := .inl
  other apart := by
    unfold Watch.tell
    rw [Array.getElem?_modify, if_neg (Ne.symm apart)]
  record {record} found := by
    refine ⟨change record, ?_, keeps record⟩
    unfold Watch.tell
    rw [Array.getElem?_modify, if_pos rfl, found]
    rfl

/-- A script takes the place of the one under its identifier. -/
theorem withScript {script : Script} (own : script.id = id) (there : watch.scripts.has id = true) :
    Writes place watch (watch.withScript id script) where
  watched := rfl
  slots := rfl
  jobs := rfl
  has other := by
    unfold Watch.withScript
    rw [Table.has_put]
    by_cases same : other = id
    · rw [same, there, Bool.or_true]
    · rw [beq_eq_false_iff_ne.2 same, Bool.false_or]
  script {other found} := by
    unfold Watch.withScript
    intro found
    by_cases same : other = id
    · subst same
      rw [Table.find?_put] at found
      exact .inr (Option.some.inj found ▸ own)
    · rw [Table.find?_put_ne _ _ same] at found
      exact .inl found
  other _ := rfl
  record found := ⟨_, found, rfl, rfl⟩

/-- What the watch makes of an answer of the engine. -/
theorem told {script : Script} (own : script.id = id) (answer : Except Fault (Option Nat)) :
    Writes place watch (watch.told id place script answer) := by
  unfold Watch.told
  match answer with
  | .error fault =>
    dsimp only
    split
    · exact tell fun _ => ⟨rfl, rfl⟩
    · exact refl ..
  | .ok none => exact refl ..
  | .ok (some version) =>
    have renewed : Writes place watch (watch.tell place (·.renewed)) := tell fun _ => ⟨rfl, rfl⟩
    dsimp only
    split
    · rename_i there
      exact renewed.trans (withScript own there)
    · exact renewed

/-- The slots are the same. -/
theorem slot {after : Watch} (writes : Writes place watch after) : after.slot = watch.slot := by
  funext id
  unfold Watch.slot
  rw [writes.slots]

/-- Records stay records of the same files. -/
theorem exists_record {after : Watch} (writes : Writes place watch after) {other : Nat}
    {record : WatchRecord} (found : watch.records[other]? = some record) :
    ∃ written, after.records[other]? = some written ∧ written.id = record.id ∧
      written.path = record.path := by
  by_cases same : other = place
  · subst same
    exact writes.record found
  · exact ⟨record, (writes.other same).trans found, rfl, rfl⟩

end Writes

end Watch

/-- Whether a turn watches a script. -/
def Turn.watches {κ : Type} (id : String) : Turn κ → Bool
  | .watch script => script.id == id
  | _ => false

/-- Whether a turn stops watching a script. -/
def Turn.unwatches {κ : Type} (id : String) : Turn κ → Bool
  | .unwatch other => other == id
  | _ => false

/-- A turn that watches a script goes on with no reload. -/
theorem Turn.reload?_of_watches {κ : Type} {turn : Turn κ} {id : String}
    (watches : turn.watches id = true) : turn.reload? = none := by
  cases turn with
  | watch => rfl
  | _ => cases watches

/-- A turn that stops watching a script goes on with no reload. -/
theorem Turn.reload?_of_unwatches {κ : Type} {turn : Turn κ} {id : String}
    (unwatches : turn.unwatches id = true) : turn.reload? = none := by
  cases turn with
  | unwatch => rfl
  | _ => cases unwatches

/-- A reload is claimed by changes of the slots and of the reloads that wait. -/
theorem Claimed.tables {watch after : Watch} {id : String} {place : Nat}
    {reloads others : List Reloading} (claimed : Claimed watch id place reloads after others) :
    ∃ slots jobs, after = { watch with slots := slots, jobs := jobs } := by
  cases claimed with
  | takenUp | waits | starts => exact ⟨_, _, rfl⟩

namespace Scene

variable {κ : Type} {scene : Scene κ}

/-- The identifiers of the reloads that are under way or wait. -/
def owners (scene : Scene κ) : List String :=
  scene.reloads.map (·.id) ++ scene.world.watch.jobs.map Prod.fst

/-- Whether a script refers to the record at a place: it is in force, or a reload was started for
it. -/
def Refers (scene : Scene κ) (id : String) (place : Nat) : Prop :=
  scene.world.watch.watched.find? id = some place ∨
    (∃ stage, ⟨id, place, stage⟩ ∈ scene.reloads) ∨ (id, place) ∈ scene.world.watch.jobs

/-- No script has two reloads, slots tell which scripts have one, and a script has a record exactly
while it is to be checked. -/
structure Single (scene : Scene κ) : Prop extends scene.world.watch.Owned scene.owners where
  /-- A script has a record exactly while it is to be checked. -/
  recorded : ∀ id, (scene.world.watch.record? id).isSome = scene.world.watch.scripts.has id

/-- A scene that is as turns leave it. -/
structure Sane (scene : Scene κ) : Prop where
  /-- No script has two reloads, and slots tell which scripts have one. -/
  owned : scene.world.watch.Owned scene.owners
  /-- A script is watched exactly while it is to be checked. -/
  watched : ∀ id, scene.world.watch.watched.has id = scene.world.watch.scripts.has id
  /-- Scripts refer to their own records. -/
  record : ∀ {id place}, scene.Refers id place →
    ∃ record, scene.world.watch.records[place]? = some record ∧ record.id = id
  /-- Scripts are watched under their identifiers. -/
  script : ∀ {id script}, scene.world.watch.scripts.find? id = some script → script.id = id
  /-- Scripts are reloaded under their identifiers. -/
  busy : ∀ {id place script}, ⟨id, place, .busy script⟩ ∈ scene.reloads → script.id = id

/-- A scene in which nothing was watched so far. -/
structure IsFresh (scene : Scene κ) : Prop where
  /-- Nothing is watched. -/
  watch : ∃ deferred, scene.world.watch = { deferred := deferred }
  /-- No reload is under way. -/
  reloads : scene.reloads = []
  /-- Nothing was seen. -/
  past : scene.past = []

/-- A scene in which nothing was watched is sane. -/
theorem IsFresh.sane (fresh : scene.IsFresh) : scene.Sane := by
  obtain ⟨⟨deferred, watch⟩, reloads, -⟩ := fresh
  have none : scene.owners = [] := by simp [owners, watch, reloads]
  refine ⟨⟨?_, fun id => ?_, fun id set => ?_⟩, fun id => ?_, fun {id place} refers => ?_,
    fun {id script} found => ?_, fun {id place script} inside => ?_⟩
  · simp [none]
  · rw [none, watch]
    simp [Watch.slot, Table.find?]
  · rw [watch] at set
    cases set
  · rw [watch]
    rfl
  · rw [Refers, watch, reloads] at refers
    rcases refers with found | ⟨_, inside⟩ | inside
    · cases found
    · cases inside
    · cases inside
  · rw [watch] at found
    cases found
  · rw [reloads] at inside
    cases inside

/-- In a sane scene no script has two reloads. -/
theorem Sane.single (sane : scene.Sane) : scene.Single := by
  refine ⟨sane.owned, fun id => ?_⟩
  rw [← sane.watched id, Watch.record?, Table.has]
  cases found : scene.world.watch.watched.find? id with
  | none => rfl
  | some place =>
    obtain ⟨record, there, -⟩ := sane.record (.inl found)
    rw [Option.bind_some, there]
    rfl

/-- A scene stays sane when one record is written to, and reloads are only started for records to
which their scripts referred. -/
theorem Sane.of_writes (sane : scene.Sane) {after : Scene κ} {place : Nat} {middle : Watch}
    (writes : Watch.Writes place scene.world.watch middle)
    (watch : ∃ slots jobs, after.world.watch = { middle with slots := slots, jobs := jobs })
    (owned : after.world.watch.Owned after.owners)
    (refers : ∀ {id place}, (∃ stage, ⟨id, place, stage⟩ ∈ after.reloads) ∨
      (id, place) ∈ after.world.watch.jobs → scene.Refers id place)
    (busy : ∀ {id place script}, ⟨id, place, .busy script⟩ ∈ after.reloads →
      ⟨id, place, .busy script⟩ ∈ scene.reloads ∨ script.id = id) : after.Sane where
  owned := owned
  watched id := by
    obtain ⟨slots, jobs, is⟩ := watch
    rw [is]
    change middle.watched.has id = middle.scripts.has id
    rw [writes.watched, writes.has, sane.watched]
  record {id other} refer := by
    have before : scene.Refers id other := by
      refine refer.elim (fun found => .inl ?_) refers
      obtain ⟨slots, jobs, is⟩ := watch
      rw [is] at found
      exact writes.watched ▸ found
    obtain ⟨record, there, own⟩ := sane.record before
    obtain ⟨written, found, id', -⟩ := writes.exists_record there
    obtain ⟨slots, jobs, is⟩ := watch
    rw [is]
    exact ⟨written, found, id'.trans own⟩
  script {id script} found := by
    obtain ⟨slots, jobs, is⟩ := watch
    rw [is] at found
    exact (writes.script found).elim sane.script fun own => own
  busy inside := (busy inside).elim sane.busy fun own => own

/-- A check that notices a change writes to the record in force. -/
theorem Sane.observes (sane : scene.Sane) {script : Script} {place : Nat}
    (inForce : scene.world.watch.watched.find? script.id = some place) (time : Int) :
    Watch.Writes place scene.world.watch
      ((scene.world.watch.tell place (·.observed time)).withScript script.id script) := by
  have there : scene.world.watch.scripts.has script.id = true := by
    rw [← sane.watched, Table.has, inForce]
    rfl
  have observed : Watch.Writes place scene.world.watch
      (scene.world.watch.tell place (·.observed time)) := .tell fun _ => ⟨rfl, rfl⟩
  exact observed.trans (.withScript rfl there)

/-- A reload that comes to its end writes to its record. -/
theorem Sane.passed (sane : scene.Sane) {which : Nat} {id : String} {place : Nat} {stage : Stage}
    {outside : Bool} {watch : Watch} {past : List (Sight κ)}
    (found : scene.reloads[which]? = some ⟨id, place, stage⟩)
    (passed : Passed scene id place stage outside watch past) :
    Watch.Writes place scene.world.watch watch := by
  cases passed with
  | gone => exact .refl ..
  | unread => exact .tell fun _ => ⟨rfl, rfl⟩
  | @atOnce script record time code scripted recorded reading answer =>
    have seen : Watch.Writes place scene.world.watch (scene.world.watch.tell place (·.seen time)) :=
      .tell fun _ => ⟨rfl, rfl⟩
    have own : script.id = id := sane.script scripted
    exact seen.trans (.told (show (script.withSource script.language code).id = id from own) answer)
  | inTheEnd script answer => exact .told (sane.busy (List.mem_of_getElem? found)) answer

/-- The owners when the reload of one of them is over. -/
theorem owners_erase {which : Nat} {reloading : Reloading}
    (found : scene.reloads[which]? = some reloading) {after : Scene κ}
    (reloads : after.reloads = scene.reloads.eraseIdx which)
    (jobs : after.world.watch.jobs = scene.world.watch.jobs) :
    scene.owners.Perm (reloading.id :: after.owners) := by
  obtain ⟨inside, rfl⟩ := List.getElem?_eq_some_iff.1 found
  unfold owners
  rw [reloads, jobs, ← List.cons_append]
  exact ((List.getElem_cons_eraseIdx_perm inside).symm.map Reloading.id).append_right _

/-- The owners when the reload of one of them gets to a stage. -/
theorem owners_set {which : Nat} {id : String} {place : Nat} {stage next : Stage}
    (found : scene.reloads[which]? = some ⟨id, place, stage⟩) {after : Scene κ}
    (reloads : after.reloads = scene.reloads.set which ⟨id, place, next⟩)
    (jobs : after.world.watch.jobs = scene.world.watch.jobs) : scene.owners.Perm after.owners := by
  obtain ⟨inside, is⟩ := List.getElem?_eq_some_iff.1 found
  have same : (scene.reloads.set which ⟨id, place, next⟩).map Reloading.id =
      scene.reloads.map Reloading.id := by
    have within : which < (scene.reloads.map Reloading.id).length := by simpa using inside
    have own : (scene.reloads.map Reloading.id)[which] = id := by simp [is]
    rw [List.map_set]
    exact (congrArg (List.set _ which) own.symm).trans (List.set_getElem_self within)
  unfold owners
  rw [reloads, jobs, same]

/-- What the reloads refer to when one of them was claimed. -/
theorem refers_claimed {id : String} {place : Nat} {middle : Watch}
    (inForce : scene.world.watch.watched.find? id = some place)
    (same : middle.jobs = scene.world.watch.jobs) {watch : Watch} {reloads : List Reloading}
    (claimed : Claimed middle id place scene.reloads watch reloads) {other : String} {spot : Nat}
    (refers : (∃ stage, ⟨other, spot, stage⟩ ∈ reloads) ∨ (other, spot) ∈ watch.jobs) :
    scene.Refers other spot := by
  cases claimed with
  | takenUp => exact .inr (same ▸ refers)
  | waits =>
    rcases refers with inside | inside
    · exact .inr (.inl inside)
    · change (other, spot) ∈ middle.jobs ++ [(id, place)] at inside
      rcases List.mem_append.1 (same ▸ inside) with before | last
      · exact .inr (.inr before)
      · cases List.mem_singleton.1 last
        exact .inl inForce
  | starts =>
    rcases refers with ⟨stage, inside⟩ | inside
    · rcases List.mem_append.1 inside with before | last
      · exact .inr (.inl ⟨stage, before⟩)
      · cases List.mem_singleton.1 last
        exact .inl inForce
    · exact .inr (.inr (same ▸ inside))

/-- A reload is claimed in a sane scene. -/
theorem Sane.claimed (sane : scene.Sane) {id : String} {place : Nat} {middle : Watch}
    (inForce : scene.world.watch.watched.find? id = some place)
    (writes : Watch.Writes place scene.world.watch middle) {reloads : List Reloading}
    {world : World κ} (claimed : Claimed middle id place scene.reloads world.watch reloads)
    (past : List (Sight κ)) : Sane ⟨world, reloads, past⟩ := by
  have owned : middle.Owned scene.owners := sane.owned.perm writes.slot (.refl _)
  have jobs := writes.jobs
  refine sane.of_writes writes claimed.tables ?_ (refers_claimed inForce jobs claimed)
    fun {other spot script} inside => .inl ?_
  · generalize isWatch : world.watch = watch at claimed
    cases claimed with
    | takenUp running =>
      have same : (⟨world, scene.reloads, past⟩ : Scene κ).owners = scene.owners := by
        unfold owners
        rw [isWatch]
        exact congrArg (scene.reloads.map Reloading.id ++ List.map Prod.fst ·) jobs
      rw [same]
      exact owned.flag ((owned.running id).1 running) rfl
    | waits idle =>
      refine owned.start idle rfl ?_
      unfold owners
      rw [isWatch]
      change List.Perm _ (_ ++ List.map Prod.fst (middle.jobs ++ [(id, place)]))
      rw [jobs, List.map_append, ← List.append_assoc]
      exact (List.perm_append_singleton ..).symm
    | starts idle =>
      refine owned.start idle rfl ?_
      unfold owners
      rw [isWatch]
      change List.Perm _ (_ ++ List.map Prod.fst middle.jobs)
      rw [jobs, List.map_append, List.append_assoc]
      exact List.perm_middle.symm
  · generalize world.watch = watch at claimed
    cases claimed with
    | takenUp | waits => exact inside
    | starts =>
      refine (List.mem_append.1 inside).resolve_right fun last => ?_
      cases List.mem_singleton.1 last

/-- What the reloads refer to when one that waited starts. -/
theorem refers_released {id : String} {place : Nat} {rest : List (String × Nat)}
    (jobs : scene.world.watch.jobs = (id, place) :: rest) {other : String} {spot : Nat}
    (refers : (∃ stage, ⟨other, spot, stage⟩ ∈ scene.reloads ++ [⟨id, place, .due⟩]) ∨
      (other, spot) ∈ rest) : scene.Refers other spot := by
  rcases refers with ⟨stage, inside⟩ | inside
  · rcases List.mem_append.1 inside with before | last
    · exact .inr (.inl ⟨stage, before⟩)
    · cases List.mem_singleton.1 last
      exact .inr (.inr (jobs ▸ List.mem_cons_self))
  · exact .inr (.inr (jobs ▸ List.mem_cons_of_mem _ inside))

/-- A scene stays sane when another script is watched. -/
theorem Sane.register (sane : scene.Sane) {script : Script} {path : Text.Path} {time : Int}
    {world : World κ}
    (watch : world.watch = scene.world.watch.register script ⟨script.id, path, time, 0, none⟩) :
    (scene.withWorld world).Sane := by
  have records {place : Nat} {record : WatchRecord}
      (found : scene.world.watch.records[place]? = some record) :
      world.watch.records[place]? = some record := by
    obtain ⟨inside, -⟩ := Array.getElem?_eq_some_iff.1 found
    rw [watch]
    exact (Array.getElem?_push_lt inside).trans ((Array.getElem?_eq_getElem _).symm.trans found)
  have jobs : world.watch.jobs = scene.world.watch.jobs := by rw [watch]; rfl
  have others {id : String} {place : Nat} (refers : scene.Refers id place) :
      ∃ record, world.watch.records[place]? = some record ∧ record.id = id := by
    obtain ⟨record, found, own⟩ := sane.record refers
    exact ⟨record, records found, own⟩
  refine ⟨?_, fun id => ?_, fun {id place} refers => ?_, fun {id other} found => ?_, sane.busy⟩
  · have slots : world.watch.slot = scene.world.watch.slot := by
      rw [watch, Watch.slot_register]
    refine sane.owned.perm slots ?_
    unfold owners
    exact .of_eq (congrArg (scene.reloads.map Reloading.id ++ List.map Prod.fst ·) jobs.symm)
  · change world.watch.watched.has id = world.watch.scripts.has id
    rw [watch]
    unfold Watch.register
    rw [Table.has_put, Table.has_put, sane.watched]
  · change ∃ record, world.watch.records[place]? = some record ∧ record.id = id
    rcases refers with found | started | waits
    · change world.watch.watched.find? id = some place at found
      rw [watch] at found
      by_cases same : id = script.id
      · subst same
        cases Option.some.inj ((Table.find?_put ..).symm.trans found)
        rw [watch]
        exact ⟨_, Array.getElem?_push_size, rfl⟩
      · exact others (.inl ((Table.find?_put_ne _ _ same).symm.trans found))
    · exact others (.inr (.inl started))
    · exact others (.inr (.inr (jobs ▸ waits)))
  · change world.watch.scripts.find? id = some other at found
    rw [watch] at found
    by_cases same : id = script.id
    · subst same
      exact Option.some.inj ((Table.find?_put ..).symm.trans found) ▸ rfl
    · exact sane.script ((Table.find?_put_ne _ _ same).symm.trans found)

/-- A scene stays sane when a script is no longer watched. -/
theorem Sane.stop (sane : scene.Sane) {id : String} {world : World κ}
    (watch : world.watch = scene.world.watch.stop id) : (scene.withWorld world).Sane := by
  have kept {α : Type} {table : Table α} {other : String} {value : α}
      (found : (table.erase id).find? other = some value) : table.find? other = some value := by
    by_cases same : other = id
    · subst same
      rw [Table.find?_erase] at found
      cases found
    · rwa [Table.find?_erase_ne _ same] at found
  refine ⟨?_, fun other => ?_, fun {other place} refers => ?_, fun {other script} found => ?_,
    sane.busy⟩
  · refine sane.owned.perm (by rw [withWorld, watch]; rfl) ?_
    unfold owners
    rw [withWorld, watch]
    rfl
  · rw [withWorld, watch]
    change (scene.world.watch.watched.erase id).has other =
      (scene.world.watch.scripts.erase id).has other
    rw [Table.has_erase, Table.has_erase, sane.watched]
  · rw [withWorld, watch]
    refine sane.record (refers.imp (fun found => ?_) fun started => ?_)
    · rw [withWorld, watch] at found
      exact kept found
    · rw [withWorld, watch] at started
      exact started
  · rw [withWorld, watch] at found
    exact sane.script (kept found)

/-- What the reloads refer to when one of them got to a stage. -/
theorem refers_set {which : Nat} {id : String} {place : Nat} {stage next : Stage}
    (found : scene.reloads[which]? = some ⟨id, place, stage⟩) {jobs : List (String × Nat)}
    (same : jobs = scene.world.watch.jobs) {other : String} {spot : Nat}
    (refers : (∃ stage, ⟨other, spot, stage⟩ ∈ scene.reloads.set which ⟨id, place, next⟩) ∨
      (other, spot) ∈ jobs) : scene.Refers other spot := by
  rcases refers with ⟨reached, inside⟩ | waits
  · rcases List.mem_or_eq_of_mem_set inside with before | is
    · exact .inr (.inl ⟨reached, before⟩)
    · cases is
      exact .inr (.inl ⟨stage, List.mem_of_getElem? found⟩)
  · exact .inr (.inr (same ▸ waits))

/-- Every turn keeps a sane scene sane. -/
theorem Sane.step (sane : scene.Sane) {after : Scene κ} {turn : Turn κ}
    (took : Took scene turn after) : after.Sane := by
  cases took with
  | @aside _ world watch =>
    have jobs : world.watch.jobs = scene.world.watch.jobs := by rw [watch]
    refine sane.of_writes (.refl 0 _) ⟨_, _, watch⟩ ?_ (fun refers => .inr (jobs ▸ refers)) .inl
    refine sane.owned.perm (congrArg Watch.slot watch) ?_
    unfold owners
    exact .of_eq (congrArg (scene.reloads.map Reloading.id ++ List.map Prod.fst ·) jobs.symm)
  | files files => exact ⟨sane.owned, sane.watched, sane.record, sane.script, sane.busy⟩
  | watched known found watch => exact sane.register watch
  | unwatched id watch => exact sane.stop watch
  | @noticed script _ _ time _ _ inForce _ _ _ claimed =>
    exact sane.claimed inForce (sane.observes inForce time) claimed _
  | @released id place rest world jobs watch =>
    have left : world.watch.jobs = rest := by rw [watch]
    refine sane.of_writes (.refl 0 _) ⟨_, _, watch⟩ ?_
      (fun refers => refers_released jobs (left ▸ refers)) fun {other spot script} inside => .inl ?_
    · refine sane.owned.perm (by rw [watch]; rfl) ?_
      unfold owners
      rw [jobs, left, List.map_append, List.append_assoc]
      rfl
    · refine (List.mem_append.1 inside).resolve_right fun last => ?_
      cases List.mem_singleton.1 last
  | @asked which id place script record time code world found scripted recorded reading watch =>
    have jobs : world.watch.jobs = scene.world.watch.jobs := by rw [watch]; rfl
    have seen : Watch.Writes place scene.world.watch (scene.world.watch.tell place (·.seen time)) :=
      .tell fun _ => ⟨rfl, rfl⟩
    refine sane.of_writes seen ⟨_, _, watch⟩ ?_ (refers_set found jobs)
      fun {other spot busy} inside => ?_
    · exact sane.owned.perm (by rw [watch]; exact seen.slot) (owners_set found rfl jobs)
    · refine (List.mem_or_eq_of_mem_set inside).imp_right fun is => ?_
      cases is
      exact (sane.script scripted :)
  | @finished _ which id place stage outside watch past world _ found passed last settled =>
    have writes := sane.passed found passed
    have jobs : world.watch.jobs = scene.world.watch.jobs := by rw [settled]; exact writes.jobs
    refine sane.of_writes writes ⟨_, _, settled⟩ ?_ (fun {other spot} refers => ?_)
      fun {other spot script} inside => .inl (List.mem_of_mem_eraseIdx inside)
    · rw [settled]
      exact (sane.owned.perm writes.slot (.refl _)).close rfl (owners_erase found rfl jobs)
    · exact .inr (refers.imp (fun ⟨stage, inside⟩ => ⟨stage, List.mem_of_mem_eraseIdx inside⟩)
        fun inside => jobs ▸ inside)
  | @renewed _ which id place stage watch past world _ found passed again settled =>
    have writes := sane.passed found passed
    have jobs : world.watch.jobs = scene.world.watch.jobs := by rw [settled]; exact writes.jobs
    have inside : id ∈ scene.owners :=
      List.mem_append_left _ (List.mem_map.2 ⟨_, List.mem_of_getElem? found, rfl⟩)
    refine sane.of_writes writes ⟨_, _, settled⟩ ?_ (refers_set found jobs)
      fun {other spot script} inside => .inl ?_
    · rw [settled]
      exact ((sane.owned.perm writes.slot (.refl _)).flag inside rfl).perm rfl
        (owners_set found rfl jobs)
    · rcases List.mem_or_eq_of_mem_set inside with before | is
      · exact before
      · cases is

/-- A turn that does not watch a script makes it refer to no further record. -/
theorem Sane.refers (sane : scene.Sane) {after : Scene κ} {turn : Turn κ} {id : String}
    (took : Took scene turn after) (watches : turn.watches id = false) {place : Nat}
    (refers : after.Refers id place) : scene.Refers id place := by
  have started {world : World κ} (same : world.watch.watched = scene.world.watch.watched)
      {reloads : List Reloading} {past : List (Sight κ)}
      (started : (∃ stage, ⟨id, place, stage⟩ ∈ reloads) ∨ (id, place) ∈ world.watch.jobs →
        scene.Refers id place)
      (refers : (⟨world, reloads, past⟩ : Scene κ).Refers id place) : scene.Refers id place :=
    refers.elim (fun found => .inl (same ▸ found)) started
  cases took with
  | aside _ watch => exact started (by rw [watch]) (fun refers => .inr (watch ▸ refers)) refers
  | files => exact refers
  | @watched script path time world _ _ watch =>
    have different : script.id ≠ id := by simpa [Turn.watches] using watches
    rw [Refers, withWorld, watch] at refers
    exact refers.imp_left (Table.find?_put_ne _ _ different.symm).symm.trans
  | unwatched other watch =>
    rw [Refers, withWorld, watch] at refers
    refine refers.imp_left fun found => ?_
    change (scene.world.watch.watched.erase other).find? id = some place at found
    by_cases same : id = other
    · rw [same, Table.find?_erase] at found
      cases found
    · rwa [Table.find?_erase_ne _ same] at found
  | @noticed script spot _ time _ _ inForce _ _ _ claimed =>
    have writes := sane.observes inForce time
    obtain ⟨slots, jobs, is⟩ := claimed.tables
    exact started (by rw [is]; rfl) (refers_claimed inForce writes.jobs claimed) refers
  | released jobs watch =>
    exact started (by rw [watch]) (fun refers => refers_released jobs (by rwa [watch] at refers))
      refers
  | asked found _ _ _ watch =>
    exact started (by rw [watch]; rfl) (refers_set found (by rw [watch]; rfl)) refers
  | finished _ found passed _ settled =>
    have writes := sane.passed found passed
    refine started (by rw [settled]; exact writes.watched) (fun refers => .inr (refers.imp
      (fun ⟨stage, inside⟩ => ⟨stage, List.mem_of_mem_eraseIdx inside⟩) fun inside => ?_)) refers
    rw [settled] at inside
    exact writes.jobs ▸ inside
  | renewed _ found passed _ settled =>
    have writes := sane.passed found passed
    exact started (by rw [settled]; exact writes.watched)
      (refers_set found (by rw [settled]; exact writes.jobs)) refers

/-- A turn that neither watches a script nor stops to do so leaves the record in force. -/
theorem Sane.inForce (sane : scene.Sane) {after : Scene κ} {turn : Turn κ} {id : String}
    (took : Took scene turn after) (watches : turn.watches id = false)
    (unwatches : turn.unwatches id = false) :
    after.world.watch.watched.find? id = scene.world.watch.watched.find? id := by
  cases took with
  | aside _ watch => exact congrArg (Table.find? ·.watched id) watch
  | files => rfl
  | @watched script path time world _ _ watch =>
    have different : script.id ≠ id := by simpa [Turn.watches] using watches
    rw [withWorld, watch]
    exact Table.find?_put_ne _ _ different.symm
  | unwatched other watch =>
    have different : other ≠ id := by simpa [Turn.unwatches] using unwatches
    rw [withWorld, watch]
    exact Table.find?_erase_ne _ different.symm
  | noticed _ _ _ _ claimed =>
    obtain ⟨slots, jobs, is⟩ := claimed.tables
    exact congrArg (Table.find? ·.watched id) is
  | released _ watch => exact congrArg (Table.find? ·.watched id) watch
  | asked _ _ _ _ watch => exact congrArg (Table.find? ·.watched id) watch
  | finished _ found passed _ settled =>
    exact (congrArg (Table.find? ·.watched id) settled).trans
      (congrArg (Table.find? · id) (sane.passed found passed).watched)
  | renewed _ found passed _ settled =>
    exact (congrArg (Table.find? ·.watched id) settled).trans
      (congrArg (Table.find? · id) (sane.passed found passed).watched)

/-- A run keeps a sane scene sane. -/
theorem Sane.run (sane : scene.Sane) (turns : List (Turn κ)) : (scene.run turns).Sane :=
  run_preserves (fun _ sane took => sane.step took)
    (allows_of_forall (fun _ _ => trivial) scene) sane

end Scene

/-- After every run of checks, reloads, changes of the watch and of files, and operations of the
engine, of which any may happen while reloads are under way, no script has two reloads, the slot of a
script is taken exactly while it has one, a further change is noted only in a slot that is taken, and
a script has a record exactly while it is to be checked. -/
theorem one_reload {κ : Type} {scene : Scene κ} (fresh : scene.IsFresh) (turns : List (Turn κ)) :
    (scene.run turns).Single :=
  (fresh.sane.run turns).single

/-- A file that was written at a time. -/
def writtenAt (time : Int) : Files :=
  { nodes := [(["a.lag"], .file "fn f() -> int \x7b return 1; \x7d".toUTF8 time)] }

/-- A script with a file. -/
def filed : Script := ⟨"a", .lag, "", some ⟨0, ["a.lag"]⟩⟩

/-- A world with a file. -/
def filedWorld : World Unit := { World.initial () with files := writtenAt 1 }

/-- The file of a script that is watched changes, and changes again while the script is reloaded. -/
def changing : List (Turn Unit) :=
  [.files (writtenAt 2), .check filed, .read 0 none, .files (writtenAt 3), .check filed]

/-- The second change is noted in the slot of the one reload. -/
theorem one_reload_changing :
    (⟨filedWorld, [], []⟩ : Scene Unit).IsFresh ∧
      let scene := (⟨filedWorld, [], []⟩ : Scene Unit).run (.watch filed :: changing)
      scene.Single ∧ scene.owners = ["a"] ∧ scene.world.watch.slot "a" = ⟨true, true⟩ := by
  have fresh : (⟨filedWorld, [], []⟩ : Scene Unit).IsFresh := ⟨⟨false, rfl⟩, rfl, rfl⟩
  exact ⟨fresh, one_reload fresh _, by decide +kernel, by decide +kernel⟩

end Lag
