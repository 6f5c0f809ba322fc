import Lag.Proofs.Watch.Inline

/-!
# What undisturbed operations keep

As long as nobody disturbs operations, and reloads do not wait, a watch between two operations is
steady: no reload is under way, and the scripts to check are those that are watched, with their own
records. The engine is sane, whatever loads and reloads of others wait for their commits.
-/
namespace Lag

/-- A fault whose version, if it tells one, was given. -/
def Fault.IsBelow (next : Nat) (fault : Fault) : Prop :=
  ∀ id version accident, fault = .initial id version accident → version < next

/-- A fault that tells no version. -/
theorem Fault.isBelow_of_early {fault : Fault} (other : fault.isLate = false) (next : Nat) :
    fault.IsBelow next := by
  rintro id version accident rfl
  cases other

/-- A file that is not found tells no version. -/
theorem Files.isLate_of_timeOf {files : Files} {id : String} {path : Text.Path} {fault : Fault}
    (found : files.timeOf id path = .error fault) : fault.isLate = false := by
  unfold Files.timeOf at found
  split at found <;> cases found <;> rfl

/-- A file that cannot be read tells no version. -/
theorem Files.isLate_of_reading {files : Files} {id : String} {path : Text.Path} {fault : Fault}
    (reading : files.reading id path = .error fault) : fault.isLate = false := by
  unfold Files.reading at reading
  split at reading
  · rename_i found
    cases reading
    exact isLate_of_timeOf found
  · split at reading <;> cases reading
    rfl

/-- An accident tells no other version than its fault. -/
theorem Fault.IsBelow.ofAccident {next : Nat} {fault : Fault} (below : fault.IsBelow next)
    (accident : Run.Accident) : (Fault.ofAccident accident fault).IsBelow next := by
  unfold Fault.ofAccident
  split
  · rintro id version given is
    cases is
  · exact below

/-- A reload that fails tells at most the version of its module. -/
theorem Script.isBelow_verdict (language : HostLanguage) (limit : Nat) (isDeleted : Bool)
    (shared : Run.Store) (script : Script) {engine : Engine} {fault : Fault}
    (answers : (script.verdict language limit isDeleted shared).outcome script.id
      engine.nextVersion = .error fault) :
    fault.IsBelow
      ((script.verdict language limit isDeleted shared).leave script engine).nextVersion := by
  have early (fault : CompileFault) (next : Nat) : (Fault.compile fault).IsBelow next :=
    Fault.isBelow_of_early rfl next
  unfold Script.verdict at answers ⊢
  split at answers
  · obtain rfl := Except.error.inj answers
    exact early _ _
  · split at answers
    · obtain rfl := Except.error.inj answers
      exact (early _ _).ofAccident _
    · unfold HostLanguage.verdict at answers ⊢
      split at answers
      · cases answers
      · rename_i kept
        rw [if_neg kept]
        split at answers
        · rename_i accident globals left ending
          obtain rfl := Except.error.inj answers
          refine Fault.IsBelow.ofAccident ?_ accident
          rintro id version same is
          cases is
          exact Nat.lt_of_lt_of_eq (Nat.lt_succ_self _) (Engine.nextVersion_insert ..).symm
        · cases answers

namespace Watch

variable {watch : Watch} {next : Nat}

/-- A watch whose reloads do not wait, as operations leave it if versions were given up to some
point: no reload is under way, the scripts to check are those that are watched, under their
identifiers, and they have records. -/
structure Steady (watch : Watch) (next : Nat) : Prop where
  /-- Reloads do not wait. -/
  inline : watch.deferred = false
  /-- No reload is under way. -/
  idle : ∀ id, watch.slot id = ⟨false, false⟩
  /-- The scripts to check are those that are watched. -/
  names : watch.scripts.names = watch.watched.names
  /-- No script is watched twice. -/
  once : watch.watched.names.Nodup
  /-- Scripts are watched under their identifiers. -/
  script : ∀ {id script}, watch.scripts.find? id = some script →
    script.id = id ∧ script.isValid = true
  /-- Scripts have their own records. -/
  record : ∀ {id place}, watch.watched.find? id = some place →
    ∃ record, watch.records[place]? = some record ∧ record.id = id
  /-- Faults of earlier reloads tell versions that were given. -/
  below : ∀ {place : Nat} {record fault}, watch.records[place]? = some record →
    record.lastFault = some fault → fault.IsBelow next

/-- A watch without scripts. -/
theorem steady_fresh (next : Nat) : Steady {} next where
  inline := rfl
  idle _ := rfl
  names := rfl
  once := List.nodup_nil
  script found := by cases found
  record found := by cases found
  below found := by cases found

namespace Steady

/-- More versions may be given. -/
theorem mono (steady : watch.Steady next) {later : Nat} (more : next ≤ later) :
    watch.Steady later :=
  { steady with
    below := fun recorded failed id version accident is =>
      Nat.lt_of_lt_of_le (steady.below recorded failed id version accident is) more }

/-- Scripts that are watched are valid. -/
theorem isValid (steady : watch.Steady next) {script : Script} {place : Nat}
    (inForce : watch.watched.find? script.id = some place) : script.isValid = true := by
  have watched : script.id ∈ watch.watched.names :=
    (Table.has_iff_mem _ _).1 (by rw [Table.has, inForce]; rfl)
  rw [← steady.names] at watched
  have there := (Table.has_iff_mem _ _).2 watched
  obtain ⟨known, scripted⟩ := Option.isSome_iff_exists.1 there
  obtain ⟨own, valid⟩ := steady.script scripted
  unfold Script.isValid at valid ⊢
  rwa [own] at valid

/-- Scripts have different records. -/
theorem apart (steady : watch.Steady next) {id other : String} (different : other ≠ id)
    (same : watch.watched.find? other = watch.watched.find? id) :
    watch.watched.find? other = none := by
  cases found : watch.watched.find? other with
  | none => rfl
  | some place =>
    obtain ⟨record, there, own⟩ := steady.record found
    obtain ⟨record', there', own'⟩ := steady.record (same ▸ found)
    cases there.symm.trans there'
    exact absurd (own.symm.trans own') different

/-- A script is watched. -/
theorem register (steady : watch.Steady next) {script : Script} (valid : script.isValid = true)
    (path : Text.Path) (time : Int) :
    (watch.register script ⟨script.id, path, time, 0, none⟩).Steady next where
  inline := steady.inline
  idle id := by rw [slot_register, steady.idle]
  names := by
    change (Table.put ..).names = (Table.put ..).names
    rw [Table.names_put, Table.names_put, steady.names, Table.has_eq_of_names steady.names]
  once := by
    change (Table.put ..).names.Nodup
    rw [Table.names_put]
    split
    · exact steady.once
    · rename_i fresh
      rw [Table.has_iff_mem] at fresh
      exact (List.perm_append_singleton ..).nodup_iff.2 (List.nodup_cons.2 ⟨fresh, steady.once⟩)
  script {id other} found := by
    change (Table.put ..).find? id = some other at found
    by_cases same : id = script.id
    · subst same
      cases Option.some.inj ((Table.find?_put ..).symm.trans found)
      exact ⟨rfl, valid⟩
    · exact steady.script ((Table.find?_put_ne _ _ same).symm.trans found)
  record {id place} found := by
    change (Table.put ..).find? id = some place at found
    change ∃ record, (watch.records.push _)[place]? = some record ∧ record.id = id
    by_cases same : id = script.id
    · subst same
      cases Option.some.inj ((Table.find?_put ..).symm.trans found)
      exact ⟨_, Array.getElem?_push_size, rfl⟩
    · obtain ⟨record, there, own⟩ := steady.record ((Table.find?_put_ne _ _ same).symm.trans found)
      obtain ⟨inside, -⟩ := Array.getElem?_eq_some_iff.1 there
      exact ⟨record, by rw [Array.getElem?_push, if_neg (Nat.ne_of_lt inside), there], own⟩
  below {place record fault} found failed := by
    change (watch.records.push _)[place]? = some record at found
    rw [Array.getElem?_push] at found
    split at found
    · cases found
      cases failed
    · exact steady.below found failed

/-- A script is no longer watched. -/
theorem stop (steady : watch.Steady next) (id : String) : (watch.stop id).Steady next := by
  have kept {α : Type} {table : Table α} {other : String} {value : α}
      (found : (table.erase id).find? other = some value) : table.find? other = some value := by
    by_cases same : other = id
    · subst same
      rw [Table.find?_erase] at found
      cases found
    · rwa [Table.find?_erase_ne _ same] at found
  exact {
    inline := steady.inline
    idle := steady.idle
    names := by
      change (Table.erase ..).names = (Table.erase ..).names
      rw [Table.names_erase, Table.names_erase, steady.names]
    once := by
      change (Table.erase ..).names.Nodup
      rw [Table.names_erase]
      exact steady.once.filter _
    script := fun found => steady.script (kept found)
    record := fun found => steady.record (kept found)
    below := steady.below }

/-- A script is reworked. -/
theorem reworked (steady : watch.Steady next) {id : String} {place : Nat}
    {change : WatchRecord → WatchRecord} {script : Script}
    (inForce : watch.watched.find? id = some place) (known : script.id = id)
    (valid : script.isValid = true) (own : ∀ record, (change record).id = record.id)
    (below : ∀ {record : WatchRecord} {fault}, watch.records[place]? = some record →
      (change record).lastFault = some fault → fault.IsBelow next) :
    (watch.reworked id place change script).Steady next where
  inline := steady.inline
  idle other := by
    unfold Watch.reworked
    by_cases same : other = id
    · subst same
      exact slot_withSlot ..
    · rw [slot_withSlot_ne _ _ same, slot_withSlot_ne _ _ same]
      exact steady.idle other
  names := by
    have there : watch.scripts.has id = true := by
      rw [Table.has_eq_of_names steady.names, Table.has, inForce]
      rfl
    change (Table.put id script watch.scripts).names = watch.watched.names
    rw [Table.names_put, if_pos there, steady.names]
  once := steady.once
  script {other found} there := by
    change (Table.put ..).find? other = some found at there
    by_cases same : other = id
    · subst same
      cases Option.some.inj ((Table.find?_put ..).symm.trans there)
      exact ⟨known, valid⟩
    · exact steady.script ((Table.find?_put_ne _ _ same).symm.trans there)
  record {other spot} found := by
    obtain ⟨record, there, named⟩ := steady.record found
    change ∃ record, (watch.records.modify place change)[spot]? = some record ∧ record.id = other
    rw [Array.getElem?_modify, there]
    split
    · exact ⟨_, rfl, (own record).trans named⟩
    · exact ⟨record, rfl, named⟩
  below {spot record fault} found failed := by
    change (watch.records.modify place change)[spot]? = some record at found
    rw [Array.getElem?_modify] at found
    split at found
    · rename_i same
      subst same
      obtain ⟨before, there, rfl⟩ := Option.map_eq_some_iff.1 found
      exact below there failed
    · exact steady.below found failed

end Steady

end Watch

/-- A fault that a record tells after an answer is that of the answer, or was told before. -/
theorem WatchRecord.lastFault_answered {record : WatchRecord} {answer : Except Fault (Option Nat)}
    {fault : Fault} (failed : (record.answered answer).lastFault = some fault) :
    answer = .error fault ∨ record.lastFault = some fault := by
  unfold answered at failed
  match answer with
  | .error reason =>
    dsimp only at failed
    split at failed
    · cases failed
      exact .inl rfl
    · exact .inr failed
  | .ok none => exact .inr failed
  | .ok (some version) => cases failed

/-- A text that was read keeps the script under its identifier. -/
theorem Script.id_after {script next : Script} (same : next.id = script.id)
    (answer : Except Fault (Option Nat)) : (script.after next answer).id = script.id := by
  match answer with
  | .error fault => rfl
  | .ok none => rfl
  | .ok (some version) => exact same

/-- An answer of the engine concerns its own record. -/
@[simp] theorem WatchRecord.id_answered (record : WatchRecord) (answer : Except Fault (Option Nat)) :
    (record.answered answer).id = record.id := by
  unfold answered
  match answer with
  | .error fault => dsimp only; split <;> rfl
  | .ok none => rfl
  | .ok (some version) => rfl

namespace Checked

variable {language : HostLanguage} {files : Files} {script : Script} {engine : Engine}
  {watch : Watch} {ending : Except Fault World.CheckResult × Engine × Watch}

/-- A check builds no fewer modules than there were. -/
theorem nextVersion_le (checked : Checked language files script engine watch ending)
    (sane : engine.IsSane language) (steady : watch.Steady engine.nextVersion) :
    engine.nextVersion ≤ ending.2.1.nextVersion := by
  cases checked with
  | unwatched | lost | unchanged | unread => exact Nat.le_refl _
  | @read _ _ _ _ code inForce _ _ _ _ _ _ performs =>
    have valid : (script.withSource script.language code).isValid = true := steady.isValid inForce
    obtain ⟨-, rfl⟩ := Engine.of_performs sane valid performs
    exact Verdict.nextVersion_leave _

/-- A check leaves the limit alone. -/
theorem limit_eq (checked : Checked language files script engine watch ending)
    (sane : engine.IsSane language) (steady : watch.Steady engine.nextVersion) :
    ending.2.1.limit = engine.limit := by
  cases checked with
  | unwatched | lost | unchanged | unread => rfl
  | @read _ _ _ _ code inForce _ _ _ _ _ _ performs =>
    have valid : (script.withSource script.language code).isValid = true := steady.isValid inForce
    obtain ⟨-, rfl⟩ := Engine.of_performs sane valid performs
    exact Verdict.limit_leave _

/-- A check leaves a steady watch steady. -/
theorem steady (checked : Checked language files script engine watch ending)
    (sane : engine.IsSane language) (steady : watch.Steady engine.nextVersion) :
    ending.2.2.Steady ending.2.1.nextVersion := by
  have grows := checked.nextVersion_le sane steady
  cases checked with
  | unwatched | lost | unchanged => exact steady
  | unread inForce recorded found later reading =>
    refine steady.reworked inForce rfl (steady.isValid inForce) (fun _ => rfl) fun _ failed => ?_
    cases failed
    exact Fault.isBelow_of_early (Files.isLate_of_reading reading) _
  | @read place record time last code inForce recorded found later reading answer left performs =>
    have known : (script.withSource script.language code).isValid = true := steady.isValid inForce
    have own : (script.after (script.withSource script.language code) answer).id = script.id :=
      Script.id_after (show (script.withSource script.language code).id = script.id from rfl) answer
    have valid : (script.after (script.withSource script.language code) answer).isValid = true := by
      unfold Script.isValid at known ⊢
      rwa [own]
    obtain ⟨rfl, rfl⟩ := Engine.of_performs sane known performs
    refine (steady.mono grows).reworked inForce own valid (fun record => WatchRecord.id_answered ..)
      fun there failed => ?_
    rcases WatchRecord.lastFault_answered failed with answered | before
    · exact Script.isBelow_verdict language engine.limit _ _ (script.withSource script.language code)
        answered
    · exact (steady.mono grows).below there before

end Checked

/-! ## Actions -/

/-- What may be done to a world whose files are watched. -/
inductive Action where
  /-- Make a move with the engine. -/
  | move (move : Move)
  /-- Write files. -/
  | files (files : Files)
  /-- Start to watch a script. -/
  | watch (script : Script)
  /-- Stop watching a script. -/
  | unwatch (id : String)
  /-- Check a script. -/
  | check (script : Script)
  /-- Check every script that is watched. -/
  | checkAll

/-- Whether an action watches no script without an identifier. -/
def Action.isValid : Action → Bool
  | .watch script => script.isValid
  | _ => true

namespace Busy

variable {κ : Type}

/-- Operations that are under way in another world. -/
def withState (busy : Busy (World κ)) (world : World κ) : Busy (World κ) :=
  { busy with state := world }

/-- Act. -/
def act (hooks : Hooks κ) (bound : Nat) (busy : Busy (World κ)) : Action → Busy (World κ)
  | .move move => busy.step (World.steps hooks) move
  | .files files => busy.withState { busy.state with files := files }
  | .watch script => busy.withState (World.ended (World.startWatch script) busy.state).2
  | .unwatch id => busy.withState (World.ended (World.stopWatch id) busy.state).2
  | .check script => busy.withState (World.ended (World.check hooks bound script) busy.state).2
  | .checkAll => busy.withState (World.ended (World.checkAll hooks bound) busy.state).2

/-- Act several times. -/
def actAll (hooks : Hooks κ) (bound : Nat) (busy : Busy (World κ)) (actions : List Action) :
    Busy (World κ) :=
  actions.foldl (act hooks bound) busy

/-- What undisturbed actions keep. -/
structure Calm (language : HostLanguage) (busy : Busy (World κ)) : Prop where
  /-- The engine is sane. -/
  sane : busy.engine.Sane language
  /-- The watch is steady. -/
  steady : busy.state.watch.Steady busy.state.engine.nextVersion

/-- No move takes a version back. -/
theorem nextVersion_le {language : HostLanguage} {busy after : Busy Engine} {move : Move}
    (stepped : Stepped language busy move after) :
    busy.state.nextVersion ≤ after.state.nextVersion := by
  cases stepped with
  | idle | refused | discarded | found | lost => exact Nat.le_refl _
  | spoilt | built =>
    exact Nat.le_of_lt (Nat.lt_of_lt_of_eq (Nat.lt_succ_self _) (Engine.nextVersion_insert ..).symm)
  | committed _ _ commits =>
    exact Nat.le_of_eq ((Engine.keeps_base _ _).trans commits.keeps).nextVersion.symm
  | deleted id =>
    exact Nat.le_of_eq ((Engine.keeps_forget _ id).trans (Engine.keeps_bury _ id)).nextVersion.symm
  | missed id => exact Nat.le_of_eq (Engine.keeps_forget _ id).nextVersion.symm
  | answered => exact Nat.le_of_eq (Engine.keeps_settle ..).nextVersion.symm

/-- With still hooks moves leave the watch and the files alone. -/
theorem beside_step {hooks : Hooks κ} (still : hooks.Still) (busy : Busy (World κ)) (move : Move) :
    World.Beside busy.state (busy.step (World.steps hooks) move).state := by
  have spans := still.spans
  cases move with
  | start again script =>
    have beside := (World.Within.start spans again script).ends busy.state
    change World.Beside _ (busy.started again script
      (World.ended (World.start hooks again script) busy.state)).state
    revert beside
    cases World.ended (World.start hooks again script) busy.state with
    | mk outcome after => cases outcome <;> exact fun beside => beside
  | finish place =>
    rw [step]
    cases busy.builds[place]? with
    | none => exact ⟨rfl, rfl⟩
    | some build => exact (World.Within.finish spans build).ends busy.state
  | delete id => exact (World.Within.delete spans id).ends busy.state
  | look id entry arguments =>
    have beside := (World.Within.lookup spans.composes id entry arguments).ends busy.state
    change World.Beside _ (busy.looked id entry
      (World.ended (World.look id entry arguments) busy.state)).state
    revert beside
    cases World.ended (World.look id entry arguments) busy.state with
    | mk outcome after => cases outcome <;> exact fun beside => beside
  | answer place =>
    rw [step]
    cases busy.calls[place]? with
    | none => exact ⟨rfl, rfl⟩
    | some call => exact (World.Within.answer spans call).ends busy.state

/-- A load or a reload that is done at once keeps a sane state sane. -/
theorem Sane.perform {language : HostLanguage} {busy : Busy Engine} (sane : busy.Sane language)
    (again : Bool) (script : Script) :
    Sane language { busy with state := (busy.state.perform language again script).2 } := by
  -- It is two moves: the start, and the commit of the last build that waits.
  have run := sane.run [.start again script, .finish busy.builds.length]
  have others {left : Busy Engine} (sane : left.Sane language) (past : List Deed) :
      Sane language { left with past := past } := ⟨sane.own, sane.active, sane.builds, sane.calls⟩
  unfold Engine.perform
  rcases Engine.start_cases language again script busy.state with
    ⟨fault, fails⟩ | ⟨-, content, -, outcome, globals, shared, -, built⟩
  · rw [fails]
    exact sane
  · rw [built]
    cases outcome with
    | error accident => exact sane.insert script.id content globals shared busy.past
    | ok value =>
      let build : Build := ⟨again, script, busy.state.nextVersion⟩
      have first : busy.step (Engine.steps language) (.start again script) =
          { busy with
            state := busy.state.insert script.id content globals shared
            builds := busy.builds ++ [build]
            past := .built build :: busy.past } := by
        change busy.started again script (busy.state.start language again script) = _
        rw [built]
        rfl
      have last : (busy.builds ++ [build]).eraseIdx busy.builds.length = busy.builds := by
        rw [List.eraseIdx_append_of_length_le (Nat.le_refl _), Nat.sub_self]
        exact List.append_nil _
      change ((busy.step (Engine.steps language) (.start again script)).step
        (Engine.steps language) (.finish busy.builds.length)).Sane language at run
      rw [first, Busy.step] at run
      dsimp only at run
      rw [List.getElem?_concat_length] at run
      dsimp only [finished] at run
      rw [last] at run
      exact others run busy.past

namespace Calm

variable {language : HostLanguage} {hooks : Hooks κ} {busy : Busy (World κ)}

/-- A world is calm without the operations that are under way. -/
theorem alone (calm : busy.Calm language) :
    (⟨busy.state, [], [], []⟩ : Busy (World κ)).Calm language where
  sane := calm.sane.of_keeps (.refl _) .inl (by simp [engine]) (by simp [engine])
  steady := calm.steady

/-- A check leaves a calm world calm. -/
theorem checked (calm : busy.Calm language) {script : Script}
    {ending : Except Fault World.CheckResult × Engine × Watch}
    (checked : Checked language busy.state.files script busy.state.engine busy.state.watch ending)
    {world : World κ} (isEngine : world.engine = ending.2.1) (isWatch : world.watch = ending.2.2) :
    (busy.withState world).Calm language where
  sane := by
    change Busy.Sane language ⟨world.engine, busy.builds, busy.calls, busy.past⟩
    rw [isEngine]
    cases checked with
    | unwatched | lost | unchanged | unread => exact calm.sane
    | @read _ _ _ _ code _ _ _ _ _ _ _ performs =>
      have performed := calm.sane.perform true (script.withSource script.language code)
      change Busy.Sane language ⟨(busy.state.engine.perform language true _).2, _, _, _⟩ at performed
      rwa [performs] at performed
  steady := by
    change world.watch.Steady world.engine.nextVersion
    rw [isEngine, isWatch]
    exact checked.steady calm.alone.sane calm.steady

/-- A world stays calm if the engine stays as it is and the watch steady. -/
theorem of_steady (calm : busy.Calm language) {world : World κ}
    (isEngine : world.engine = busy.state.engine)
    (steady : world.watch.Steady busy.state.engine.nextVersion) :
    (busy.withState world).Calm language where
  sane := by
    change Busy.Sane language ⟨world.engine, busy.builds, busy.calls, busy.past⟩
    rw [isEngine]
    exact calm.sane
  steady := by
    change world.watch.Steady world.engine.nextVersion
    rwa [isEngine]

/-- A check of a script leaves a calm world calm. -/
theorem check (calm : busy.Calm hooks.language) (still : hooks.Still) (bound : Nat)
    (script : Script) :
    (busy.withState (World.ended (World.check hooks (bound + 1) script) busy.state).2).Calm
      hooks.language := by
  obtain ⟨ending, ⟨outbox, own, goes⟩, checked⟩ :=
    World.checked still calm.steady.inline (calm.steady.idle script.id) bound
  rw [goes]
  exact calm.checked checked rfl rfl

/-- A check of many scripts leaves a calm world calm, however it ends. -/
theorem checkScripts (calm : busy.Calm hooks.language) (still : hooks.Still) (bound : Nat)
    (scripts : List Script) :
    (busy.withState
      (World.ended (World.checkScripts hooks (bound + 1) scripts) busy.state).2).Calm
        hooks.language := by
  induction scripts generalizing busy with
  | nil => exact calm
  | cons script rest ih =>
    obtain ⟨⟨outcome, engine, watch⟩, goes, checked⟩ :=
      World.checked still calm.steady.inline (calm.steady.idle script.id) bound
    obtain ⟨outbox, own, one⟩ := World.Goes.checkOne goes
    have next : (busy.withState ⟨engine, busy.state.files, watch, outbox, own⟩).Calm
        hooks.language :=
      calm.checked checked rfl rfl
    rw [World.checkScripts_cons, World.ended_bind, one]
    cases World.CheckResult.ofOutcome script.id outcome with
    | error fault => exact next
    | ok result =>
      have last : (busy.withState (World.ended (World.checkScripts hooks (bound + 1) rest)
          ⟨engine, busy.state.files, watch, outbox, own⟩).2).Calm hooks.language := ih next
      dsimp only
      rw [World.ended_bind]
      revert last
      cases World.ended (World.checkScripts hooks (bound + 1) rest) _ with
      | mk outcome after => cases outcome <;> exact fun last => last

/-- A move leaves a calm world calm. -/
theorem step (calm : busy.Calm hooks.language) (still : hooks.Still) (move : Move) :
    (busy.step (World.steps hooks) move).Calm hooks.language := by
  have stepped := stepped calm.sane move
  have same := engine_step still.toQuiet calm.sane move
  refine ⟨same ▸ calm.sane.step stepped, ?_⟩
  have grows := nextVersion_le stepped
  rw [← same] at grows
  rw [(beside_step still busy move).watch]
  exact calm.steady.mono grows

/-- Every action leaves a calm world calm. -/
theorem act (calm : busy.Calm hooks.language) (still : hooks.Still) (bound : Nat) {action : Action}
    (valid : action.isValid = true) : (busy.act hooks (bound + 1) action).Calm hooks.language := by
  cases action with
  | move move => exact calm.step still move
  | files files => exact calm.of_steady rfl calm.steady
  | watch script =>
    obtain ⟨outbox, starts⟩ : World.Shows (World.startWatch script) busy.state _ :=
      World.Shows.startWatch script
    change (busy.withState (World.ended (World.startWatch script) busy.state).2).Calm hooks.language
    rw [starts]
    refine calm.of_steady rfl ?_
    unfold Watch.start
    cases script.path with
    | none => exact calm.steady
    | some path =>
      dsimp only
      cases busy.state.files.timeOf script.id path with
      | error fault => exact calm.steady
      | ok time => exact calm.steady.register valid path time
  | unwatch id =>
    obtain ⟨outbox, stops⟩ : World.Shows (World.stopWatch id) busy.state _ :=
      World.Shows.stopWatch id
    change (busy.withState (World.ended (World.stopWatch id) busy.state).2).Calm hooks.language
    rw [stops]
    exact calm.of_steady rfl (calm.steady.stop id)
  | check script => exact calm.check still bound script
  | checkAll => exact calm.checkScripts still bound _

/-- Actions leave a calm world calm. -/
theorem actAll (calm : busy.Calm hooks.language) (still : hooks.Still) (bound : Nat)
    {actions : List Action} (valid : ∀ action ∈ actions, action.isValid = true) :
    (busy.actAll hooks (bound + 1) actions).Calm hooks.language := by
  induction actions generalizing busy with
  | nil => exact calm
  | cons action rest ih =>
    obtain ⟨now, later⟩ := List.forall_mem_cons.1 valid
    exact ih (calm.act still bound now) later

end Calm

/-- A world without modules and without scripts that are watched is calm. -/
theorem calm_fresh (language : HostLanguage) {world : World κ} {limit : Nat}
    (fresh : world.engine = { limit := limit }) (unwatched : world.watch = {}) :
    (⟨world, [], [], []⟩ : Busy (World κ)).Calm language where
  sane := by
    change Busy.Sane language ⟨world.engine, [], [], []⟩
    rw [fresh]
    exact sane_fresh language limit
  steady := by
    change world.watch.Steady _
    rw [unwatched]
    exact Watch.steady_fresh _

end Busy

end Lag
