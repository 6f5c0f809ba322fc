import Lag.Proofs.Watch.Steady
import Lag.Proofs.World.Renumbered

/-!
# Checks of many scripts

A check of all scripts goes through the scripts one by one. Each of them gets the result that it would
get alone, and is left as it would be left alone, whatever becomes of the others; only the versions of
modules differ. The exception is a text with a numeral that cannot be converted, which is no fault of
a script: it ends the check, and the scripts that follow are not checked.
-/
namespace Lag

/-! ## Other numbers -/

section

variable (number : Nat → Nat)

/-- A result with another number. -/
def World.CheckResult.renumber (result : World.CheckResult) : World.CheckResult :=
  { result with
    version := result.version.map number
    fault := result.fault.map (Fault.renumber number) }

/-- A record with another number. -/
def WatchRecord.renumber (record : WatchRecord) : WatchRecord :=
  { record with lastFault := record.lastFault.map (Fault.renumber number) }

/-- What an engine holds of an identifier, with another number. -/
def Engine.Part.renumber (part : Engine.Part) : Engine.Part :=
  { part with active := part.active.map (Module.renumber number) }

/-- What is held of an identifier, with other numbers. -/
def View.renumber (view : View) : View :=
  ⟨view.script, view.record.map (WatchRecord.renumber number), view.part.renumber number⟩

end

/-- The numbers of versions when some of them are used up. -/
def shift (used count version : Nat) : Nat := if version < used then version else version + count

/-- Versions keep their order. -/
theorem strictMono_shift (used count : Nat) : StrictMono (shift used count) := by
  intro version other less
  unfold shift
  split <;> split <;> omega

section

variable {number : Nat → Nat}

/-- A fault that tells no version has no other number. -/
theorem Fault.renumber_of_early {fault : Fault} (other : fault.isLate = false) :
    fault.renumber number = fault := by
  cases fault with
  | initial => cases other
  | _ => rfl

/-- A fault is one of a script whatever its number. -/
@[simp] theorem Fault.isScriptFault_renumber (fault : Fault) :
    (fault.renumber number).isScriptFault = fault.isScriptFault := by
  cases fault <;> rfl

/-- A fault that tells at most a version that was given keeps its number if those versions do. -/
theorem Fault.IsBelow.renumber {next : Nat} {fault : Fault} (below : fault.IsBelow next)
    (kept : ∀ version, version < next → number version = version) :
    fault.renumber number = fault := by
  cases fault with
  | initial id version accident =>
    exact congrArg (Fault.initial id · accident) (kept version (below id version accident rfl))
  | _ => rfl

/-- A reload comes to the same whatever version its module gets. -/
theorem Verdict.outcome_renumber (ground : Ground) (isDeleted : Bool) (script : Script)
    (id : String) (version : Nat) :
    (ground.verdict isDeleted script).outcome id (number version) =
      Lag.renumber number (Option.map number)
        ((ground.verdict isDeleted script).outcome id version) := by
  unfold Ground.verdict Script.verdict
  split
  · rfl
  · split
    · rename_i accident globals shared ends
      exact congrArg Except.error (Fault.renumber_ofAccident number accident
        (.compile (.body script accident))).symm
    · unfold HostLanguage.verdict
      split
      · rfl
      · split
        · rename_i accident globals shared ends
          exact congrArg Except.error (Fault.renumber_ofAccident number accident
            (.initial id version accident)).symm
        · rfl

/-- A reload leaves the same whatever version its module gets. -/
theorem Verdict.part_renumber {script : Script} {part : Engine.Part}
    (same : part.renumber number = part) (version : Nat) (verdict : Verdict) :
    verdict.part script (number version) part =
      (verdict.part script version part).renumber number := by
  cases verdict with
  | renewed => rfl
  | _ => exact same.symm

/-- A result is the same whatever version is told. -/
theorem World.CheckResult.ofAnswer_renumber (id : String) (answer : Except Fault (Option Nat)) :
    CheckResult.ofAnswer id (Lag.renumber number (Option.map number) answer) =
      Lag.renumber number (CheckResult.renumber number) (CheckResult.ofAnswer id answer) := by
  match answer with
  | .error fault =>
    change (if (fault.renumber number).isScriptFault = true then _ else _) = _
    rw [Fault.isScriptFault_renumber]
    unfold ofAnswer
    dsimp only
    split <;> rfl
  | .ok none => rfl
  | .ok (some version) => rfl

/-- A record is the same whatever version is told. -/
theorem WatchRecord.answered_renumber {record : WatchRecord} (same : record.renumber number = record)
    (answer : Except Fault (Option Nat)) :
    record.answered (Lag.renumber number (Option.map number) answer) =
      (record.answered answer).renumber number := by
  match answer with
  | .error fault =>
    change (if (fault.renumber number).isScriptFault = true then _ else _) = _
    rw [Fault.isScriptFault_renumber]
    unfold answered
    dsimp only
    split
    · rfl
    · exact same.symm
  | .ok none => exact same.symm
  | .ok (some version) => rfl

/-- The script to check is the same whatever version is told. -/
@[simp] theorem Script.after_renumber (script next : Script) (answer : Except Fault (Option Nat)) :
    script.after next (Lag.renumber number (Option.map number) answer) =
      script.after next answer := by
  match answer with
  | .error fault => rfl
  | .ok none => rfl
  | .ok (some version) => rfl

/-- A reload comes to the same whatever version its module gets. -/
theorem View.reload_renumber (ground : Ground) (version : Nat) (script : Script)
    {record : WatchRecord} (sameRecord : record.renumber number = record) {part : Engine.Part}
    (samePart : part.renumber number = part) :
    reload ground (number version) script record part =
      (Lag.renumber number (World.CheckResult.renumber number)
          (reload ground version script record part).1,
        (reload ground version script record part).2.renumber number) := by
  unfold reload
  cases reading : ground.files.reading script.id record.path with
  | error fault =>
    have told : fault.renumber number = fault :=
      Fault.renumber_of_early (Files.isLate_of_reading reading)
    simp [Lag.renumber, World.CheckResult.renumber, View.renumber, WatchRecord.renumber,
      WatchRecord.failed, told, samePart]
  | ok change =>
    obtain ⟨time, code⟩ := change
    have seen : (record.seen time).renumber number = record.seen time :=
      congrArg (WatchRecord.seen time) sameRecord
    dsimp only
    rw [Verdict.outcome_renumber, World.CheckResult.ofAnswer_renumber, Script.after_renumber,
      WatchRecord.answered_renumber seen, Verdict.part_renumber samePart]
    rfl

/-- A check comes to the same whatever version a module gets. -/
theorem View.check_renumber (ground : Ground) (version : Nat) (script : Script) {view : View}
    (same : view.renumber number = view) :
    view.check ground (number version) script =
      (Lag.renumber number (World.CheckResult.renumber number)
          (view.check ground version script).1,
        (view.check ground version script).2.renumber number) := by
  obtain ⟨known, record, part⟩ := view
  obtain ⟨-, sameRecord, samePart⟩ := View.mk.inj same
  unfold check
  cases record with
  | none => exact Prod.ext rfl same.symm
  | some record =>
    dsimp only
    cases found : ground.files.timeOf script.id record.path with
    | error fault =>
      refine Prod.ext ?_ same.symm
      exact congrArg Except.error (Fault.renumber_of_early (Files.isLate_of_timeOf found)).symm
    | ok time =>
      dsimp only
      split
      · exact Prod.ext rfl same.symm
      · have observed : (record.observed time).renumber number = record.observed time :=
          congrArg (WatchRecord.observed time) (Option.some.inj sameRecord)
        exact reload_renumber ground version script observed samePart

/-- A result of one of many checks is the same whatever version is told. -/
theorem World.CheckResult.ofOutcome_renumber (id : String)
    (outcome : Except Fault World.CheckResult) :
    CheckResult.ofOutcome id (Lag.renumber number (CheckResult.renumber number) outcome) =
      Lag.renumber number (CheckResult.renumber number) (CheckResult.ofOutcome id outcome) := by
  cases outcome with
  | ok result => rfl
  | error fault => cases fault <;> rfl

/-- What a sane engine holds keeps its numbers if versions that were given do. -/
theorem Engine.IsSane.renumber_part {language : HostLanguage} {engine : Engine}
    (sane : engine.IsSane language)
    (kept : ∀ version, version < engine.nextVersion → number version = version) (id : String) :
    (engine.part id).renumber number = engine.part id := by
  have active : (engine.part id).active.map (Module.renumber number) = (engine.part id).active := by
    change ((engine.active? id).bind engine.module?).map _ = (engine.active? id).bind engine.module?
    cases found : engine.active? id with
    | none => rfl
    | some version =>
      rw [Option.bind_some]
      cases there : engine.module? version with
      | none => rfl
      | some module =>
        obtain ⟨positive, given⟩ := sane.lt found
        have own : module.plan.version = version :=
          sane.own positive (Engine.plan?_of_module? there)
        have same : number module.version = module.version := kept _ (own ▸ given)
        exact congrArg some (congrArg (fun version => { module with version := version }) same)
  exact congrArg (fun active => { engine.part id with active := active }) active

/-- What a calm world holds keeps its numbers if versions that were given do. -/
theorem Busy.Calm.renumber_view {κ : Type} {language : HostLanguage} {busy : Busy (World κ)}
    (calm : busy.Calm language)
    (kept : ∀ version, version < busy.state.engine.nextVersion → number version = version)
    (id : String) : (busy.state.view id).renumber number = busy.state.view id := by
  have record : (busy.state.watch.record? id).map (WatchRecord.renumber number) =
      busy.state.watch.record? id := by
    unfold Watch.record?
    cases busy.state.watch.watched.find? id with
    | none => rfl
    | some place =>
      rw [Option.bind_some]
      cases there : busy.state.watch.records[place]? with
      | none => rfl
      | some record =>
        have told : record.lastFault.map (Fault.renumber number) = record.lastFault := by
          cases failed : record.lastFault with
          | none => rfl
          | some fault => exact congrArg some ((calm.steady.below there failed).renumber kept)
        exact congrArg some (congrArg (fun fault => { record with lastFault := fault }) told)
  have part : (busy.state.engine.part id).renumber number = busy.state.engine.part id :=
    Engine.IsSane.renumber_part calm.alone.sane kept id
  exact congrArg₂ (fun record part => View.mk (busy.state.watch.scripts.find? id) record part)
    record part

end

/-! ## Texts that can be borne -/

/-- The run of a module ends without an accident that escapes, and leaves the shared things as they
were. -/
structure IsTidy (shared : Run.Store) (ending : Except Run.Accident Value × Run.Store × Run.Store) :
    Prop where
  /-- No accident escapes. -/
  contained : ∀ accident, ending.1 = .error accident → accident.escapes = false
  /-- The shared things are the same. -/
  shared : ending.2.2 = shared

/-- A reload of a script fails for a fault of the script only, and leaves the shared things as they
were. -/
def Ground.Bears (ground : Ground) (script : Script) : Prop :=
  match ground.language.compile script ground.limit with
  | .error fault => fault.isScriptFault = true
  | .ok content =>
    IsTidy ground.shared (ground.language.prepared content ground.shared) ∧
      ∀ value globals,
        ground.language.prepared content ground.shared = (.ok value, globals, ground.shared) →
        IsTidy ground.shared (ground.language.first ⟨content, globals, ground.shared⟩)

/-- The file of a script with a record is missing, or has not changed, or is no text, or is a text
that can be borne. -/
def Ground.Admits (ground : Ground) (script : Script) : Option WatchRecord → Prop
  | none => True
  | some record =>
    match ground.files.timeOf script.id record.path with
    | .error (.missingFile _ _) => True
    | .error _ => False
    | .ok time => time ≤ record.time ∨
      match ground.files.read record.path with
      | .error _ => True
      | .ok code => ground.Bears (script.withSource script.language code)

/-- An accident that does not escape is a fault of the script if its fault is. -/
theorem Fault.isScriptFault_ofAccident {accident : Run.Accident} (contained : accident.escapes = false)
    (fault : Fault) : (Fault.ofAccident accident fault).isScriptFault = fault.isScriptFault := by
  unfold ofAccident
  rw [contained]
  rfl

/-- A reload of a script that can be borne fails for a fault of the script only. -/
theorem Ground.Bears.inside {ground : Ground} {script : Script} (bears : ground.Bears script)
    (isDeleted : Bool) (version : Nat) :
    isOutside ((ground.verdict isDeleted script).outcome script.id version) = false := by
  unfold Bears at bears
  unfold Ground.verdict Script.verdict
  split
  · rename_i fault fails
    rw [fails] at bears
    exact congrArg not bears
  · rename_i content compiles
    rw [compiles] at bears
    obtain ⟨⟨contained, same⟩, firsts⟩ := bears
    split
    · rename_i accident globals shared ends
      rw [ends] at contained
      exact congrArg not (Fault.isScriptFault_ofAccident (contained accident rfl) _)
    · rename_i value globals shared ends
      rw [ends] at same
      obtain rfl : shared = ground.shared := same
      obtain ⟨contained, -⟩ := firsts value globals ends
      unfold HostLanguage.verdict
      split
      · rfl
      · split
        · rename_i accident others left fails
          rw [fails] at contained
          exact congrArg not (Fault.isScriptFault_ofAccident (contained accident rfl) _)
        · rfl

/-- A reload of a script that can be borne leaves the shared things as they were. -/
theorem Ground.Bears.shared {ground : Ground} {script : Script} (bears : ground.Bears script)
    (isDeleted : Bool) {engine : Engine} (same : engine.shared = ground.shared) :
    ((ground.verdict isDeleted script).leave script engine).shared = ground.shared := by
  unfold Bears at bears
  unfold Ground.verdict Script.verdict
  split
  · exact same
  · rename_i content compiles
    rw [compiles] at bears
    obtain ⟨⟨-, kept⟩, firsts⟩ := bears
    split
    · rename_i accident globals shared ends
      rw [ends] at kept
      exact kept
    · rename_i value globals shared ends
      rw [ends] at kept
      obtain rfl : shared = ground.shared := kept
      obtain ⟨-, left⟩ := firsts value globals ends
      unfold HostLanguage.verdict
      split
      · rfl
      · split
        · rename_i accident others things fails
          rw [fails] at left
          exact left
        · rename_i given others things fails
          rw [fails] at left
          exact (Engine.shared_publish _ script.id engine.nextVersion).trans left

/-- The check of a script that is admitted has a result. -/
theorem Ground.Admits.exists_result {ground : Ground} {script : Script} {view : View}
    (admits : ground.Admits script view.record) (version : Nat) :
    ∃ result, World.CheckResult.ofOutcome script.id (view.check ground version script).1 =
      .ok result ∧ result.id = script.id := by
  unfold Admits at admits
  unfold View.check
  cases recorded : view.record with
  | none => exact ⟨_, rfl, rfl⟩
  | some record =>
    rw [recorded] at admits
    dsimp only at admits ⊢
    cases found : ground.files.timeOf script.id record.path with
    | error fault =>
      rw [found] at admits
      cases fault with
      | missingFile => exact ⟨_, rfl, rfl⟩
      | _ => cases admits
    | ok time =>
      rw [found] at admits
      dsimp only at admits ⊢
      split
      · exact ⟨_, rfl, rfl⟩
      · rename_i later
        have text := admits.resolve_left later
        unfold View.reload
        rw [WatchRecord.path_observed]
        cases reading : ground.files.reading script.id record.path with
        | error fault => exact ⟨_, rfl, rfl⟩
        | ok change =>
          obtain ⟨last, code⟩ := change
          rw [Files.read_of_reading reading] at text
          have inside := text.inside view.part.isDeleted version
          rcases World.CheckResult.ofAnswer_cases script.id _ with
            ⟨outside, -⟩ | ⟨-, result, is, own⟩
          · exact absurd (outside.symm.trans inside) nofun
          · exact ⟨result, congrArg (World.CheckResult.ofOutcome script.id) is, own⟩

/-- The check of a script that is admitted leaves the shared things as they were. -/
theorem Checked.shared_eq {language : HostLanguage} {files : Files} {script : Script}
    {engine : Engine} {watch : Watch} {ending : Except Fault World.CheckResult × Engine × Watch}
    (checked : Checked language files script engine watch ending) (sane : engine.IsSane language)
    (valid : script.isValid = true)
    (admits : Ground.Admits ⟨language, files, engine.limit, engine.shared⟩ script
      (watch.record? script.id)) :
    ending.2.1.shared = engine.shared := by
  cases checked with
  | unwatched | lost | unchanged | unread => rfl
  | @read place record time last code inForce recorded found later reading answer left performs =>
    have known : (script.withSource script.language code).isValid = true := valid
    obtain ⟨rfl, rfl⟩ := Engine.of_performs sane known performs
    have there : watch.record? script.id = some record := by
      rw [Watch.record?, inForce, Option.bind_some, recorded]
    rw [there] at admits
    unfold Ground.Admits at admits
    dsimp only at admits
    rw [found] at admits
    have text := admits.resolve_left later
    rw [Files.read_of_reading reading] at text
    exact text.shared _ rfl

/-! ### Scripts in Lag -/

/-- A module of a Lag program is tidy, unless something that it uses was replaced. -/
theorem IsTidy.lag {language : HostLanguage} {shared : Run.Store}
    (whole : language.isReplaced shared = false) (linked : Linked) (request : Run.Request)
    (globals : Run.Store) : IsTidy shared (language.alone (.lag linked) request globals shared) := by
  let kept (first second : Run.Store × List Run.Store) : Prop := first = second ∧ first.1 = shared
  have writes : Run.Writes kept (Run.watching language.isReplaced silent)
      (Run.watching language.isReplaced silent) := by
    rintro line globals ⟨world, past⟩ _ ⟨rfl, same⟩
    unfold Run.watching
    dsimp only
    split
    · exact ⟨rfl, rfl, same⟩
    · exact ⟨rfl, rfl, same⟩
  obtain ⟨-, -, -, same⟩ := (Run.agree_serve linked.program request writes).runOn globals
    (show kept (shared, []) (shared, []) from ⟨rfl, rfl⟩)
  unfold HostLanguage.alone HostLanguage.serve Run.guarded
  dsimp only
  revert same
  generalize (Run.serve linked.program request (Run.watching language.isReplaced silent)).runOn
    globals (shared, []) = ending
  obtain ⟨outcome, others, world, past⟩ := ending
  intro same
  obtain rfl : world = shared := same
  have replaced : language.isReplaced (silent.shared world) = false := whole
  dsimp only
  rw [replaced]
  refine ⟨fun accident stops => ?_, rfl⟩
  cases outcome with
  | error trouble =>
    cases stops
    rfl
  | ok value => cases stops

/-- Whether a script in Lag compiles or fails for a fault of its own. -/
def Script.isConvertible (limit : Nat) (script : Script) : Bool :=
  match World.compiled script limit with
  | .error fault => fault.isScriptFault
  | .ok _ => true

/-- Whether the file of a script in Lag is missing, or has not changed, or is no text, or is a text
that compiles or fails for a fault of its own. -/
def World.isConvertible {κ : Type} (world : World κ) (script : Script) : Bool :=
  match world.watch.record? script.id with
  | none => true
  | some record =>
    match world.files.timeOf script.id record.path with
    | .error (.missingFile _ _) => true
    | .error _ => false
    | .ok time => decide (time ≤ record.time) ||
      match world.files.read record.path with
      | .error _ => true
      | .ok code => (script.withSource script.language code).isConvertible world.engine.limit

/-- A script in Lag is borne if it compiles or fails for a fault of its own. -/
theorem Ground.bears_lag {ground : Ground} {script : Script} (isLag : script.language = .lag)
    (whole : ground.language.isReplaced ground.shared = false)
    (convertible : script.isConvertible ground.limit = true) : ground.Bears script := by
  unfold Bears
  rw [World.compile_lag ground.language isLag]
  unfold Script.isConvertible at convertible
  cases text : World.compiled script ground.limit with
  | error fault =>
    rw [text] at convertible
    exact convertible
  | ok linked =>
    have prepared : IsTidy ground.shared
        (ground.language.prepared (.lag linked) ground.shared) := ⟨nofun, rfl⟩
    exact ⟨prepared, fun value globals _ => .lag whole linked .initial globals⟩

/-- A script in Lag is admitted if its file holds nothing that cannot be borne. -/
theorem World.admits_lag {κ : Type} {language : HostLanguage} {world : World κ} {script : Script}
    (isLag : script.language = .lag) (whole : language.isReplaced world.engine.shared = false)
    (convertible : world.isConvertible script = true) :
    (world.ground language).Admits script (world.watch.record? script.id) := by
  unfold World.isConvertible at convertible
  unfold Ground.Admits
  cases recorded : world.watch.record? script.id with
  | none => trivial
  | some record =>
    rw [recorded] at convertible
    dsimp only [World.ground] at convertible ⊢
    cases found : world.files.timeOf script.id record.path with
    | error fault =>
      rw [found] at convertible
      cases fault with
      | missingFile => trivial
      | _ => cases convertible
    | ok time =>
      rw [found] at convertible
      dsimp only at convertible ⊢
      refine (Bool.or_eq_true_iff.1 convertible).imp of_decide_eq_true fun text => ?_
      cases reading : world.files.read record.path with
      | error fault => trivial
      | ok code =>
        rw [reading] at text
        exact Ground.bears_lag isLag whole text

/-! ## Checks one by one -/

namespace World

variable {κ : Type} {hooks : Hooks κ}

/-- A check of many scripts comes for one of them to what its check alone comes to, apart from the
numbers of versions that were not yet given. -/
def Isolates (hooks : Hooks κ) (bound : Nat) (before after : World κ) (script : Script)
    (result : CheckResult) : Prop :=
  ∃ number : Nat → Nat, StrictMono number ∧
    (∀ version, version < before.engine.nextVersion → number version = version) ∧
    ∃ alone, CheckResult.ofOutcome script.id (ended (check hooks bound script) before).1 =
        .ok alone ∧
      result = alone.renumber number ∧
      after.view script.id =
        ((ended (check hooks bound script) before).2.view script.id).renumber number

/-- A world in which some of many checks were made. -/
structure Follows (language : HostLanguage) (start now : World κ) : Prop where
  /-- Nothing is under way. -/
  calm : (⟨now, [], [], []⟩ : Busy (World κ)).Calm language
  /-- What checks find alike is the same. -/
  ground : now.ground language = start.ground language
  /-- Versions that were given stay given. -/
  next : start.engine.nextVersion ≤ now.engine.nextVersion

/-- Before the checks nothing has changed. -/
theorem Follows.refl {language : HostLanguage} {start : World κ}
    (calm : (⟨start, [], [], []⟩ : Busy (World κ)).Calm language) : start.Follows language start :=
  ⟨calm, rfl, Nat.le_refl _⟩

/-- A check alone comes to what the world holds of its script. -/
theorem check_view (still : hooks.Still) {world : World κ}
    (calm : (⟨world, [], [], []⟩ : Busy (World κ)).Calm hooks.language) {script : Script}
    (valid : script.isValid = true) (bound : Nat) :
    ((ended (check hooks (bound + 1) script) world).1,
        (ended (check hooks (bound + 1) script) world).2.view script.id) =
      (world.view script.id).check (world.ground hooks.language) world.engine.nextVersion
        script := by
  obtain ⟨ending, ⟨outbox, own, goes⟩, checked⟩ :=
    World.checked still calm.steady.inline (calm.steady.idle script.id) bound
  rw [goes]
  exact checked.view calm.sane valid

/-- One of many checks leaves the others to do, and comes to what its check alone comes to. -/
theorem Follows.checkOne (still : hooks.Still) {start now : World κ}
    (follows : start.Follows hooks.language now)
    (calm : (⟨start, [], [], []⟩ : Busy (World κ)).Calm hooks.language) {script : Script}
    (valid : script.isValid = true)
    (admits : (start.ground hooks.language).Admits script (start.watch.record? script.id))
    (same : now.view script.id = start.view script.id) (bound : Nat) :
    ∃ result after, ended (World.checkOne hooks (bound + 1) script) now = (.ok result, after) ∧
      start.Follows hooks.language after ∧ result.id = script.id ∧
      (∀ other, other ≠ script.id → after.view other = now.view other) ∧
      start.Isolates hooks (bound + 1) after script result := by
  obtain ⟨⟨outcome, engine, watch⟩, goes, checked⟩ :=
    World.checked still follows.calm.steady.inline (follows.calm.steady.idle script.id) bound
  obtain ⟨outbox, own, one⟩ := Goes.checkOne goes
  -- The numbers of versions are moved on to those that are given now.
  let number := shift start.engine.nextVersion (now.engine.nextVersion - start.engine.nextVersion)
  have moved : number start.engine.nextVersion = now.engine.nextVersion := by
    change shift _ _ _ = _
    rw [shift, if_neg (Nat.lt_irrefl _), Nat.add_sub_cancel' follows.next]
  have kept (version : Nat) (given : version < start.engine.nextVersion) :
      number version = version :=
    if_pos given
  have comes : (outcome, watch.view engine script.id) = (start.view script.id).check
      (start.ground hooks.language) (number start.engine.nextVersion) script := by
    rw [moved, ← same, ← follows.ground]
    exact checked.view follows.calm.sane valid
  have own : (start.ground hooks.language).Admits script (start.view script.id).record := admits
  have results := own.exists_result start.engine.nextVersion
  rw [View.check_renumber _ _ _ (Busy.Calm.renumber_view calm kept script.id),
    ← check_view still calm valid bound] at comes
  obtain ⟨outcomes, views⟩ := Prod.mk.inj comes
  rw [← check_view still calm valid bound] at results
  obtain ⟨alone, results, named⟩ := results
  have ends : CheckResult.ofOutcome script.id outcome = .ok (alone.renumber number) := by
    rw [outcomes, CheckResult.ofOutcome_renumber, results]
    rfl
  rw [ends] at one
  refine ⟨alone.renumber number, _, one, ?_, named, fun other different => ?_,
    number, strictMono_shift _ _, kept, alone, results, rfl, views⟩
  · have record : now.watch.record? script.id = start.watch.record? script.id :=
      congrArg View.record same
    have allowed : (now.ground hooks.language).Admits script (now.watch.record? script.id) := by
      rw [record, follows.ground]
      exact admits
    have limit : engine.limit = now.engine.limit :=
      checked.limit_eq follows.calm.sane follows.calm.steady
    have shared : engine.shared = now.engine.shared :=
      checked.shared_eq follows.calm.sane valid allowed
    refine ⟨follows.calm.checked checked rfl rfl, Eq.trans ?_ follows.ground,
      follows.next.trans (checked.nextVersion_le follows.calm.sane follows.calm.steady)⟩
    exact congrArg₂ (Ground.mk hooks.language now.files) limit shared
  · exact checked.view_ne follows.calm.sane valid different (follows.calm.steady.apart different)

/-- Many checks come for each script to what its check alone comes to. -/
theorem Follows.checkScripts (still : hooks.Still) {start : World κ}
    (calm : (⟨start, [], [], []⟩ : Busy (World κ)).Calm hooks.language) (bound : Nat)
    {scripts : List Script} (distinct : (scripts.map (·.id)).Nodup) {now : World κ}
    (follows : start.Follows hooks.language now)
    (each : ∀ script ∈ scripts, script.isValid = true ∧
      (start.ground hooks.language).Admits script (start.watch.record? script.id) ∧
      now.view script.id = start.view script.id) :
    ∃ results after,
      ended (World.checkScripts hooks (bound + 1) scripts) now = (.ok results, after) ∧
      (∀ id, id ∉ scripts.map (·.id) → after.view id = now.view id) ∧
      results.map (·.id) = scripts.map (·.id) ∧
      List.Forall₂ (start.Isolates hooks (bound + 1) after) scripts results := by
  induction scripts generalizing now with
  | nil => exact ⟨[], now, rfl, fun _ _ => rfl, rfl, .nil⟩
  | cons script rest ih =>
    obtain ⟨fresh, once⟩ := List.nodup_cons.1 distinct
    obtain ⟨⟨valid, admits, same⟩, others⟩ := List.forall_mem_cons.1 each
    obtain ⟨result, middle, one, goes, own, kept, isolates⟩ :=
      follows.checkOne still calm valid admits same bound
    have apart {other : Script} (inside : other ∈ rest) : other.id ≠ script.id := fun is =>
      fresh (List.mem_map.2 ⟨other, inside, is⟩)
    obtain ⟨results, after, ends, left, ids, all⟩ := ih once goes fun other inside => by
      obtain ⟨valid, admits, same⟩ := others other inside
      exact ⟨valid, admits, (kept _ (apart inside)).trans same⟩
    refine ⟨result :: results, after, ?_, fun id outside => ?_, ?_, .cons ?_ all⟩
    · rw [checkScripts_cons, ended_bind, one]
      dsimp only
      rw [ended_bind, ends]
      rfl
    · rw [List.map_cons, List.mem_cons, not_or] at outside
      exact (left id outside.2).trans (kept id outside.1)
    · rw [List.map_cons, List.map_cons, own, ids]
    · obtain ⟨number, mono, given, alone, outcome, is, view⟩ := isolates
      exact ⟨number, mono, given, alone, outcome, is, (left script.id fresh).trans view⟩

end World

/-- After all actions that nobody disturbs on a world in which nothing was watched, the check of all
scripts has one result for every script that is watched, in the order in which they were watched, if
every file that has changed holds a text that can be borne: one that fails for faults of the script
only, and leaves what scripts of the host language share as it was. Each result, and what is left of
its script, are those of the check of the script alone, apart from the numbers of versions. -/
theorem checks_isolated {κ : Type} {hooks : Hooks κ} (still : hooks.Still) {world : World κ}
    {limit : Nat} (fresh : world.engine = { limit := limit }) (unwatched : world.watch = {})
    (bound : Nat) {actions : List Action} (valid : ∀ action ∈ actions, action.isValid = true)
    {state : World κ}
    (reached : state =
      ((⟨world, [], [], []⟩ : Busy (World κ)).actAll hooks (bound + 1) actions).state)
    (admits : ∀ script ∈ state.watch.scripts.values,
      (state.ground hooks.language).Admits script (state.watch.record? script.id)) :
    ∃ results after, World.ended (World.checkAll hooks (bound + 1)) state = (.ok results, after) ∧
      results.map (·.id) = state.watch.watched.names ∧ state.watch.watched.names.Nodup ∧
      List.Forall₂ (state.Isolates hooks (bound + 1) after) state.watch.scripts.values results := by
  have calm : (⟨state, [], [], []⟩ : Busy (World κ)).Calm hooks.language := by
    rw [reached]
    exact ((Busy.calm_fresh hooks.language fresh unwatched).actAll still bound valid).alone
  have steady := calm.steady
  have once : state.watch.scripts.names.Nodup := steady.names ▸ steady.once
  have known {script : Script} (inside : script ∈ state.watch.scripts.values) :
      script.isValid = true := by
    obtain ⟨⟨name, _⟩, entry, rfl⟩ := List.mem_map.1 inside
    exact (steady.script (Table.find?_of_mem once entry)).2
  have ids : state.watch.scripts.values.map (·.id) = state.watch.watched.names := by
    rw [← steady.names]
    unfold Table.values Table.names
    rw [List.map_map]
    refine List.map_congr_left fun entry inside => ?_
    exact (steady.script (Table.find?_of_mem once inside)).1
  obtain ⟨results, after, ends, -, named, all⟩ := World.Follows.checkScripts still calm bound
    (ids ▸ steady.once) (.refl calm) fun script inside =>
      ⟨known inside, admits script inside, rfl⟩
  exact ⟨results, after, ends, named.trans ids, steady.once, all⟩

/-- A script with a file of its name. -/
def namedScript (id : String) : Script :=
  ⟨id, .lag, "", some ⟨0, [id ++ ".lag"]⟩⟩

/-- The files of two scripts, which were written at a time. -/
def pairWritten (first second : String) (time : Int) : Files :=
  { nodes := [(["a.lag"], .file first.toUTF8 time), (["b.lag"], .file second.toUTF8 time)] }

/-- Two scripts are watched, and then their files are written again. -/
def pairChanging (first second : String) : List Action :=
  [.files (pairWritten "" "" 1), .watch (namedScript "a"), .watch (namedScript "b"),
    .files (pairWritten first second 2)]

/-- A world in which the files of two scripts have changed. -/
def pairChanged (first second : String) : World Unit :=
  ((⟨World.initial (), [], [], []⟩ : Busy (World Unit)).actAll Hooks.none 1
    (pairChanging first second)).state

/-- The statuses of the results of a check of all scripts, if it has results. -/
def World.statuses (world : World Unit) : Option (List World.CheckStatus) :=
  match (ended (checkAll Hooks.none 1) world).1 with
  | .ok results => some (results.map (·.status))
  | .error _ => none

/-- The status of the result of the check of a script alone, if it has a result. -/
def World.status (world : World Unit) (script : Script) : Option World.CheckStatus :=
  match (ended (check Hooks.none 1 script) world).1 with
  | .ok result => some result.status
  | .error _ => none

/-- The first file has changed to a text that is no program. The second script is reloaded all the
same. -/
theorem checks_isolated_broken :
    let actions := pairChanging "let x = ;" "let x = 2;"
    let state := pairChanged "let x = ;" "let x = 2;"
    (∀ action ∈ actions, action.isValid = true) ∧
      (∀ script ∈ state.watch.scripts.values,
        (state.ground .none).Admits script (state.watch.record? script.id)) ∧
      (∃ results after, World.ended (World.checkAll Hooks.none 1) state = (.ok results, after) ∧
        results.map (·.id) = state.watch.watched.names ∧ state.watch.watched.names.Nodup ∧
        List.Forall₂ (state.Isolates Hooks.none 1 after) state.watch.scripts.values results) ∧
      state.statuses = some [.failed, .reloaded] := by
  have valid : ∀ action ∈ pairChanging "let x = ;" "let x = 2;",
      action.isValid = true := by decide
  have convertible : ∀ script ∈ (pairChanged "let x = ;"
      "let x = 2;").watch.scripts.values,
      script.language = .lag ∧
        (pairChanged "let x = ;" "let x = 2;").isConvertible script = true := by
    decide +kernel
  have fresh : (World.initial ()).engine = { limit := 20 } := rfl
  have admits : ∀ script ∈ (pairChanged "let x = ;" "let x = 2;").watch.scripts.values,
      ((pairChanged "let x = ;" "let x = 2;").ground .none).Admits script
        ((pairChanged "let x = ;" "let x = 2;").watch.record? script.id) :=
    fun script inside => World.admits_lag (convertible script inside).1 rfl
      (convertible script inside).2
  exact ⟨valid, admits, checks_isolated (Hooks.still_none .none) fresh rfl 0 valid rfl admits,
    by decide +kernel⟩

/-- The first file has changed to a text with a numeral that cannot be converted. The check of all
scripts has no results, and the change of the second file is not seen, although its check alone would
reload the script. -/
theorem checks_ended_superscript :
    let state := pairChanged "let x = ²;" "let x = 2;"
    (¬ ∃ results after,
      World.ended (World.checkAll Hooks.none 1) state = (.ok results, after)) ∧
      state.watch.watched.names = ["a", "b"] ∧
      state.status (namedScript "b") = some .reloaded ∧
      ((World.ended (World.checkAll Hooks.none 1) state).2.watch.record? "b").map (·.time) =
        some 1 := by
  have ends : (pairChanged "let x = ²;" "let x = 2;").statuses = none := by
    decide +kernel
  refine ⟨fun ⟨results, after, is⟩ => ?_, by decide +kernel⟩
  rw [World.statuses, is] at ends
  cases ends

end Lag
