import Lag.Proofs.World.Current

/-!
# What a reload comes to

A reload of a script with an identifier is decided by its text, by the limit of failures and by
whether the script was deleted; the version that its module gets takes no part in it. What the
reload leaves behind concerns its own identifier only.
-/
namespace Lag

/-- What a reload comes to, whatever version its module gets. -/
inductive Verdict where
  /-- No module is built. -/
  | refused (fault : Fault)
  /-- The text of the module meets an accident. -/
  | spoilt (fault : Fault) (draft : Draft)
  /-- The module is discarded, for the script was deleted. -/
  | discarded (draft : Draft)
  /-- The variables of the module cannot get their first values. -/
  | unready (accident : Run.Accident) (draft : Draft)
  /-- The module becomes active. -/
  | renewed (draft : Draft)

/-- What a reload comes to whose module was built. -/
def HostLanguage.verdict (language : HostLanguage) (isDeleted : Bool) (draft : Draft) : Verdict :=
  if isDeleted then .discarded draft
  else
    match language.first draft with
    | (.error accident, globals, shared) => .unready accident ⟨draft.content, globals, shared⟩
    | (.ok _, globals, shared) => .renewed ⟨draft.content, globals, shared⟩

/-- What the reload of a script comes to; at most a number of failures are reported. -/
def Script.verdict (language : HostLanguage) (limit : Nat) (isDeleted : Bool) (shared : Run.Store)
    (script : Script) : Verdict :=
  match language.compile script limit with
  | .error fault => .refused (.compile fault)
  | .ok content =>
    match language.prepared content shared with
    | (.error accident, globals, shared) =>
      .spoilt (.ofAccident accident (.compile (.body script accident))) ⟨content, globals, shared⟩
    | (.ok _, globals, shared) => language.verdict isDeleted ⟨content, globals, shared⟩

namespace Verdict

/-- The outcome of a reload whose module gets a version. -/
def outcome (id : String) (version : Nat) : Verdict → Except Fault (Option Nat)
  | .refused fault | .spoilt fault _ => .error fault
  | .discarded _ => .ok none
  | .unready accident _ => .error (.ofAccident accident (.initial id version accident))
  | .renewed _ => .ok (some version)

/-- The engine with a new module for a script. -/
def added (script : Script) (engine : Engine) (draft : Draft) : Engine :=
  engine.insert script.id draft.content draft.globals draft.shared

/-- The engine after a reload. -/
def leave (script : Script) (engine : Engine) : Verdict → Engine
  | .refused _ => engine
  | .spoilt _ draft | .discarded draft | .unready _ draft => added script engine draft
  | .renewed draft => ((added script engine draft).publish script.id engine.nextVersion).store script

end Verdict

namespace Engine

variable {language : HostLanguage} {engine : Engine} {script : Script}

/-- An engine that is as operations leave it. -/
def IsSane (language : HostLanguage) (engine : Engine) : Prop :=
  (⟨engine, [], [], []⟩ : Busy Engine).Sane language

/-- An active module has a version that was given. -/
theorem IsSane.lt (sane : engine.IsSane language) {id : String} {version : Nat}
    (active : engine.active? id = some version) : 0 < version ∧ version < engine.nextVersion := by
  obtain ⟨positive, plan, planned, -⟩ := sane.active active
  exact ⟨positive, lt_of_plan? planned⟩

/-- Identifiers have different active modules. -/
theorem IsSane.version_ne (sane : engine.IsSane language) {id other : String}
    {version found : Nat} (active : engine.active? id = some version)
    (others : engine.active? other = some found) (different : other ≠ id) : found ≠ version := by
  rintro rfl
  obtain ⟨-, plan, planned, own⟩ := sane.active active
  obtain ⟨-, same, there, owner⟩ := sane.active others
  cases planned.symm.trans there
  exact different (owner.symm.trans own)

/-- A module that was just built is finished as its verdict says. -/
theorem finish_added (sane : engine.IsSane language) (valid : script.isValid = true)
    (draft : Draft) :
    (Verdict.added script engine draft).finish language ⟨true, script, engine.nextVersion⟩ =
      ((language.verdict (engine.deleted.contains script.id) draft).outcome script.id
          engine.nextVersion,
        (language.verdict (engine.deleted.contains script.id) draft).leave script engine) := by
  let added := Verdict.added script engine draft
  have found : added.module? engine.nextVersion =
      some ⟨script.id, engine.nextVersion, draft.content, draft.globals, false⟩ :=
    module?_insert_next ..
  have fresh : added.isStale script.id engine.nextVersion = false := by
    unfold isStale
    change (engine.active? script.id).any _ = false
    cases active : engine.active? script.id with
    | none => rfl
    | some version => simpa using (sane.lt active).2
  have globals : added.globalsOf engine.nextVersion = draft.globals := by
    rw [globalsOf, found]
    rfl
  have firsts : language.alone draft.content .initial draft.globals added.shared =
      language.first draft := rfl
  rw [finish_eq]
  unfold HostLanguage.verdict
  change (if engine.deleted.contains script.id = true then _ else _) = _
  split
  · rfl
  · change told engine.nextVersion (added.commit language script _) = _
    unfold commit
    rw [activate_of_fresh language found fresh, globals]
    dsimp only
    rw [firsts]
    obtain ⟨outcome, others, things⟩ := language.first draft
    have set : added.settle engine.nextVersion others things =
        Verdict.added script engine ⟨draft.content, others, things⟩ := settle_insert ..
    cases outcome with
    | error accident =>
      dsimp only
      rw [set]
      rfl
    | ok _ =>
      unfold swap
      dsimp only
      rw [set, if_pos valid]
      rfl

/-- A reload of a script with an identifier ends as its verdict says. -/
theorem perform_eq (sane : engine.IsSane language) (valid : script.isValid = true) :
    engine.perform language true script =
      let verdict := script.verdict language engine.limit (engine.deleted.contains script.id)
        engine.shared
      (verdict.outcome script.id engine.nextVersion, verdict.leave script engine) := by
  have starts : engine.start language true script = engine.build language script := rfl
  unfold perform
  rw [starts]
  unfold build Script.verdict
  cases language.compile script engine.limit with
  | error fault => rfl
  | ok content =>
    dsimp only
    obtain ⟨outcome, globals, shared⟩ := language.prepared content engine.shared
    cases outcome with
    | error accident => rfl
    | ok value => exact finish_added sane valid ⟨content, globals, shared⟩

/-- What is known of a reload of a script with an identifier. -/
theorem of_performs (sane : engine.IsSane language) (valid : script.isValid = true)
    {answer : Except Fault (Option Nat)} {left : Engine}
    (performs : engine.perform language true script = (answer, left)) :
    let verdict := script.verdict language engine.limit (engine.deleted.contains script.id)
      engine.shared
    answer = verdict.outcome script.id engine.nextVersion ∧ left = verdict.leave script engine :=
  Prod.mk.inj (performs.symm.trans (perform_eq sane valid))

end Engine

/-! ## What a reload leaves -/

/-- What an engine holds of an identifier. -/
structure Engine.Part where
  /-- The stored script. -/
  stored : Option Script
  /-- The active module. -/
  active : Option Module
  /-- Whether the identifier was deleted. -/
  isDeleted : Bool

/-- What an engine holds of an identifier. -/
def Engine.part (engine : Engine) (id : String) : Engine.Part where
  stored := engine.stored.find? id
  active := (engine.active? id).bind engine.module?
  isDeleted := engine.deleted.contains id

/-- What an engine holds of the identifier of a script after its reload. -/
def Verdict.part (script : Script) (version : Nat) (part : Engine.Part) : Verdict → Engine.Part
  | .renewed draft =>
    { part with
      stored := some script
      active := some ⟨script.id, version, draft.content, draft.globals, true⟩ }
  | _ => part

namespace Engine

variable {engine : Engine} {id : String} {version : Nat}

/-- A module that becomes active changes no other module than the one that was active before. -/
theorem module?_publish_ne {other : Nat} (positive : 0 < version) (given : 0 < other)
    (apart : other ≠ version) (before : ∀ {old}, engine.active? id = some old → 0 < old)
    (inactive : engine.active? id ≠ some other) :
    (engine.publish id version).module? other = engine.module? other := by
  rw [module?_publish positive given, if_neg apart, module?_unmark before given, if_neg inactive]

/-- The module that becomes active. -/
theorem module?_publish_self {module : Module} (positive : 0 < version)
    (found : engine.module? version = some module)
    (before : ∀ {old}, engine.active? id = some old → 0 < old)
    (inactive : engine.active? id ≠ some version) :
    (engine.publish id version).module? version = some { module with isLoaded := true } := by
  rw [module?_publish positive positive, if_pos rfl, module?_unmark before positive,
    if_neg inactive, found]
  rfl

end Engine

namespace Verdict

variable {language : HostLanguage} {engine : Engine} {script : Script}

/-- The limit is the same. -/
@[simp] theorem limit_leave (verdict : Verdict) :
    (verdict.leave script engine).limit = engine.limit := by
  cases verdict with
  | refused | spoilt | discarded | unready => rfl
  | renewed => exact (Engine.keeps_publish _ script.id engine.nextVersion).limit

/-- The same identifiers are deleted. -/
@[simp] theorem deleted_leave (verdict : Verdict) :
    (verdict.leave script engine).deleted = engine.deleted := by
  cases verdict with
  | refused | spoilt | discarded | unready => rfl
  | renewed => exact Engine.deleted_publish _ script.id engine.nextVersion

/-- Versions that were given stay given. -/
theorem nextVersion_leave (verdict : Verdict) :
    engine.nextVersion ≤ (verdict.leave script engine).nextVersion := by
  have adds (draft : Draft) : engine.nextVersion ≤ (added script engine draft).nextVersion :=
    Nat.le_of_lt (Nat.lt_of_lt_of_eq (Nat.lt_succ_self _) (Engine.nextVersion_insert ..).symm)
  cases verdict with
  | refused => exact Nat.le_refl _
  | spoilt _ draft | discarded draft | unready _ draft => exact adds draft
  | renewed draft =>
    exact Nat.le_trans (adds draft)
      (Nat.le_of_eq (Engine.keeps_publish _ script.id engine.nextVersion).nextVersion.symm)

/-- The active modules of other identifiers stay as they are. -/
theorem module?_leave (sane : engine.IsSane language) (verdict : Verdict) {other : String}
    {found : Nat} (active : engine.active? other = some found) (different : other ≠ script.id) :
    (verdict.leave script engine).module? found = engine.module? found := by
  obtain ⟨given, older⟩ := sane.lt active
  have apart : found ≠ engine.nextVersion := Nat.ne_of_lt older
  have adds (draft : Draft) : (added script engine draft).module? found = engine.module? found :=
    Engine.module?_insert older given
  cases verdict with
  | refused => rfl
  | spoilt _ draft | discarded draft | unready _ draft => exact adds draft
  | renewed draft =>
    refine Eq.trans (Engine.module?_publish_ne engine.nextVersion_pos given apart
      (fun before => (sane.lt before).1) fun own => ?_) (adds draft)
    exact sane.version_ne own active different rfl

/-- What is left of other identifiers. -/
theorem part_leave_ne (sane : engine.IsSane language) (verdict : Verdict) {other : String}
    (different : other ≠ script.id) :
    (verdict.leave script engine).part other = engine.part other := by
  have stored : (verdict.leave script engine).stored.find? other = engine.stored.find? other := by
    cases verdict with
    | refused | spoilt | discarded | unready => rfl
    | renewed draft =>
      exact (Table.find?_put_ne _ _ different).trans
        (congrArg (Table.find? · other) (Engine.stored_publish ..))
  have active : (verdict.leave script engine).active? other = engine.active? other := by
    cases verdict with
    | refused | spoilt | discarded | unready => rfl
    | renewed draft => exact Engine.active?_publish_ne _ _ _ different
  unfold Engine.part
  rw [stored, active, deleted_leave]
  congr 1
  cases found : engine.active? other with
  | none => rfl
  | some version => exact module?_leave sane verdict found different

/-- What is left of the identifier of the script. -/
theorem part_leave (sane : engine.IsSane language) (verdict : Verdict) :
    (verdict.leave script engine).part script.id =
      verdict.part script engine.nextVersion (engine.part script.id) := by
  -- Unless the module becomes active, the modules that were there stay.
  have kept (draft : Draft) : (added script engine draft).part script.id =
      engine.part script.id := by
    unfold Engine.part
    change (⟨_, (engine.active? script.id).bind _, _⟩ : Engine.Part) = _
    congr 1
    cases found : engine.active? script.id with
    | none => rfl
    | some version => exact Engine.module?_insert (sane.lt found).2 (sane.lt found).1
  cases verdict with
  | refused => rfl
  | spoilt _ draft | discarded draft | unready _ draft => exact kept draft
  | renewed draft =>
    have loaded : ((added script engine draft).publish script.id engine.nextVersion).module?
        engine.nextVersion =
          some ⟨script.id, engine.nextVersion, draft.content, draft.globals, true⟩ :=
      Engine.module?_publish_self engine.nextVersion_pos (Engine.module?_insert_next ..)
        (fun before => (sane.lt before).1) fun own => Nat.lt_irrefl _ (sane.lt own).2
    have active : ((added script engine draft).publish script.id engine.nextVersion).active?
        script.id = some engine.nextVersion := Engine.active?_publish ..
    have deleted : ((added script engine draft).publish script.id engine.nextVersion).deleted =
        engine.deleted := Engine.deleted_publish ..
    unfold Engine.part Verdict.part
    congr 1
    · exact Table.find?_put ..
    · change (((added script engine draft).publish script.id engine.nextVersion).active?
        script.id).bind _ = _
      rw [active]
      exact loaded
    · exact congrArg (List.contains · script.id) deleted

end Verdict

end Lag
