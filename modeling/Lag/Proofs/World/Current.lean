import Lag.Proofs.World.Failed
import Lag.Proofs.World.Marked

/-!
# The active module of an identifier

What a call of a script comes to is decided by the active module of its identifier: by its program
and its variables. A load or a reload that works puts a module with first values in its place. Loads
and reloads that fail leave it alone, and so does everything that is done to other identifiers.
-/
namespace Lag

namespace Engine

/-- The active module of an identifier. -/
def current (engine : Engine) (id : String) : Option Module :=
  (engine.active? id).bind engine.module?

variable {engine after : Engine} {id : String} {version : Nat}

/-- A function is looked up in the active module. -/
theorem look_eq (engine : Engine) (id entry : String) (arguments : List Value) :
    engine.look id entry arguments =
      match engine.current id with
      | none => .error (.notLoaded id)
      | some module =>
        match module.content.find? module.globals entry with
        | none =>
          .error (.noEntry id entry (World.sortTexts (module.content.exports module.globals)))
        | some function => .ok ⟨id, entry, module, function, arguments⟩ := rfl

/-- The active module stays if the table and the module do. -/
theorem current_of_eq (active : after.active? id = engine.active? id)
    (module? : ∀ version, engine.active? id = some version →
      after.module? version = engine.module? version) :
    after.current id = engine.current id := by
  unfold current
  rw [active]
  cases found : engine.active? id with
  | none => rfl
  | some version => exact module? version found

section

variable (marked : engine.IsMarked)
include marked

/-- The active module stands under its version. -/
theorem exists_of_current {module : Module} (current : engine.current id = some module) :
    engine.active? id = some module.version ∧ 0 < module.version ∧
      engine.module? module.version = some module ∧ module.id = id := by
  obtain ⟨version, active, found⟩ := Option.bind_eq_some_iff.1 current
  exact marked.stands active found

/-- The active module stays when another one is added. -/
theorem current_insert (other : String) (content : Content) (globals shared : Run.Store) :
    (engine.insert other content globals shared).current id = engine.current id :=
  current_of_eq rfl fun _ active =>
    module?_insert (marked.owner active).version_lt (marked.positive active)

/-- The active module stays when the variables of another one change. -/
theorem current_withGlobals_ne (positive : 0 < version)
    (inactive : engine.active? id ≠ some version) (globals : Run.Store) :
    (engine.withGlobals version globals).current id = engine.current id := by
  refine current_of_eq rfl fun other active => ?_
  have apart : other ≠ version := by
    rintro rfl
    exact inactive active
  exact module?_withGlobals globals positive (marked.positive active) apart

/-- The active module when its variables change. -/
theorem current_withGlobals {module : Module} (current : engine.current id = some module)
    (globals : Run.Store) :
    (engine.withGlobals module.version globals).current id =
      some { module with globals := globals } := by
  obtain ⟨active, positive, found, -⟩ := exists_of_current marked current
  have same : (engine.withGlobals module.version globals).active? id = some module.version := active
  unfold Engine.current
  rw [same]
  change (engine.withModule module.version _).module? module.version = _
  rw [module?_withModule _ positive positive, if_pos rfl, found]
  rfl

/-- The active module stays when one becomes active under another identifier. -/
theorem current_publish_ne {other : String} (owns : engine.Owns id version)
    (different : other ≠ id) :
    (engine.publish id version).current other = engine.current other := by
  refine current_of_eq (active?_publish_ne _ _ _ different) fun found active => ?_
  obtain ⟨positive, module, there, owner⟩ := owns
  obtain ⟨given, last, is, last_owner⟩ := marked.owner active
  have apart : found ≠ version := by
    rintro rfl
    rw [there] at is
    exact different (last_owner.symm.trans (Option.some.inj is ▸ owner))
  have inactive : engine.active? id ≠ some found := by
    intro before
    obtain ⟨-, mine, this, mine_owner⟩ := marked.owner before
    rw [is] at this
    exact different (last_owner.symm.trans (Option.some.inj this ▸ mine_owner))
  rw [module?_publish positive given, if_neg apart, module?_unmark marked.positive given,
    if_neg inactive]

/-- The module that becomes active. -/
theorem current_publish {module : Module} (positive : 0 < version)
    (found : engine.module? version = some module) (inactive : engine.active? id ≠ some version) :
    (engine.publish id version).current id = some { module with isLoaded := true } := by
  unfold current
  rw [active?_publish]
  change (engine.publish id version).module? version = _
  rw [module?_publish positive positive, if_pos rfl, module?_unmark marked.positive positive,
    if_neg inactive, found]
  rfl

/-- The active module stays when another identifier becomes inactive. -/
theorem current_retract_ne {other : String} (different : other ≠ id) :
    (engine.retract id).current other = engine.current other := by
  refine current_of_eq (active?_retract_ne _ _ different) fun found active => ?_
  have inactive : engine.active? id ≠ some found := by
    intro before
    obtain ⟨-, mine, this, owner⟩ := marked.owner before
    obtain ⟨-, last, is, last_owner⟩ := marked.owner active
    rw [is] at this
    exact different (last_owner.symm.trans (Option.some.inj this ▸ owner))
  rw [module?_retract, module?_unmark marked.positive (marked.positive active), if_neg inactive]

end

end Engine

/-! ## Loads and reloads -/

/-- A module as its text leaves it, with its variables and the shared things. -/
structure Draft where
  /-- What the module holds. -/
  content : Content
  /-- Its variables. -/
  globals : Run.Store
  /-- The things that scripts share. -/
  shared : Run.Store

/-- What a load or a reload builds for a script. -/
def Script.draft? (language : HostLanguage) (again : Bool) (limit : Nat) (shared : Run.Store)
    (script : Script) : Option Draft :=
  if !again && !script.isValid then none
  else
    match language.compile script limit with
    | .error _ => none
    | .ok content =>
      match language.prepared content shared with
      | (.error _, _, _) => none
      | (.ok _, globals, shared) => some ⟨content, globals, shared⟩

/-- What a reload builds for a script with an identifier is built by a load of it too. -/
theorem Script.draft?_load (language : HostLanguage) {script : Script}
    (valid : script.isValid = true) (again : Bool) (limit : Nat) (shared : Run.Store) :
    script.draft? language false limit shared = script.draft? language again limit shared := by
  unfold draft?
  rw [valid, Bool.not_true, Bool.and_false, Bool.and_false]

/-- What is built for a script holds what the script compiles to. -/
theorem Script.compile_of_draft? {language : HostLanguage} {again : Bool} {limit : Nat}
    {shared : Run.Store} {script : Script} {draft : Draft}
    (built : script.draft? language again limit shared = some draft) :
    language.compile script limit = .ok draft.content := by
  unfold draft? at built
  split at built
  · cases built
  · split at built
    · cases built
    · rename_i content compiles
      split at built
      · cases built
      · cases built
        exact compiles

/-- What the first values of the variables of a new module come to. -/
def HostLanguage.first (language : HostLanguage) (draft : Draft) :
    Except Run.Accident Value × Run.Store × Run.Store :=
  language.alone draft.content .initial draft.globals draft.shared

namespace Engine

/-- An engine in which a module was just built for a script. -/
def built (engine : Engine) (again : Bool) (script : Script) (content : Content)
    (globals shared : Run.Store) : Engine :=
  (engine.insert script.id content globals shared).base ⟨again, script, engine.nextVersion⟩

/-- How a load or a reload may end, with what it leaves behind. -/
inductive Performs (language : HostLanguage) (engine : Engine) (again : Bool) (script : Script) :
    Except Fault (Option Nat) × Engine → Prop where
  /-- No module is built. -/
  | unbuilt (unbuilt : script.draft? language again engine.limit engine.shared = none)
    (fault : Fault) : Performs language engine again script (.error fault, engine)
  /-- The text of the module meets an accident. -/
  | spoilt (unbuilt : script.draft? language again engine.limit engine.shared = none)
    (fault : Fault) (content : Content) (globals shared : Run.Store) :
    Performs language engine again script
      (.error fault, engine.insert script.id content globals shared)
  /-- The module of a reload is discarded, for its script was deleted. -/
  | discarded (isAgain : again = true) (deleted : script.id ∈ engine.deleted) (content : Content)
    (globals shared : Run.Store) :
    Performs language engine again script
      (.ok none, engine.insert script.id content globals shared)
  /-- The variables of the module cannot get their first values. -/
  | unready {draft : Draft}
    (built : script.draft? language again engine.limit engine.shared = some draft)
    {accident : Run.Accident} {globals shared : Run.Store}
    (first : language.first draft = (.error accident, globals, shared)) :
    Performs language engine again script
      (.error (.ofAccident accident (.initial script.id engine.nextVersion accident)),
        engine.built again script draft.content globals shared)
  /-- The module becomes active, but its script cannot be stored. -/
  | unsaved (isAgain : again = true) (invalid : script.isValid = false) (content : Content)
    (globals shared : Run.Store) :
    Performs language engine again script (.error (.invalidId "save"),
      (engine.built again script content globals shared).publish script.id engine.nextVersion)
  /-- The module becomes active, and its script is stored. -/
  | renewed {draft : Draft}
    (built : script.draft? language again engine.limit engine.shared = some draft)
    (valid : script.isValid = true) {value : Value} {globals shared : Run.Store}
    (first : language.first draft = (.ok value, globals, shared)) :
    Performs language engine again script (.ok (some engine.nextVersion),
      ((engine.built again script draft.content globals shared).publish script.id
        engine.nextVersion).store script)

variable {language : HostLanguage} {engine : Engine} {script : Script} {again : Bool}

/-- A load or a reload starts to build what is built for its script. -/
theorem start_eq (language : HostLanguage) (again : Bool) (script : Script) (engine : Engine) :
    (script.draft? language again engine.limit engine.shared = none ∧ ∃ fault,
        engine.start language again script = (.error fault, engine) ∨
        ∃ content globals shared, engine.start language again script =
          (.error fault, engine.insert script.id content globals shared)) ∨
      (again = false → script.isValid = true) ∧ ∃ draft,
        script.draft? language again engine.limit engine.shared = some draft ∧
          engine.start language again script = (.ok engine.nextVersion,
            engine.insert script.id draft.content draft.globals draft.shared) := by
  unfold start Script.draft?
  split
  · exact .inl ⟨rfl, _, .inl rfl⟩
  · rename_i allowed
    have valid (load : again = false) : script.isValid = true := by simpa [load] using allowed
    unfold build
    cases language.compile script engine.limit with
    | error fault => exact .inl ⟨rfl, _, .inl rfl⟩
    | ok content =>
      dsimp only
      obtain ⟨outcome, globals, shared⟩ := language.prepared content engine.shared
      cases outcome with
      | error accident => exact .inl ⟨rfl, _, .inr ⟨content, globals, shared, rfl⟩⟩
      | ok value => exact .inr ⟨valid, ⟨content, globals, shared⟩, rfl, rfl⟩

/-- The module that was just built, with its variables. -/
theorem found_built (content : Content) (globals shared : Run.Store) :
    (engine.built again script content globals shared).module? engine.nextVersion =
      some ⟨script.id, engine.nextVersion, content, globals, false⟩ := by
  have found := module?_insert_next engine script.id content globals shared
  unfold built base
  split <;> exact found

/-- The stored scripts stay when a module was just built. -/
theorem stored_built (content : Content) (globals shared : Run.Store) :
    (engine.built again script content globals shared).stored = engine.stored :=
  stored_base _ (engine.insert script.id content globals shared)

/-- The variables of the module that was just built, and the shared things. -/
theorem settle_built (content : Content) (others things globals shared : Run.Store) :
    (engine.built again script content others things).settle engine.nextVersion globals shared =
      engine.built again script content globals shared := by
  unfold built
  rw [settle_base, settle_insert]

/-- The variables of the module that was just built. -/
theorem globalsOf_built (content : Content) (globals shared : Run.Store) :
    (engine.built again script content globals shared).globalsOf engine.nextVersion = globals := by
  rw [globalsOf, found_built]
  rfl

/-- The shared things are what the building left. -/
theorem shared_built (content : Content) (globals shared : Run.Store) :
    (engine.built again script content globals shared).shared = shared := by
  unfold built base
  split <;> rfl

/-- The module that was just built is not stale. -/
theorem isStale_built (marked : engine.IsMarked) (content : Content) (globals shared : Run.Store) :
    (engine.built again script content globals shared).isStale script.id engine.nextVersion =
      false := by
  unfold built
  rw [isStale_base]
  change engine.isStale script.id engine.nextVersion = false
  cases active : engine.active? script.id with
  | none => exact isStale_of_inactive active
  | some current =>
    have older := (marked.owner active).version_lt
    rw [isStale_of_active active, decide_eq_false_iff_not]
    omega

/-- A load or a reload ends in one of these ways. -/
theorem performs (language : HostLanguage) (marked : engine.IsMarked) (again : Bool)
    (script : Script) :
    engine.Performs language again script (engine.perform language again script) := by
  unfold perform
  rcases start_eq language again script engine with
    ⟨none, fault, unbuilt | ⟨content, globals, shared, spoilt⟩⟩ | ⟨loads, draft, built, starts⟩
  · rw [unbuilt]
    exact .unbuilt none fault
  · rw [spoilt]
    exact .spoilt none fault content globals shared
  · rw [starts]
    let build : Build := ⟨again, script, engine.nextVersion⟩
    let added := engine.insert script.id draft.content draft.globals draft.shared
    change engine.Performs language again script (added.finish language build)
    rw [finish_eq]
    split
    · rename_i discards
      obtain ⟨isAgain, deleted⟩ := Bool.and_eq_true_iff.1 discards
      have inside : script.id ∈ engine.deleted := List.contains_iff_mem.1 deleted
      exact .discarded isAgain inside draft.content draft.globals draft.shared
    · change engine.Performs language again script (told engine.nextVersion
        ((engine.built again script draft.content draft.globals draft.shared).commit language script
          engine.nextVersion))
      unfold commit
      rw [activate_of_fresh language (found_built ..) (isStale_built marked ..), globalsOf_built,
        shared_built]
      have firsts : language.alone draft.content .initial draft.globals draft.shared =
          language.first draft := rfl
      dsimp only
      rw [firsts]
      cases first : language.first draft with
      | mk outcome left =>
        obtain ⟨globals, shared⟩ := left
        cases outcome with
        | error accident =>
          dsimp only
          rw [settle_built]
          exact .unready built first
        | ok _ =>
          unfold swap
          dsimp only
          rw [settle_built]
          cases valid : script.isValid with
          | true => exact .renewed built valid first
          | false =>
            exact .unsaved (again_of_invalid loads valid) valid draft.content globals shared

namespace Performs

section

variable (marked : engine.IsMarked) (content : Content) (globals shared : Run.Store)
include marked

/-- Marks agree when a module was just built. -/
theorem marked_built : (engine.built again script content globals shared).IsMarked := by
  have added := marked.insert script.id content globals shared
  unfold built base
  split
  · exact added
  · exact added.of_eq rfl rfl

/-- The active modules stay when a module was just built. -/
theorem current_built (id : String) :
    (engine.built again script content globals shared).current id = engine.current id := by
  have added : (engine.insert script.id content globals shared).current id = engine.current id :=
    current_insert marked script.id content globals shared
  rw [← added]
  unfold built base
  split <;> rfl

/-- The module that was just built is not active. -/
theorem inactive_built (id : String) :
    (engine.built again script content globals shared).active? id ≠ some engine.nextVersion := by
  unfold built
  rw [active?_base]
  intro active
  have given := (marked.owner active).version_lt
  omega

omit marked in
/-- The module that was just built is one of its script. -/
theorem owns_built :
    (engine.built again script content globals shared).Owns script.id engine.nextVersion :=
  ⟨engine.nextVersion_pos, _, found_built content globals shared, rfl⟩

/-- When the module becomes active the active modules of other identifiers stay. -/
theorem current_publish_built_ne {id : String} (different : id ≠ script.id) :
    ((engine.built again script content globals shared).publish script.id
      engine.nextVersion).current id = engine.current id := by
  rw [current_publish_ne (marked_built marked content globals shared)
    (owns_built content globals shared) different, current_built marked]

/-- The module becomes the active one of its identifier. -/
theorem current_publish_built :
    ((engine.built again script content globals shared).publish script.id
      engine.nextVersion).current script.id =
        some ⟨script.id, engine.nextVersion, content, globals, true⟩ :=
  current_publish (marked_built marked content globals shared) engine.nextVersion_pos
    (found_built content globals shared) (inactive_built marked content globals shared script.id)

end

variable {ending : Except Fault (Option Nat) × Engine}

/-- A load or a reload leaves the active modules of other identifiers alone. -/
theorem current_ne (performs : engine.Performs language again script ending)
    (marked : engine.IsMarked) {id : String} (different : id ≠ script.id) :
    ending.2.current id = engine.current id := by
  cases performs with
  | unbuilt => rfl
  | spoilt => exact current_insert marked ..
  | discarded => exact current_insert marked ..
  | unready => exact current_built marked ..
  | unsaved => exact current_publish_built_ne marked _ _ _ different
  | renewed => exact current_publish_built_ne marked _ _ _ different

/-- A load or a reload that does not work leaves the active module alone. -/
theorem current_failed (performs : engine.Performs language again script ending)
    (marked : engine.IsMarked) (valid : script.isValid = true)
    (fails : ∀ version, ending.1 ≠ .ok (some version)) :
    ending.2.current script.id = engine.current script.id := by
  cases performs with
  | unbuilt => rfl
  | spoilt => exact current_insert marked ..
  | discarded => exact current_insert marked ..
  | unready => exact current_built marked ..
  | unsaved _ invalid => exact absurd valid (by rw [invalid]; exact Bool.false_ne_true)
  | renewed => exact absurd rfl (fails _)

/-- A load or a reload that works puts a module with first values in the place of the active one,
and leaves the shared things as these values do. -/
theorem current_renewed (performs : engine.Performs language again script ending)
    (marked : engine.IsMarked) {version : Nat} (works : ending.1 = .ok (some version)) :
    ∃ draft value globals shared,
      script.draft? language again engine.limit engine.shared = some draft ∧
      script.isValid = true ∧ language.first draft = (.ok value, globals, shared) ∧
      ending.2.current script.id = some ⟨script.id, version, draft.content, globals, true⟩ ∧
      ending.2.shared = shared := by
  cases performs with
  | unbuilt | spoilt | unready | unsaved => cases works
  | discarded => cases works
  | @renewed draft built valid value globals shared first =>
    obtain rfl : engine.nextVersion = version := Option.some.inj (Except.ok.inj works)
    refine ⟨draft, value, globals, shared, built, valid, first,
      current_publish_built marked draft.content globals shared, ?_⟩
    refine (shared_publish _ script.id engine.nextVersion).trans ?_
    unfold Engine.built base
    split <;> rfl

/-- The limit stays the same. -/
theorem limit (performs : engine.Performs language again script ending) :
    ending.2.limit = engine.limit := by
  have based (content : Content) (globals shared : Run.Store) :
      (engine.built again script content globals shared).limit = engine.limit :=
    (keeps_base _ (engine.insert script.id content globals shared)).limit
  cases performs with
  | unbuilt | spoilt | discarded => rfl
  | unready => exact based ..
  | unsaved => exact (keeps_publish ..).limit.trans (based ..)
  | renewed => exact (keeps_publish _ script.id engine.nextVersion).limit.trans (based ..)

end Performs

/-- A script is loaded if a module is built for it whose variables get their first values. -/
theorem perform_works (marked : engine.IsMarked) {draft : Draft}
    (built : script.draft? language false engine.limit engine.shared = some draft) {value : Value}
    {globals shared : Run.Store} (first : language.first draft = (.ok value, globals, shared)) :
    (engine.perform language false script).1 = .ok (some engine.nextVersion) := by
  have performs := performs language marked false script
  revert performs
  generalize engine.perform language false script = ending
  intro performs
  cases performs with
  | unbuilt none => exact absurd (built.symm.trans none) nofun
  | spoilt none => exact absurd (built.symm.trans none) nofun
  | discarded isAgain => cases isAgain
  | unready others fails =>
    obtain rfl : draft = _ := Option.some.inj (built.symm.trans others)
    rw [first] at fails
    cases fails
  | unsaved isAgain => cases isAgain
  | renewed => rfl

/-- A script that is forgotten leaves the active modules of other identifiers alone. -/
theorem current_delete_ne (marked : engine.IsMarked) {id other : String} (different : other ≠ id) :
    (engine.delete id).2.current other = engine.current other := by
  let forgotten := if engine.stored.has id then engine.unstore id else engine
  have same (name : String) : forgotten.current name = engine.current name := by
    change (if engine.stored.has id then engine.unstore id else engine).current name = _
    split <;> rfl
  have marked : forgotten.IsMarked := by
    change (if engine.stored.has id then engine.unstore id else engine).IsMarked
    split
    · exact marked.of_eq rfl rfl
    · exact marked
  have forgets : (engine.forget id).current other = engine.current other := by
    change (if (engine.active? id).isSome then forgotten.retract id
      else forgotten).current other = _
    split
    · rw [current_retract_ne marked different, same]
    · exact same other
  have buries : ((engine.forget id).bury id).current other = (engine.forget id).current other := by
    unfold bury
    split <;> rfl
  unfold delete
  split
  · exact buries.trans forgets
  · exact forgets

/-- A script that is forgotten leaves the shared things alone. -/
theorem shared_delete (engine : Engine) (id : String) :
    (engine.delete id).2.shared = engine.shared := by
  have forgets : (engine.forget id).shared = engine.shared := by
    unfold forget
    dsimp only
    split
    · refine (shared_retract _ id).trans ?_
      split <;> rfl
    · split <;> rfl
  unfold delete
  split
  · refine Eq.trans ?_ forgets
    change ((engine.forget id).bury id).shared = _
    unfold bury
    split <;> rfl
  · exact forgets

/-- A script that is forgotten leaves the limit alone. -/
theorem limit_delete (engine : Engine) (id : String) :
    (engine.delete id).2.limit = engine.limit := by
  unfold delete
  split
  · exact ((keeps_forget engine id).trans (keeps_bury _ id)).limit
  · exact (keeps_forget engine id).limit

end Engine

end Lag
