import Lag.World.Basic

/-!
# The tables of the engine

What a change of the engine does to its tables: to the modules, to the versions of the active ones,
to the stored scripts and to the identifiers that were deleted. No change touches the plan of a
module, which is what was built for it: its identifier, version and content.
-/
namespace Lag

/-- What was built for a module; its variables and whether it is active are left open. -/
def Module.plan (module : Module) : Module := { module with globals := [], isLoaded := false }

/-- The identifier is planned. -/
@[simp] theorem Module.id_plan (module : Module) : module.plan.id = module.id := rfl

/-- The version is planned. -/
@[simp] theorem Module.version_plan (module : Module) : module.plan.version = module.version := rfl

namespace Engine

variable {engine : Engine} {id : String} {version : Nat}

/-- The plan of the module of a version. -/
def plan? (engine : Engine) (version : Nat) : Option Module :=
  (engine.module? version).map Module.plan

/-- A module has a plan. -/
theorem plan?_of_module? {module : Module} (found : engine.module? version = some module) :
    engine.plan? version = some module.plan := by
  rw [plan?, found]
  rfl

/-- A plan is one of a module. -/
theorem exists_of_plan? {plan : Module} (planned : engine.plan? version = some plan) :
    ∃ module, engine.module? version = some module ∧ module.plan = plan :=
  Option.map_eq_some_iff.1 planned

/-- A module has a version that was given. -/
theorem lt_of_module? {module : Module} (found : engine.module? version = some module) :
    version < engine.nextVersion := by
  obtain ⟨inside, _⟩ := Array.getElem?_eq_some_iff.1 found
  unfold nextVersion
  omega

/-- A plan has a version that was given. -/
theorem lt_of_plan? {plan : Module} (planned : engine.plan? version = some plan) :
    version < engine.nextVersion := by
  obtain ⟨module, found, -⟩ := exists_of_plan? planned
  exact lt_of_module? found

/-- A version that is still to be given has no module. -/
theorem module?_of_le (given : engine.nextVersion ≤ version) : engine.module? version = none := by
  unfold nextVersion at given
  exact Array.getElem?_eq_none (by omega)

/-- Versions are positive. -/
theorem nextVersion_pos (engine : Engine) : 0 < engine.nextVersion := Nat.succ_pos _

/-- A change of the engine that builds nothing. -/
structure Keeps (before after : Engine) : Prop where
  /-- The plans are the same. -/
  plan? : after.plan? = before.plan?
  /-- No version was given. -/
  nextVersion : after.nextVersion = before.nextVersion
  /-- The limit is the same. -/
  limit : after.limit = before.limit

/-- Nothing is built when nothing changes. -/
theorem Keeps.refl (engine : Engine) : engine.Keeps engine := ⟨rfl, rfl, rfl⟩

/-- Changes one after the other that build nothing. -/
theorem Keeps.trans {first second third : Engine} (begins : first.Keeps second)
    (goes : second.Keeps third) : first.Keeps third :=
  ⟨goes.plan?.trans begins.plan?, goes.nextVersion.trans begins.nextVersion,
    goes.limit.trans begins.limit⟩

/-! ## Modules that change -/

section

variable (change : Module → Module) (globals : Run.Store)

/-- One module changes. -/
theorem module?_withModule {other : Nat} (positive : 0 < version) (given : 0 < other) :
    (engine.withModule version change).module? other =
      if other = version then (engine.module? other).map change else engine.module? other := by
  unfold withModule module?
  rw [Array.getElem?_modify]
  by_cases same : other = version
  · rw [if_pos same, if_pos (by rw [same])]
  · rw [if_neg same, if_neg (by omega)]

/-- No version is given. -/
@[simp] theorem nextVersion_withModule :
    (engine.withModule version change).nextVersion = engine.nextVersion := by
  simp [withModule, nextVersion]

/-- Nothing is built by a change that leaves plans alone. -/
theorem keeps_withModule {change : Module → Module}
    (keeps : ∀ module, (change module).plan = module.plan) :
    engine.Keeps (engine.withModule version change) := by
  refine ⟨?_, nextVersion_withModule change, rfl⟩
  funext other
  unfold withModule plan? module?
  rw [Array.getElem?_modify]
  split
  · cases engine.modules[other - 1]? with
    | none => rfl
    | some module => exact congrArg some (keeps module)
  · rfl

/-- Nothing is built by a change of variables. -/
theorem keeps_withGlobals : engine.Keeps (engine.withGlobals version globals) :=
  keeps_withModule fun _ => rfl

/-- Nothing is built when a module is marked as active or inactive. -/
theorem keeps_withLoaded (isLoaded : Bool) :
    engine.Keeps (engine.withModule version fun module => { module with isLoaded := isLoaded }) :=
  keeps_withModule fun _ => rfl

/-- Nothing is built by a change of variables and shared things. -/
theorem keeps_settle (shared : Run.Store) :
    engine.Keeps (engine.settle version globals shared) :=
  ⟨(keeps_withGlobals globals).plan?, (keeps_withGlobals globals).nextVersion, rfl⟩

/-- The variables of other modules stay. -/
theorem module?_withGlobals {other : Nat} (positive : 0 < version) (given : 0 < other)
    (different : other ≠ version) :
    (engine.withGlobals version globals).module? other = engine.module? other := by
  unfold withGlobals
  rw [module?_withModule _ positive given, if_neg different]

/-- The variables of a module that is there are those that it was given. -/
theorem globalsOf_withGlobals (found : (engine.module? version).isSome) :
    (engine.withGlobals version globals).globalsOf version = globals := by
  obtain ⟨module, is⟩ := Option.isSome_iff_exists.1 found
  have given : engine.modules[version - 1]? = some module := is
  unfold globalsOf withGlobals withModule module?
  rw [Array.getElem?_modify, if_pos rfl, given]
  rfl

/-- The variables of a module may be changed again. -/
theorem withGlobals_withGlobals (others : Run.Store) :
    (engine.withGlobals version others).withGlobals version globals =
      engine.withGlobals version globals := by
  unfold withGlobals withModule
  congr 1
  apply Array.ext_getElem?
  intro place
  simp only [Array.getElem?_modify]
  split
  · cases engine.modules[place]? <;> rfl
  · rfl

/-- No module is lost when nothing is built. -/
theorem Keeps.isSome {before after : Engine} (keeps : before.Keeps after) (version : Nat) :
    (after.module? version).isSome = (before.module? version).isSome := by
  have same := congrArg Option.isSome (congrFun keeps.plan? version)
  simpa [Engine.plan?] using same

end

/-! ## Modules that are added -/

/-- Add a module that has got variables, with what scripts share then; it gets the next version. -/
def insert (id : String) (content : Content) (globals shared : Run.Store) (engine : Engine) :
    Engine :=
  { engine with
    modules := engine.modules.push ⟨id, engine.nextVersion, content, globals, false⟩
    shared := shared }

/-- A module that is only added has no variables yet. -/
theorem add_eq (engine : Engine) (id : String) (content : Content) :
    engine.add id content = engine.insert id content [] engine.shared := rfl

section

variable {content : Content} {globals shared : Run.Store}

/-- Modules that were there stay. -/
theorem module?_insert {other : Nat} (given : other < engine.nextVersion) (positive : 0 < other) :
    (engine.insert id content globals shared).module? other = engine.module? other := by
  unfold nextVersion at given
  unfold insert module?
  exact Array.getElem?_push_lt (by omega) |>.trans (Array.getElem?_eq_getElem _).symm

variable (engine id content globals shared)

/-- The module that is added has the next version. -/
theorem module?_insert_next :
    (engine.insert id content globals shared).module? engine.nextVersion =
      some ⟨id, engine.nextVersion, content, globals, false⟩ := by
  simp [insert, module?, nextVersion]

/-- One version is given. -/
@[simp] theorem nextVersion_insert :
    (engine.insert id content globals shared).nextVersion = engine.nextVersion + 1 := by
  simp [insert, nextVersion]

/-- A module that was added gets its variables, and scripts share something. -/
theorem settle_insert (others things : Run.Store) :
    (engine.insert id content others things).settle engine.nextVersion globals shared =
      engine.insert id content globals shared := by
  have set : (engine.modules.push ⟨id, engine.nextVersion, content, others, false⟩).modify
      (engine.nextVersion - 1) (fun module => { module with globals := globals }) =
        engine.modules.push ⟨id, engine.nextVersion, content, globals, false⟩ := by
    unfold nextVersion
    apply Array.ext_getElem?
    intro place
    rw [Array.getElem?_modify, Array.getElem?_push, Array.getElem?_push, Nat.add_sub_cancel]
    by_cases last : engine.modules.size = place
    · subst last
      simp
    · have apart : ¬ place = engine.modules.size := fun is => last is.symm
      simp [last, apart]
  unfold settle withGlobals withModule share insert
  dsimp only
  rw [set]

variable {engine id content globals shared}

/-- A plan stays when a module is added. -/
theorem plan?_insert {other : Nat} {plan : Module} (planned : engine.plan? other = some plan)
    (positive : 0 < other) :
    (engine.insert id content globals shared).plan? other = some plan := by
  obtain ⟨module, found, rfl⟩ := exists_of_plan? planned
  refine plan?_of_module? ?_
  rw [module?_insert (lt_of_module? found) positive, found]

end

/-! ## Modules that become active or inactive -/

section

variable (engine : Engine) (id : String) (version : Nat)

/-- Mark the active module of an identifier as inactive. -/
def unmark : Engine :=
  match engine.active? id with
  | some old => engine.withModule old fun module => { module with isLoaded := false }
  | none => engine

variable {engine id version}

/-- At most the module that was active is marked as inactive. -/
theorem module?_unmark {other : Nat} (before : ∀ {old}, engine.active? id = some old → 0 < old)
    (given : 0 < other) :
    (engine.unmark id).module? other =
      if engine.active? id = some other then
        (engine.module? other).map fun module => { module with isLoaded := false }
      else engine.module? other := by
  unfold unmark
  cases active : engine.active? id with
  | none => rfl
  | some old =>
    dsimp only
    rw [module?_withModule _ (before active) given]
    by_cases same : other = old
    · rw [if_pos same, if_pos (congrArg some same.symm)]
    · have apart : some old ≠ some other := fun is => same (Option.some.inj is).symm
      rw [if_neg same, if_neg apart]

/-- The modules when one becomes active in place of the one that was active before. -/
theorem module?_publish {other : Nat} (positive : 0 < version) (given : 0 < other) :
    (engine.publish id version).module? other =
      if other = version then
        ((engine.unmark id).module? other).map fun module => { module with isLoaded := true }
      else (engine.unmark id).module? other := by
  rw [← module?_withModule _ positive given]
  rfl

/-- The modules when an identifier becomes inactive. -/
theorem module?_retract (other : Nat) :
    (engine.retract id).module? other = (engine.unmark id).module? other := rfl

variable (engine id version)

/-- A module becomes active. -/
@[simp] theorem active?_publish : (engine.publish id version).active? id = some version := by
  unfold publish
  split <;> exact Table.find?_put _ _ _

/-- Other identifiers stay as active as they are. -/
theorem active?_publish_ne {other : String} (different : other ≠ id) :
    (engine.publish id version).active? other = engine.active? other := by
  unfold publish
  split <;> exact Table.find?_put_ne _ _ different

/-- Nothing is built when a module becomes active. -/
theorem keeps_publish : engine.Keeps (engine.publish id version) := by
  have swapped (before : Engine) (active : Table Nat) : before.Keeps
      { before.withModule version fun module => { module with isLoaded := true } with
        active := active } := by
    have marked : before.Keeps
        (before.withModule version fun module => { module with isLoaded := true }) :=
      keeps_withLoaded true
    exact ⟨marked.plan?, marked.nextVersion, marked.limit⟩
  unfold publish
  split
  · exact (keeps_withLoaded false).trans (swapped _ _)
  · exact swapped _ _

/-- Scripts stay stored when a module becomes active. -/
@[simp] theorem stored_publish : (engine.publish id version).stored = engine.stored := by
  unfold publish
  split <;> rfl

/-- Identifiers stay deleted when a module becomes active. -/
@[simp] theorem deleted_publish : (engine.publish id version).deleted = engine.deleted := by
  unfold publish
  split <;> rfl

/-- The shared things stay when a module becomes active. -/
@[simp] theorem shared_publish : (engine.publish id version).shared = engine.shared := by
  unfold publish
  split <;> rfl

/-- An identifier becomes inactive. -/
@[simp] theorem active?_retract : (engine.retract id).active? id = none := by
  unfold retract
  split <;> exact Table.find?_erase _ _

/-- Other identifiers stay active. -/
theorem active?_retract_ne {other : String} (different : other ≠ id) :
    (engine.retract id).active? other = engine.active? other := by
  unfold retract
  split <;> exact Table.find?_erase_ne _ different

/-- Nothing is built when a module becomes inactive. -/
theorem keeps_retract : engine.Keeps (engine.retract id) := by
  unfold retract
  split
  · rename_i old _
    have marked : engine.Keeps
        (engine.withModule old fun module => { module with isLoaded := false }) :=
      keeps_withLoaded false
    exact ⟨marked.plan?, marked.nextVersion, marked.limit⟩
  · exact ⟨rfl, rfl, rfl⟩

/-- Scripts stay stored when a module becomes inactive. -/
@[simp] theorem stored_retract : (engine.retract id).stored = engine.stored := by
  unfold retract
  split <;> rfl

/-- Identifiers stay deleted when a module becomes inactive. -/
@[simp] theorem deleted_retract : (engine.retract id).deleted = engine.deleted := by
  unfold retract
  split <;> rfl

/-- The shared things stay when an identifier becomes inactive. -/
@[simp] theorem shared_retract : (engine.retract id).shared = engine.shared := by
  unfold retract
  split <;> rfl

end

/-! ## Identifiers that are deleted -/

/-- An identifier is deleted. -/
theorem mem_bury (engine : Engine) (id : String) : id ∈ (engine.bury id).deleted := by
  unfold bury
  split
  · rename_i there
    exact List.contains_iff_mem.1 there
  · exact List.mem_cons_self

/-- Deleted identifiers stay so when others are deleted. -/
theorem mem_bury_of_mem {other : String} (deleted : other ∈ engine.deleted) (id : String) :
    other ∈ (engine.bury id).deleted := by
  unfold bury
  split
  · exact deleted
  · exact List.mem_cons_of_mem _ deleted

/-- The active modules stay when an identifier is deleted. -/
@[simp] theorem active?_bury (engine : Engine) (id other : String) :
    (engine.bury id).active? other = engine.active? other := by
  unfold bury
  split <;> rfl

/-- The stored scripts stay when an identifier is deleted. -/
@[simp] theorem stored_bury (engine : Engine) (id : String) :
    (engine.bury id).stored = engine.stored := by
  unfold bury
  split <;> rfl

/-- Nothing is built when an identifier is deleted. -/
theorem keeps_bury (engine : Engine) (id : String) : engine.Keeps (engine.bury id) := by
  unfold bury
  split <;> exact ⟨rfl, rfl, rfl⟩

/-- Deleted identifiers stay so when another is loaded. -/
theorem mem_revive {other : String} (deleted : other ∈ engine.deleted) (different : other ≠ id) :
    other ∈ (engine.revive id).deleted :=
  List.mem_filter.2 ⟨deleted, by simpa using different⟩

/-- An identifier that was not deleted need not be forgotten. -/
theorem revive_of_not_mem (fresh : id ∉ engine.deleted) : engine.revive id = engine := by
  have same : engine.deleted.filter (· != id) = engine.deleted :=
    List.filter_eq_self.2 fun other inside => by
      simpa using fun is : other = id => fresh (is ▸ inside)
  unfold revive
  rw [same]

end Engine

end Lag
