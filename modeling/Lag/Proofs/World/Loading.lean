import Lag.Proofs.World.Marked
import Lag.Proofs.World.Quiet
import Lag.Proofs.World.Within
import Mathlib.Logic.Relation

/-!
# Modules that become active

To activate a module takes three stages: it is approved unless it is stale, the variables get their
first values, and the module is installed unless it has become stale in the meantime. While
variables get their first values anything else may happen, also to the same identifier, and at any
depth. So the modules of an engine change in steps, with a list of the modules whose variables are
getting their first values. What one step does to the marks of modules and to the turnovers is said
once, and a run of steps keeps it.
-/
namespace Lag

variable {κ : Type}

/-! ## Stages -/

namespace World

/-- The first stage of an activation: the module, unless there is none or it is stale. -/
def approve (version : Nat) : Act κ (Option Module) := do
  match (← get).engine.module? version with
  | none => return none
  | some module =>
    if ← isStale module.id version then return none
    return some module

/-- The last stage of an activation, by what the first values of the variables came to. -/
def install (id : String) (version : Nat) (outcome : Except Run.Accident Value) : Act κ Bool := do
  match outcome with
  | .error accident => throw (.ofAccident accident (.initial id version accident))
  | .ok _ =>
    if ← isStale id version then return false
    let current ← activeVersion id
    change (Engine.publish id version)
    match current with
    | some old =>
      say "runtime.loader" .info
        ("Swapped " ++ versionText id old ++ " -> v" ++ toString version)
    | none => say "runtime.loader" .info ("Activated " ++ versionText id version)
    return true

/-- A module is approved, its variables get their first values, and it is installed. -/
theorem activate_eq (hooks : Hooks κ) (version : Nat) :
    activate hooks version =
      approve version >>= fun
        | none => pure false
        | some module => runModule hooks module .initial >>= install module.id version := by
  unfold activate approve
  simp only [bind_assoc]
  refine bind_congr fun world => ?_
  cases world.engine.module? version with
  | none => simp only [pure_bind]
  | some module =>
    simp only [bind_assoc]
    refine bind_congr fun stale => ?_
    cases stale with
    | true => rfl
    | false =>
      simp only [Bool.false_eq_true, if_false, pure_bind]
      refine bind_congr fun outcome => ?_
      cases outcome with
      | error accident => rfl
      | ok _ => rfl

/-- A change of the world that leaves the modules, the table of active ones and the shared things
alone. -/
structure Aside (before after : World κ) : Prop where
  /-- The modules are the same. -/
  modules : after.engine.modules = before.engine.modules
  /-- The table of active modules is the same. -/
  active : after.engine.active = before.engine.active
  /-- The shared things are the same. -/
  shared : after.engine.shared = before.engine.shared

namespace Aside

variable {before after : World κ}

/-- Nothing changes. -/
theorem refl (world : World κ) : Aside world world := ⟨rfl, rfl, rfl⟩

/-- The engine stays the same. -/
theorem of_engine (same : after.engine = before.engine) : Aside before after :=
  ⟨congrArg Engine.modules same, congrArg Engine.active same, congrArg Engine.shared same⟩

/-- Announcements, stored scripts and deleted identifiers are aside. -/
theorem composes : Composes (κ := κ) Aside :=
  ⟨fun _ _ _ _ => ⟨rfl, rfl, rfl⟩, fun begins goes =>
    ⟨goes.modules.trans begins.modules, goes.active.trans begins.active,
      goes.shared.trans begins.shared⟩⟩

/-- The same modules are found. -/
theorem module? (aside : Aside before after) (version : Nat) :
    after.engine.module? version = before.engine.module? version := by
  rw [Engine.module?, aside.modules, Engine.module?]

/-- The same versions are active. -/
theorem active? (aside : Aside before after) (id : String) :
    after.engine.active? id = before.engine.active? id := by
  rw [Engine.active?, aside.active, Engine.active?]

end Aside

variable {world after : World κ} {id : String} {version : Nat}

/-- Nothing changes when a module is approved. -/
theorem within_approve (version : Nat) :
    Within Aside (approve version : Act κ (Option Module)) := by
  have composes := Aside.composes (κ := κ)
  refine .look fun world => ?_
  cases world.engine.module? version with
  | none => exact .pure composes _
  | some module =>
    refine .bind composes (.isStale composes ..) fun stale => ?_
    split
    · exact .pure composes _
    · exact .pure composes _

/-- A module that is approved stands under its version. -/
theorem found_of_approve {module : Module}
    (approves : ended (approve version) world = (.ok (some module), after)) :
    world.engine.module? version = some module := by
  unfold approve at approves
  rw [ended_bind, ended_get] at approves
  revert approves
  dsimp only
  cases world.engine.module? version with
  | none =>
    intro approves
    cases approves
  | some found =>
    dsimp only
    rw [ended_bind]
    cases ended (isStale found.id version) world with
    | mk outcome left =>
      intro approves
      match outcome with
      | .error fault => cases approves
      | .ok true => cases approves
      | .ok false =>
        cases approves
        rfl

/-- A module is installed, unless its variables did not get their first values or it is stale. -/
theorem install_cases (id : String) (version : Nat) (outcome : Except Run.Accident Value)
    (world : World κ) :
    ((ended (install id version outcome) world).1 ≠ .ok true ∧
        Aside world (ended (install id version outcome) world).2) ∨
      ((ended (install id version outcome) world).1 = .ok true ∧
        world.engine.isStale id version = false ∧
        (ended (install id version outcome) world).2.engine = world.engine.publish id version) := by
  cases outcome with
  | error accident =>
    have fails : ended (install id version (.error accident)) world =
      (.error (.ofAccident accident (.initial id version accident)), world) := rfl
    rw [fails]
    exact .inl ⟨nofun, .refl world⟩
  | ok _ =>
    have looks : Ends (isStale id version) world _ := Ends.isStale id version
    obtain ⟨gives, leaves⟩ := looks
    unfold install
    dsimp only
    rw [ended_bind]
    revert gives leaves
    cases ended (isStale id version) world with
    | mk looked left =>
      rintro rfl leaves
      cases stale : world.engine.isStale id version with
      | true =>
        refine .inl ⟨nofun, .of_engine leaves⟩
      | false =>
        have publishes : left.engine.publish id version = world.engine.publish id version :=
          congrArg (Engine.publish id version) leaves
        right
        dsimp only
        rw [if_neg Bool.false_ne_true]
        unfold activeVersion change say
        rw [ended_bind, ended_bind, ended_get]
        dsimp only [ended_pure]
        cases left.engine.active? id with
        | none => exact ⟨rfl, rfl, publishes⟩
        | some old => exact ⟨rfl, rfl, publishes⟩

/-- An identifier becomes inactive if it is active. -/
theorem deactivate_cases (id : String) (world : World κ) :
    ((ended (deactivate id) world).1 ≠ .ok true ∧
        Aside world (ended (deactivate id) world).2) ∨
      ((ended (deactivate id) world).1 = .ok true ∧
        (ended (deactivate id) world).2.engine = world.engine.retract id) := by
  unfold deactivate activeVersion
  rw [ended_bind, ended_bind, ended_get]
  dsimp only [ended_pure]
  cases world.engine.active? id with
  | none => exact .inl ⟨nofun, .refl world⟩
  | some old => exact .inr ⟨rfl, rfl⟩

/-- A script gets a module if it compiles, and else nothing changes. -/
theorem reserve_cases (language : HostLanguage) (script : Script) (world : World κ) :
    Aside world (ended (reserve language script) world).2 ∨
      ∃ content, language.compile script world.engine.limit = .ok content ∧
        (ended (reserve language script) world).2.engine =
          world.engine.add script.id content := by
  rw [ended_reserve]
  cases language.compile script world.engine.limit with
  | error fault => exact .inl (.refl world)
  | ok content => exact .inr ⟨content, rfl, rfl⟩

end World

/-! ## Steps -/

/-- A host language, and what scripts in it may leave as shared things. -/
structure Setting where
  /-- The host language. -/
  language : HostLanguage
  /-- What scripts may leave. -/
  allowed : Run.Store → Prop
  /-- Nothing is shared at first. -/
  start : allowed []
  /-- No module leaves anything else. -/
  holds : ∀ {script : Script} {limit : Nat} {content : Content},
    language.compile script limit = .ok content → language.Holds allowed content

/-- Scripts may leave whatever they like. -/
def Setting.free (language : HostLanguage) : Setting where
  language := language
  allowed _ := True
  start := trivial
  holds {_ _ content} _ := language.holds_true content

/-- All scripts are in Lag, and nothing is shared. -/
def Setting.plain : Setting where
  language := .none
  allowed things := things = []
  start := rfl
  holds {script limit content} compiles := by
    unfold HostLanguage.compile at compiles
    cases isHost : script.language with
    | host =>
      rw [isHost] at compiles
      cases compiles
    | lag =>
      rw [isHost] at compiles
      cases compiled : Lag.compile script.code script.id (script.path.map Text.Path.toText)
          limit with
      | error fault =>
        rw [compiled] at compiles
        cases compiles
      | ok linked =>
        rw [compiled] at compiles
        obtain rfl := Except.ok.inj compiles
        exact fun _ _ _ _ _ replaced => absurd replaced Bool.false_ne_true

/-- A world in which modules are becoming active. -/
structure Loading (κ : Type) where
  /-- The world. -/
  world : World κ
  /-- The identifiers and versions of the modules whose variables are getting their first values. -/
  starting : List (String × Nat)
  /-- The turnovers, the last one first. -/
  past : List Turnover

/-- A turnover has happened if an operation says so. -/
def Turnover.follows (turnover : Turnover) (past : List Turnover) :
    Except Fault Bool → List Turnover
  | .ok true => turnover :: past
  | _ => past

/-- A turnover has not happened if no operation says so. -/
theorem Turnover.follows_of_ne {turnover : Turnover} {past : List Turnover}
    {outcome : Except Fault Bool} (fails : outcome ≠ .ok true) :
    turnover.follows past outcome = past := by
  unfold follows
  split
  · exact absurd rfl fails
  · rfl

namespace Loading

/-- What one step does; the variables of at most one version are spared. -/
inductive Step (setting : Setting) (spared : Option Nat) : Loading κ → Loading κ → Prop where
  /-- Something happens that concerns neither the modules, nor which of them are active, nor the
  shared things. -/
  | aside {world after : World κ} {starting : List (String × Nat)} {past : List Turnover}
    (aside : World.Aside world after) :
    Step setting spared ⟨world, starting, past⟩ ⟨after, starting, past⟩
  /-- A script gets a module, if it compiles. -/
  | reserve {world : World κ} {starting : List (String × Nat)} {past : List Turnover}
    (script : Script) :
    Step setting spared ⟨world, starting, past⟩
      ⟨(World.ended (World.reserve setting.language script) world).2, starting, past⟩
  /-- The module at a place is approved. -/
  | approve {world after : World κ} {starting : List (String × Nat)} {past : List Turnover}
    {place : Nat} {module : Module}
    (approves : World.ended (World.approve (place + 1)) world = (.ok (some module), after)) :
    Step setting spared ⟨world, starting, past⟩
      ⟨after, starting ++ [(module.id, place + 1)], past⟩
  /-- The module at a place changes its variables. -/
  | write {world : World κ} {starting : List (String × Nat)} {past : List Turnover} {place : Nat}
    (apart : spared ≠ some (place + 1)) (globals : Run.Store) :
    Step setting spared ⟨world, starting, past⟩
      ⟨world.withEngine (Engine.withGlobals (place + 1) globals), starting, past⟩
  /-- A script changes the shared things. -/
  | share {world : World κ} {starting : List (String × Nat)} {past : List Turnover}
    {things : Run.Store} (fine : setting.allowed things) :
    Step setting spared ⟨world, starting, past⟩
      ⟨world.withEngine (Engine.share things), starting, past⟩
  /-- A module that was approved is installed, or given up. -/
  | install {world : World κ} {starting : List (String × Nat)} {past : List Turnover}
    {which : Nat} {id : String} {version : Nat} (found : starting[which]? = some (id, version))
    (outcome : Except Run.Accident Value) :
    Step setting spared ⟨world, starting, past⟩
      ⟨(World.ended (World.install id version outcome) world).2, starting.eraseIdx which,
        (Turnover.activated id version).follows past
          (World.ended (World.install id version outcome) world).1⟩
  /-- An identifier is made inactive. -/
  | deactivate {world : World κ} {starting : List (String × Nat)} {past : List Turnover}
    (id : String) :
    Step setting spared ⟨world, starting, past⟩
      ⟨(World.ended (World.deactivate id) world).2, starting,
        (Turnover.deactivated id).follows past (World.ended (World.deactivate id) world).1⟩

/-- Some steps, one after the other. -/
abbrev Steps (setting : Setting) (spared : Option Nat) : Loading κ → Loading κ → Prop :=
  Relation.ReflTransGen (Step setting spared)

end Loading

/-- What one step does to an engine; the variables of at most one version are spared. -/
inductive Engine.Changes (spared : Option Nat) (engine : Engine) : Engine → Prop where
  /-- The modules stay, and the table of active ones. -/
  | aside {after : Engine} (modules : after.modules = engine.modules)
    (active : after.active = engine.active) : Changes spared engine after
  /-- A module is added. -/
  | add (id : String) (content : Content) : Changes spared engine (engine.add id content)
  /-- A module changes its variables. -/
  | write {version : Nat} (positive : 0 < version) (apart : spared ≠ some version)
    (globals : Run.Store) : Changes spared engine (engine.withGlobals version globals)
  /-- A module becomes active. -/
  | publish (id : String) (version : Nat) : Changes spared engine (engine.publish id version)
  /-- An identifier becomes inactive. -/
  | retract (id : String) : Changes spared engine (engine.retract id)

/-- No version is taken back. -/
theorem Engine.Changes.nextVersion {spared : Option Nat} {engine after : Engine}
    (changes : engine.Changes spared after) : engine.nextVersion ≤ after.nextVersion := by
  cases changes with
  | aside modules active =>
    have same : after.nextVersion = engine.nextVersion := by
      rw [Engine.nextVersion, modules, Engine.nextVersion]
    exact Nat.le_of_eq same.symm
  | add id content =>
    rw [add_eq, nextVersion_insert]
    exact Nat.le_succ _
  | write positive apart globals => exact Nat.le_of_eq (keeps_withGlobals globals).nextVersion.symm
  | publish id version => exact Nat.le_of_eq (keeps_publish ..).nextVersion.symm
  | retract id => exact Nat.le_of_eq (keeps_retract ..).nextVersion.symm

namespace Loading

/-- A step does one of these things to the engine. -/
theorem Step.changes {setting : Setting} {spared : Option Nat} {loading after : Loading κ}
    (step : Step setting spared loading after) :
    loading.world.engine.Changes spared after.world.engine := by
  cases step with
  | aside aside => exact .aside aside.modules aside.active
  | @reserve world starting past script =>
    rcases World.reserve_cases setting.language script world with aside | ⟨content, -, adds⟩
    · exact .aside aside.modules aside.active
    · exact adds ▸ .add script.id content
  | @approve world after starting past place module approves =>
    have aside := (World.within_approve (place + 1)).ends world
    rw [approves] at aside
    exact .aside aside.modules aside.active
  | write apart globals => exact .write (Nat.succ_pos _) apart globals
  | share => exact .aside rfl rfl
  | @install world starting past which id version found outcome =>
    rcases World.install_cases id version outcome world with ⟨-, aside⟩ | ⟨-, -, leaves⟩
    · exact .aside aside.modules aside.active
    · exact leaves ▸ .publish id version
  | @deactivate world starting past id =>
    rcases World.deactivate_cases id world with ⟨-, aside⟩ | ⟨-, leaves⟩
    · exact .aside aside.modules aside.active
    · exact leaves ▸ .retract id

/-- What holds in every run of steps. -/
structure IsSane (setting : Setting) (loading : Loading κ) : Prop where
  /-- The marks of modules agree with the table of active modules. -/
  marked : loading.world.engine.IsMarked
  /-- Modules whose variables are getting their first values are there. -/
  starting : ∀ entry ∈ loading.starting, loading.world.engine.Owns entry.1 entry.2
  /-- The turnovers agree with the table of active modules. -/
  followed : Turnover.IsFollowed loading.past loading.world.engine.active?
  /-- The shared things are allowed. -/
  allowed : setting.allowed loading.world.engine.shared
  /-- Modules leave shared things that are allowed. -/
  holds : ∀ {version plan}, 0 < version → loading.world.engine.plan? version = some plan →
    setting.language.Holds setting.allowed plan.content

variable {setting : Setting} {spared : Option Nat} {loading after : Loading κ}

/-- A module that stands under a version leaves shared things that are allowed. -/
theorem IsSane.holds_module (sane : loading.IsSane setting) {version : Nat} {module : Module}
    (positive : 0 < version) (found : loading.world.engine.module? version = some module) :
    setting.language.Holds setting.allowed module.content := by
  have fine := sane.holds positive (Engine.plan?_of_module? found)
  exact fine

/-- What happens aside keeps a state sane. -/
theorem IsSane.aside {world after : World κ} {starting others : List (String × Nat)}
    {past : List Turnover} (sane : IsSane setting ⟨world, starting, past⟩)
    (aside : World.Aside world after)
    (given : ∀ entry ∈ others, world.engine.Owns entry.1 entry.2) :
    IsSane setting ⟨after, others, past⟩ where
  marked := sane.marked.of_eq aside.modules aside.active
  starting entry inside := by
    obtain ⟨positive, module, found, owner⟩ := given entry inside
    exact ⟨positive, module, (aside.module? _).trans found, owner⟩
  followed := by
    have same : after.engine.active? = world.engine.active? := funext aside.active?
    change Turnover.IsFollowed past after.engine.active?
    rw [same]
    exact sane.followed
  allowed := aside.shared ▸ sane.allowed
  holds positive planned := by
    refine sane.holds positive (Eq.trans ?_ planned)
    exact (congrArg (Option.map Module.plan) (aside.module? _)).symm

/-- A module is added to a sane state. -/
theorem IsSane.add {world after : World κ} {starting : List (String × Nat)}
    {past : List Turnover} (sane : IsSane setting ⟨world, starting, past⟩) {id : String}
    {content : Content} (adds : after.engine = world.engine.add id content)
    (fine : setting.language.Holds setting.allowed content) :
    IsSane setting ⟨after, starting, past⟩ where
  marked := by
    have marked : (world.engine.add id content).IsMarked := sane.marked.insert ..
    exact adds ▸ marked
  starting entry inside := adds ▸ (sane.starting entry inside).insert ..
  followed := adds ▸ sane.followed
  allowed := adds ▸ sane.allowed
  holds {version plan} positive planned := by
    change after.engine.plan? version = some plan at planned
    rw [adds, Engine.add_eq] at planned
    obtain ⟨module, found, rfl⟩ := Engine.exists_of_plan? planned
    have given := Engine.lt_of_module? found
    rw [Engine.nextVersion_insert] at given
    by_cases older : version < world.engine.nextVersion
    · rw [Engine.module?_insert older positive] at found
      exact sane.holds positive (Engine.plan?_of_module? found)
    · obtain rfl : version = world.engine.nextVersion := by omega
      rw [Engine.module?_insert_next] at found
      cases found
      exact fine

/-- A sane state whose modules are kept stays sane if its marks and turnovers agree. -/
theorem IsSane.of_keeps {world after : World κ} {starting others : List (String × Nat)}
    {past later : List Turnover} (sane : IsSane setting ⟨world, starting, past⟩)
    (keeps : world.engine.Keeps after.engine) (marked : after.engine.IsMarked)
    (fewer : ∀ entry ∈ others, entry ∈ starting)
    (followed : Turnover.IsFollowed later after.engine.active?)
    (allowed : setting.allowed after.engine.shared) : IsSane setting ⟨after, others, later⟩ where
  marked := marked
  starting entry inside := (sane.starting entry (fewer entry inside)).of_keeps keeps
  followed := followed
  allowed := allowed
  holds positive planned := sane.holds positive ((congrFun keeps.plan? _).symm.trans planned)

/-- A step keeps a sane state sane. -/
theorem IsSane.step (sane : loading.IsSane setting) (step : Step setting spared loading after) :
    after.IsSane setting := by
  cases step with
  | aside aside => exact sane.aside aside sane.starting
  | @reserve world starting past script =>
    rcases World.reserve_cases setting.language script world with
      aside | ⟨content, compiles, adds⟩
    · exact sane.aside aside sane.starting
    · exact sane.add adds (setting.holds compiles)
  | @approve world after starting past place module approves =>
    have aside : World.Aside world after := by
      have within := (World.within_approve (place + 1)).ends world
      rw [approves] at within
      exact within
    have owns : world.engine.Owns module.id (place + 1) :=
      ⟨Nat.succ_pos place, module, World.found_of_approve approves, rfl⟩
    refine sane.aside aside (List.forall_mem_append.2 ⟨sane.starting, ?_⟩)
    exact List.forall_mem_singleton.2 owns
  | @write world starting past place apart globals =>
    exact sane.of_keeps (Engine.keeps_withGlobals globals)
      (sane.marked.withGlobals (Nat.succ_pos place) globals) (fun _ => id) sane.followed
      sane.allowed
  | share fine =>
    exact sane.of_keeps ⟨rfl, rfl, rfl⟩ (sane.marked.of_eq rfl rfl) (fun _ => id)
      sane.followed fine
  | @install world starting past which id version found outcome =>
    have rest : ∀ entry ∈ starting.eraseIdx which, entry ∈ starting :=
      fun _ => List.mem_of_mem_eraseIdx
    rcases World.install_cases id version outcome world with ⟨fails, aside⟩ | ⟨works, fresh, leaves⟩
    · rw [Turnover.follows_of_ne fails]
      exact sane.aside aside fun entry inside => sane.starting entry (rest entry inside)
    · have owns : world.engine.Owns id version := sane.starting _ (List.mem_of_getElem? found)
      have keeps : world.engine.Keeps (world.engine.publish id version) :=
        Engine.keeps_publish ..
      have greater (current : Nat) (active : world.engine.active? id = some current) :
          current < version := by
        rw [Engine.isStale_of_active active, decide_eq_false_iff_not] at fresh
        omega
      rw [works]
      refine sane.of_keeps (leaves ▸ keeps) ?_ rest ?_ ?_
      · exact leaves ▸ sane.marked.publish owns
      · refine leaves ▸ sane.followed.activated greater (Engine.active?_publish ..) ?_
        exact Engine.active?_publish_ne _ _ _
      · exact leaves ▸ (Engine.shared_publish world.engine id version) ▸ sane.allowed
  | @deactivate world starting past id =>
    rcases World.deactivate_cases id world with ⟨fails, aside⟩ | ⟨works, leaves⟩
    · rw [Turnover.follows_of_ne fails]
      exact sane.aside aside sane.starting
    · have keeps : world.engine.Keeps (world.engine.retract id) := Engine.keeps_retract ..
      rw [works]
      refine sane.of_keeps (leaves ▸ keeps) ?_ (fun _ inside => inside) ?_ ?_
      · exact leaves ▸ sane.marked.retract id
      · refine leaves ▸ sane.followed.deactivated (Engine.active?_retract ..) ?_
        exact Engine.active?_retract_ne _ _
      · exact leaves ▸ (Engine.shared_retract world.engine id) ▸ sane.allowed

/-- A run keeps a sane state sane. -/
theorem IsSane.steps (sane : loading.IsSane setting) (steps : Steps setting spared loading after) :
    after.IsSane setting := by
  induction steps with
  | refl => exact sane
  | tail _ step ih => exact ih.step step

end Loading

end Lag
