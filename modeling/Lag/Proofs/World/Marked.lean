import Lag.Proofs.World.Functions

/-!
# Active modules and their marks

A module is marked while it is the active module of its identifier, and no longer. What was active
before is kept as a list of turnovers: which versions became active under which identifiers, and
which identifiers became inactive. While an identifier is not made inactive, only greater versions
follow the active one.
-/
namespace Lag

/-! ## Marks -/

namespace Engine

/-- A version is one of a module that was built for an identifier. -/
structure Owns (engine : Engine) (id : String) (version : Nat) : Prop where
  /-- Versions are positive. -/
  positive : 0 < version
  /-- The module is there. -/
  module : ∃ module, engine.module? version = some module ∧ module.id = id

/-- The marks of modules agree with the table of active modules. -/
structure IsMarked (engine : Engine) : Prop where
  /-- Modules stand under their versions. -/
  own : ∀ {version module}, 0 < version → engine.module? version = some module →
    module.version = version
  /-- A module is marked exactly while it is the active module of its identifier. -/
  mark : ∀ {version module}, 0 < version → engine.module? version = some module →
    (module.isLoaded = true ↔ engine.active? module.id = some version)
  /-- An active module was built for its identifier. -/
  owner : ∀ {id version}, engine.active? id = some version → engine.Owns id version

variable {engine after : Engine} {id : String} {version : Nat}

/-- A version has a module with its identifier. -/
theorem Owns.version_lt (owns : engine.Owns id version) : version < engine.nextVersion := by
  obtain ⟨module, found, -⟩ := owns.module
  exact lt_of_module? found

/-- A module keeps its identifier when nothing is built. -/
theorem Owns.of_keeps (owns : engine.Owns id version) (keeps : engine.Keeps after) :
    after.Owns id version := by
  obtain ⟨positive, module, found, owner⟩ := owns
  have planned : after.plan? version = some module.plan := by
    rw [keeps.plan?, plan?_of_module? found]
  obtain ⟨last, there, same⟩ := exists_of_plan? planned
  refine ⟨positive, last, there, ?_⟩
  rw [← last.id_plan, same, module.id_plan, owner]

/-- A module keeps its identifier when another one is added. -/
theorem Owns.insert (owns : engine.Owns id version) (other : String) (content : Content)
    (globals shared : Run.Store) : (engine.insert other content globals shared).Owns id version := by
  have older := owns.version_lt
  obtain ⟨positive, module, found, owner⟩ := owns
  refine ⟨positive, module, ?_, owner⟩
  rw [module?_insert older positive, found]

/-- An engine without modules has no marks. -/
theorem isMarked_fresh (limit : Nat) : IsMarked { limit := limit } where
  own _ found := by cases found
  mark _ found := by cases found
  owner active := by cases active

namespace IsMarked

variable (marked : engine.IsMarked)
include marked

/-- An active version is positive. -/
theorem positive {old : Nat} (active : engine.active? id = some old) : 0 < old :=
  (marked.owner active).positive

/-- The module of an active version stands under its own version. -/
theorem stands {module : Module} (active : engine.active? id = some version)
    (found : engine.module? version = some module) :
    engine.active? id = some module.version ∧ 0 < module.version ∧
      engine.module? module.version = some module ∧ module.id = id := by
  obtain ⟨positive, owned, there, owner⟩ := marked.owner active
  have own : module.version = version := marked.own positive found
  rw [there] at found
  subst own
  exact ⟨active, positive, there.trans found, Option.some.inj found ▸ owner⟩

/-- A call that finds its function found the active module, which stands under its own version. -/
theorem of_look {entry : String} {arguments : List Value} {call : Call}
    (finds : engine.look id entry arguments = .ok call) :
    engine.active? id = some call.module.version ∧ 0 < call.module.version ∧
      engine.module? call.module.version = some call.module ∧ call.module.id = id := by
  obtain ⟨version, active, found⟩ := exists_of_look finds
  exact marked.stands active found

/-- Marks agree after a change that builds nothing, if they agree for each module. -/
theorem of_keeps (keeps : engine.Keeps after)
    (mark : ∀ {version module}, 0 < version → after.module? version = some module →
      (module.isLoaded = true ↔ after.active? module.id = some version))
    (owner : ∀ {id version}, after.active? id = some version → engine.Owns id version) :
    after.IsMarked where
  own {version module} positive found := by
    have planned : engine.plan? version = some module.plan := by
      rw [← keeps.plan?, plan?_of_module? found]
    obtain ⟨first, there, same⟩ := exists_of_plan? planned
    have own : first.version = version := marked.own positive there
    rw [← module.version_plan, ← same, first.version_plan, own]
  mark := mark
  owner active := (owner active).of_keeps keeps

/-- A change of neither the modules nor the active ones leaves the marks as they are. -/
theorem of_eq (modules : after.modules = engine.modules) (active : after.active = engine.active) :
    after.IsMarked := by
  have found (version : Nat) : after.module? version = engine.module? version := by
    rw [module?, modules, module?]
  have same (id : String) : after.active? id = engine.active? id := by
    rw [active?, active, active?]
  refine ⟨fun positive there => ?_, fun positive there => ?_, fun there => ?_⟩
  · rw [found] at there
    exact marked.own positive there
  · rw [found] at there
    rw [same]
    exact marked.mark positive there
  · rw [same] at there
    obtain ⟨positive, module, is, owner⟩ := marked.owner there
    exact ⟨positive, module, (found _).trans is, owner⟩

/-- A module that is added is not marked. -/
theorem insert (id : String) (content : Content) (globals shared : Run.Store) :
    (engine.insert id content globals shared).IsMarked := by
  have cases {version : Nat} {module : Module} (positive : 0 < version)
      (found : (engine.insert id content globals shared).module? version = some module) :
      engine.module? version = some module ∨ (version = engine.nextVersion ∧
        module = ⟨id, engine.nextVersion, content, globals, false⟩) := by
    have given := lt_of_module? found
    rw [nextVersion_insert] at given
    by_cases older : version < engine.nextVersion
    · rw [module?_insert older positive] at found
      exact .inl found
    · have last : version = engine.nextVersion := by omega
      subst last
      rw [module?_insert_next] at found
      exact .inr ⟨rfl, (Option.some.inj found).symm⟩
  refine ⟨fun positive found => ?_, fun positive found => ?_, fun active => ?_⟩
  · rcases cases positive found with there | ⟨rfl, rfl⟩
    · exact marked.own positive there
    · rfl
  · rcases cases positive found with there | ⟨rfl, rfl⟩
    · exact marked.mark positive there
    · -- The next version is not active, for it was not given before.
      constructor
      · intro loaded
        cases loaded
      · intro active
        have given := (marked.owner active).version_lt
        omega
  · exact (marked.owner active).insert id content globals shared

/-- Variables take no part in marks. -/
theorem withGlobals (positive : 0 < version) (globals : Run.Store) :
    (engine.withGlobals version globals).IsMarked := by
  refine marked.of_keeps (keeps_withGlobals globals) (fun {other module} given found => ?_)
    marked.owner
  unfold Engine.withGlobals at found
  rw [module?_withModule _ positive given] at found
  split at found
  · obtain ⟨before, there, rfl⟩ := Option.map_eq_some_iff.1 found
    have mark := marked.mark given there
    exact mark
  · exact marked.mark given found

/-- When an identifier loses its active module, the others keep their marks. -/
theorem unmark {other : Nat} {module : Module} (given : 0 < other)
    (found : (engine.unmark id).module? other = some module) :
    (module.isLoaded = true ↔ module.id ≠ id ∧ engine.active? module.id = some other) := by
  rw [module?_unmark marked.positive given] at found
  by_cases active : engine.active? id = some other
  · rw [if_pos active] at found
    obtain ⟨before, there, rfl⟩ := Option.map_eq_some_iff.1 found
    have owner : before.id = id := by
      obtain ⟨-, owned, is, owner⟩ := marked.owner active
      rw [there] at is
      exact Option.some.inj is ▸ owner
    simp [owner]
  · rw [if_neg active] at found
    rw [marked.mark given found]
    constructor
    · intro holds
      refine ⟨?_, holds⟩
      rintro rfl
      exact active holds
    · exact And.right

/-- The module that becomes active is marked in place of the one that was active before. -/
theorem publish (owns : engine.Owns id version) : (engine.publish id version).IsMarked := by
  refine marked.of_keeps (keeps_publish ..) (fun {other module} given found => ?_)
    fun {name other} active => ?_
  · rw [module?_publish owns.positive given] at found
    by_cases same : other = version
    · subst same
      rw [if_pos rfl] at found
      obtain ⟨before, there, rfl⟩ := Option.map_eq_some_iff.1 found
      have kept : before.id = id := by
        have unmarked : engine.Keeps (engine.unmark id) := by
          unfold Engine.unmark
          split
          · exact keeps_withLoaded false
          · exact .refl engine
        obtain ⟨-, owned, is, owner⟩ := owns.of_keeps unmarked
        rw [there] at is
        exact Option.some.inj is ▸ owner
      simp [kept]
    · rw [if_neg same] at found
      rw [marked.unmark given found]
      by_cases own : module.id = id
      · have apart : version ≠ other := fun is => same is.symm
        simp [own, apart]
      · rw [active?_publish_ne _ _ _ own]
        simp [own]
  · by_cases same : name = id
    · subst same
      rw [active?_publish] at active
      exact Option.some.inj active ▸ owns
    · rw [active?_publish_ne _ _ _ same] at active
      exact marked.owner active

/-- The module of an identifier that becomes inactive loses its mark. -/
theorem retract (id : String) : (engine.retract id).IsMarked := by
  refine marked.of_keeps (keeps_retract ..) (fun {other module} given found => ?_)
    fun {name other} active => ?_
  · rw [module?_retract] at found
    rw [marked.unmark given found]
    by_cases own : module.id = id
    · simp [own]
    · rw [active?_retract_ne _ _ own]
      simp [own]
  · by_cases same : name = id
    · subst same
      rw [active?_retract] at active
      cases active
    · rw [active?_retract_ne _ _ same] at active
      exact marked.owner active

end IsMarked

end Engine

/-! ## Turnovers -/

/-- A change of what is active. -/
inductive Turnover where
  /-- A version became active under an identifier. -/
  | activated (id : String) (version : Nat)
  /-- An identifier became inactive. -/
  | deactivated (id : String)
  deriving DecidableEq, Repr

namespace Turnover

/-- The versions that became active under an identifier since it was last made inactive. The list of
turnovers and the result begin with the last one. -/
def versions (id : String) : List Turnover → List Nat
  | [] => []
  | .activated other version :: past =>
    if other = id then version :: versions id past else versions id past
  | .deactivated other :: past => if other = id then [] else versions id past

variable {id : String} {past : List Turnover}

/-- The versions before some turnovers are among the later ones, unless the identifier was made
inactive in between. -/
theorem versions_suffix {middle : List Turnover} (kept : .deactivated id ∉ middle) :
    versions id past <:+ versions id (middle ++ past) := by
  induction middle with
  | nil => exact List.suffix_refl _
  | cons turnover middle ih =>
    obtain ⟨first, kept⟩ := not_or.1 (mt List.mem_cons.2 kept)
    have rest := ih kept
    cases turnover with
    | activated other version =>
      rw [List.cons_append, versions]
      split
      · exact rest.trans (List.suffix_cons _ _)
      · exact rest
    | deactivated other =>
      have different : other ≠ id := by
        rintro rfl
        exact first rfl
      rw [List.cons_append, versions, if_neg different]
      exact rest

/-- What the turnovers of a run say: an identifier's active version is the last one, and while it
was not made inactive only greater versions followed. -/
structure IsFollowed (past : List Turnover) (active : String → Option Nat) : Prop where
  /-- The active version is the last one. -/
  last : ∀ id, active id = (versions id past).head?
  /-- The versions increased at any time. -/
  rising : ∀ {earlier}, earlier <:+ past → ∀ id, (versions id earlier).Pairwise (· > ·)

namespace IsFollowed

variable {active : String → Option Nat} (followed : IsFollowed past active)
include followed

/-- A greater version becomes active. -/
theorem activated {version : Nat}
    (greater : ∀ current, active id = some current → current < version)
    {after : String → Option Nat} (becomes : after id = some version)
    (stays : ∀ {other}, other ≠ id → after other = active other) :
    IsFollowed (.activated id version :: past) after := by
  refine ⟨fun other => ?_, fun {earlier} before other => ?_⟩
  · by_cases same : id = other
    · subst same
      rw [versions, if_pos rfl, becomes, List.head?_cons]
    · rw [versions, if_neg same, stays (Ne.symm same), followed.last]
  · rcases List.suffix_cons_iff.1 before with rfl | before
    · by_cases same : id = other
      · subst same
        have rising := followed.rising (List.suffix_refl past) id
        have last := followed.last id
        rw [versions, if_pos rfl]
        cases since : versions id past with
        | nil => exact List.pairwise_singleton _ _
        | cons current rest =>
          rw [since] at rising last
          have above : current < version := greater current last
          refine List.pairwise_cons.2 ⟨fun older inside => ?_, rising⟩
          rcases List.mem_cons.1 inside with rfl | earlier
          · exact above
          · exact Nat.lt_trans ((List.pairwise_cons.1 rising).1 older earlier) above
      · rw [versions, if_neg same]
        exact followed.rising (List.suffix_refl past) other
    · exact followed.rising before other

/-- An identifier becomes inactive. -/
theorem deactivated {after : String → Option Nat} (becomes : after id = none)
    (stays : ∀ {other}, other ≠ id → after other = active other) :
    IsFollowed (.deactivated id :: past) after := by
  refine ⟨fun other => ?_, fun {earlier} before other => ?_⟩
  · by_cases same : id = other
    · subst same
      rw [versions, if_pos rfl, becomes, List.head?_nil]
    · rw [versions, if_neg same, stays (Ne.symm same), followed.last]
  · rcases List.suffix_cons_iff.1 before with rfl | before
    · rw [versions]
      split
      · exact List.Pairwise.nil
      · exact followed.rising (List.suffix_refl past) other
    · exact followed.rising before other

/-- Of two versions that became active under an identifier, which was not made inactive in between,
the later one is greater. -/
theorem lt {later middle earlier : List Turnover} {older newer : Nat}
    (is : past = later ++ .activated id newer :: (middle ++ .activated id older :: earlier))
    (kept : .deactivated id ∉ middle) : older < newer := by
  have rising := followed.rising ⟨later, is.symm⟩ id
  rw [versions, if_pos rfl] at rising
  have first : older ∈ versions id (.activated id older :: earlier) := by
    rw [versions, if_pos rfl]
    exact List.mem_cons_self
  exact (List.pairwise_cons.1 rising).1 older ((versions_suffix kept).subset first)

end IsFollowed

/-- Nothing was active when nothing happened. -/
theorem isFollowed_nil {active : String → Option Nat} (inactive : ∀ id, active id = none) :
    IsFollowed [] active := by
  refine ⟨inactive, fun before id => ?_⟩
  rw [List.suffix_nil.1 before]
  exact List.Pairwise.nil

end Turnover

end Lag
