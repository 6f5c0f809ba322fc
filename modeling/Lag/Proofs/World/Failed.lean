import Lag.Proofs.World.Interleaved

/-!
# Loads and reloads that fail

A load or a reload may fail when its script is compiled, when the variables of its module get their
first values, and when its script is stored. All but the last of these leave what is active and
stored as it was. The last one happens to reloads of scripts without an identifier only, and then
the module is active already.
-/
namespace Lag

/-- Whether a script had no identifier. -/
def Fault.isInvalidId : Fault → Bool
  | .invalidId _ => true
  | _ => false

/-- Whether a load may have failed after its module was built. -/
def Fault.isLate : Fault → Bool
  | .initial _ _ _ | .escaped _ => true
  | _ => false

/-- An accident with the first values comes after the module was built. -/
theorem Fault.isLate_ofAccident_initial (accident : Run.Accident) (id : String) (version : Nat) :
    (Fault.ofAccident accident (.initial id version accident)).isLate = true := by
  unfold ofAccident
  split <;> rfl

namespace Engine

variable {engine : Engine}

/-- Both steps of a load or a reload. -/
def perform (language : HostLanguage) (again : Bool) (script : Script) (engine : Engine) :
    Except Fault (Option Nat) × Engine :=
  match engine.start language again script with
  | (.ok version, built) => built.finish language ⟨again, script, version⟩
  | (.error fault, left) => (.error fault, left)

/-- How a load or a reload may fail, with what it leaves behind. -/
inductive Fails (language : HostLanguage) (engine : Engine) (again : Bool) (script : Script) :
    Fault → Engine → Prop where
  /-- No module was built. -/
  | unbuilt (fault : Fault) : Fails language engine again script fault engine
  /-- The text of the module met an accident. -/
  | spoilt {content : Content} (compiles : language.compile script engine.limit = .ok content)
    (accident : Run.Accident) (globals shared : Run.Store) :
    Fails language engine again script
      (.ofAccident accident (.compile (.body script accident)))
      (engine.insert script.id content globals shared)
  /-- The variables of the module could not get their first values. -/
  | unready {content : Content} (compiles : language.compile script engine.limit = .ok content)
    (accident : Run.Accident) (globals shared : Run.Store) :
    Fails language engine again script
      (.ofAccident accident (.initial script.id engine.nextVersion accident))
      ((engine.insert script.id content globals shared).base ⟨again, script, engine.nextVersion⟩)
  /-- The module is active, but the script could not be stored. -/
  | unsaved (isAgain : again = true) (invalid : script.isValid = false) (left : Engine) :
    Fails language engine again script (.invalidId "save") left

/-- A load or a reload fails in one of these ways. -/
theorem fails {language : HostLanguage} {again : Bool} {script : Script} {fault : Fault}
    {left : Engine} (failed : engine.perform language again script = (.error fault, left)) :
    engine.Fails language again script fault left := by
  unfold perform at failed
  rcases start_cases language again script engine with
    ⟨reason, unbuilt⟩ | ⟨valid, content, compiles, outcome, others, things, -, built⟩
  · rw [unbuilt] at failed
    obtain ⟨-, rfl⟩ := Prod.mk.inj failed
    exact .unbuilt fault
  · rw [built] at failed
    cases outcome with
    | error accident =>
      obtain ⟨is, rfl⟩ := Prod.mk.inj failed
      obtain rfl := Except.error.inj is
      exact .spoilt compiles accident others things
    | ok value =>
      let build : Build := ⟨again, script, engine.nextVersion⟩
      let added := engine.insert script.id content others things
      change added.finish language build = _ at failed
      rw [finish_eq] at failed
      split at failed
      · cases failed
      · have planned : (added.base build).plan? engine.nextVersion =
            some ⟨script.id, engine.nextVersion, content, [], false⟩ := by
          rw [(keeps_base _ _).plan?, plan?_of_module? (module?_insert_next ..)]
          rfl
        have commits := commits language planned script
        have set (globals shared : Run.Store) :
            (added.base build).settle engine.nextVersion globals shared =
              (engine.insert script.id content globals shared).base build := by
          rw [settle_base, settle_insert]
        revert failed commits
        generalize commit language script _ _ = ending
        intro failed commits
        cases commits with
        | stale => cases failed
        | failed _ accident globals shared =>
          obtain ⟨is, rfl⟩ := Prod.mk.inj failed
          obtain rfl := Except.error.inj is
          exact set globals shared ▸ .unready compiles accident globals shared
        | unsaved _ invalid =>
          obtain ⟨is, -⟩ := Prod.mk.inj failed
          obtain rfl := Except.error.inj is
          exact .unsaved (again_of_invalid valid invalid) invalid left
        | saved => cases failed

/-- What a failure should leave as it was: the active modules, the stored scripts, the identifiers
that were deleted, and every module that was there. -/
structure Unchanged (before after : Engine) : Prop where
  /-- The active modules are the same. -/
  active : after.active = before.active
  /-- The stored scripts are the same. -/
  stored : after.stored = before.stored
  /-- The deleted identifiers are the same. -/
  deleted : after.deleted = before.deleted
  /-- The limit is the same. -/
  limit : after.limit = before.limit
  /-- The modules are the same, with their variables and whether they are active. -/
  module? : ∀ version, 0 < version → version < before.nextVersion →
    after.module? version = before.module? version

/-- Nothing changes. -/
theorem Unchanged.refl (engine : Engine) : engine.Unchanged engine :=
  ⟨rfl, rfl, rfl, rfl, fun _ _ _ => rfl⟩

/-- A module may be added. -/
theorem unchanged_insert (engine : Engine) (id : String) (content : Content)
    (globals shared : Run.Store) : engine.Unchanged (engine.insert id content globals shared) :=
  ⟨rfl, rfl, rfl, rfl, fun _ positive given => module?_insert given positive⟩

end Engine

namespace World

variable {κ : Type} {hooks : Hooks κ} {world after : World κ} {script : Script}

/-- Both steps of a load or a reload end as the engine says. -/
theorem Ends.perform (quiet : hooks.Quiet) (again : Bool) (script : Script) :
    Ends (World.start hooks again script >>= fun version =>
        World.finish hooks ⟨again, script, version⟩) world
      (world.engine.perform hooks.language again script) := by
  have starts : Ends (World.start hooks again script) world _ := Ends.start quiet again script
  unfold Engine.perform
  rcases Engine.start_cases hooks.language again script world.engine with
    ⟨fault, unbuilt⟩ | ⟨-, content, -, outcome, globals, shared, -, built⟩
  · rw [unbuilt] at starts ⊢
    exact starts.bind_error
  · rw [built] at starts ⊢
    cases outcome with
    | error accident => exact starts.bind_error
    | ok value =>
      refine starts.bind fun last same => ?_
      have finishes : Ends (World.finish hooks _) last _ :=
        Ends.finish quiet ⟨again, script, world.engine.nextVersion⟩ fun module found => by
          rw [same, Engine.module?_insert_next] at found
          exact Option.some.inj found ▸ rfl
      rwa [same] at finishes

/-- A load ends as the engine says. -/
theorem Ends.load (quiet : hooks.Quiet) (script : Script) :
    Ends (World.load hooks script) world (world.engine.perform hooks.language false script) := by
  rw [load_eq]
  exact Ends.perform quiet false script

/-- A reload ends as the engine says. -/
theorem Ends.reload (quiet : hooks.Quiet) (script : Script) :
    Ends (World.reload hooks script) world (world.engine.perform hooks.language true script) := by
  rw [reload_eq]
  exact Ends.perform quiet true script

/-- A reload that fails changes nothing, unless the script could not be stored. -/
theorem reload_unchanged (quiet : hooks.Quiet) {fault : Fault}
    (failed : ended (reload hooks script) world = (.error fault, after))
    (stored : fault.isInvalidId = false) : world.engine.Unchanged after.engine := by
  have ends : Ends (reload hooks script) world _ := Ends.reload quiet script
  have pair := ends.pair
  rw [failed] at pair
  have fails := Engine.fails pair.symm
  revert fails
  generalize after.engine = left
  intro fails
  cases fails with
  | unbuilt => exact .refl _
  | spoilt => exact Engine.unchanged_insert ..
  | unready => exact Engine.unchanged_insert ..
  | unsaved => cases stored

/-- A script whose variable gets no first value. -/
def unready : Script := ⟨"a", .lag, "let x = 1 / 0;", none⟩

/-- The reload of a script whose variable gets no first value changes nothing. -/
theorem reload_unchanged_unready : ∃ fault after,
    ended (reload Hooks.none unready) (World.initial ()) = (.error fault, after) ∧
      fault.isInvalidId = false ∧ (World.initial ()).engine.Unchanged after.engine := by
  have fails : (match (ended (reload Hooks.none unready) (World.initial ())).1 with
      | .error fault => !fault.isInvalidId
      | .ok _ => false) = true := by decide +kernel
  cases ending : ended (reload Hooks.none unready) (World.initial ()) with
  | mk outcome after =>
    rw [ending] at fails
    cases outcome with
    | error fault =>
      have stored : fault.isInvalidId = false := by simpa using fails
      exact ⟨fault, after, rfl, stored, reload_unchanged (Hooks.quiet_none .none) ending stored⟩
    | ok result => cases fails

/-- A script without an identifier. -/
def nameless : Script := ⟨"", .lag, "fn f() -> int \x7b return 1; \x7d", none⟩

/-- The reload of a script without an identifier fails, and its module is active afterwards. -/
theorem reload_changed_nameless : ∃ fault after,
    ended (reload Hooks.none nameless) (World.initial ()) = (.error fault, after) ∧
      ¬ (World.initial ()).engine.Unchanged after.engine := by
  have checks : (match ended (reload Hooks.none nameless) (World.initial ()) with
      | (.error _, after) => after.engine.active? "" == some 1
      | (.ok _, _) => false) = true := by
    decide +kernel
  cases ending : ended (reload Hooks.none nameless) (World.initial ()) with
  | mk outcome after =>
    rw [ending] at checks
    cases outcome with
    | error fault =>
      refine ⟨fault, after, rfl, fun same => ?_⟩
      have inactive : after.engine.active? "" = none := by
        rw [Engine.active?, same.active]
        rfl
      have active : after.engine.active? "" = some 1 := eq_of_beq checks
      rw [inactive] at active
      cases active
    | ok result => cases checks

end World

end Lag
