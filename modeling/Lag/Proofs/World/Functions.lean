import Lag.Proofs.World.Ended
import Lag.Proofs.World.Tables

/-!
# Operations as functions of the engine

When nobody interferes, an operation is a function of the engine: the files, the watch and what was
announced take no part in it, and neither does what is done with the lines that a script writes. The
functions are given here with the ways in which they end. That the operations are these functions is
shown elsewhere.
-/
namespace Lag

/-- Lines go nowhere, and the shared things are all that there is of the world. -/
def silent : Run.Port Run.Store := ⟨fun _ globals shared => (globals, shared), id, fun shared _ => shared⟩

namespace HostLanguage

/-- What a module comes to on a request when nobody disturbs it, with its variables and the shared
things after it. -/
def alone (language : HostLanguage) (content : Content) (request : Run.Request)
    (globals shared : Run.Store) : Except Run.Accident Value × Run.Store × Run.Store :=
  language.serve content request silent globals shared

/-- What the text of a module comes to, with its variables and the shared things after it. -/
def prepared (language : HostLanguage) (content : Content) (shared : Run.Store) :
    Except Run.Accident Value × Run.Store × Run.Store :=
  match content with
  | .lag _ => (.ok .none, [], shared)
  | .host _ _ => language.alone content .body [] shared

end HostLanguage

namespace Engine

/-- Whether a version is older than the active one of an identifier. -/
def isStale (engine : Engine) (id : String) (version : Nat) : Bool :=
  (engine.active? id).any (version ≤ ·)

/-- Versions up to the active one are stale. -/
theorem isStale_of_active {engine : Engine} {id : String} {version current : Nat}
    (active : engine.active? id = some current) :
    engine.isStale id version = decide (version ≤ current) := by
  rw [isStale, active]
  rfl

/-- Nothing is stale under an identifier without an active module. -/
theorem isStale_of_inactive {engine : Engine} {id : String} {version : Nat}
    (inactive : engine.active? id = none) : engine.isStale id version = false := by
  rw [isStale, inactive]
  rfl

/-- Build a module for a script. -/
def build (language : HostLanguage) (script : Script) (engine : Engine) :
    Except Fault Nat × Engine :=
  match language.compile script engine.limit with
  | .error fault => (.error (.compile fault), engine)
  | .ok content =>
    match language.prepared content engine.shared with
    | (.error accident, globals, shared) =>
      (.error (.ofAccident accident (.compile (.body script accident))),
        engine.insert script.id content globals shared)
    | (.ok _, globals, shared) =>
      (.ok engine.nextVersion, engine.insert script.id content globals shared)

/-- Make a module active whose variables have got their first values. -/
def swap (id : String) (version : Nat) (globals shared : Run.Store) (engine : Engine) : Engine :=
  (engine.settle version globals shared).publish id version

/-- Give the variables of a module their first values and make it active; whether it is, rather
than a newer one. -/
def activate (language : HostLanguage) (version : Nat) (engine : Engine) :
    Except Fault Bool × Engine :=
  match engine.module? version with
  | none => (.ok false, engine)
  | some module =>
    if engine.isStale module.id version then (.ok false, engine)
    else
      match language.alone module.content .initial (engine.globalsOf version) engine.shared with
      | (.error accident, globals, shared) =>
        (.error (.ofAccident accident (.initial module.id version accident)),
          engine.settle version globals shared)
      | (.ok _, globals, shared) => (.ok true, engine.swap module.id version globals shared)

/-- A module that is older than the active one does not become active. -/
theorem activate_of_stale (language : HostLanguage) {engine : Engine} {version : Nat}
    {module : Module} (found : engine.module? version = some module)
    (stale : engine.isStale module.id version = true) :
    engine.activate language version = (.ok false, engine) := by
  unfold activate
  rw [found]
  exact if_pos stale

/-- Any other module becomes active if its variables get their first values. -/
theorem activate_of_fresh (language : HostLanguage) {engine : Engine} {version : Nat}
    {module : Module} (found : engine.module? version = some module)
    (fresh : engine.isStale module.id version = false) :
    engine.activate language version =
      match language.alone module.content .initial (engine.globalsOf version) engine.shared with
      | (.error accident, globals, shared) =>
        (.error (.ofAccident accident (.initial module.id version accident)),
          engine.settle version globals shared)
      | (.ok _, globals, shared) => (.ok true, engine.swap module.id version globals shared) := by
  unfold activate
  rw [found]
  exact if_neg (by rw [fresh]; exact Bool.false_ne_true)

/-- Make a module active, and store the script that it was built from; whether it is active. -/
def commit (language : HostLanguage) (script : Script) (version : Nat) (engine : Engine) :
    Except Fault Bool × Engine :=
  match engine.activate language version with
  | (.ok true, engine) =>
    if script.isValid then (.ok true, engine.store script)
    else (.error (.invalidId "save"), engine)
  | (outcome, engine) => (outcome, engine)

/-- Tell the version of a module that became active. -/
def told (version : Nat) : Except Fault Bool × Engine → Except Fault (Option Nat) × Engine
  | (.ok true, engine) => (.ok (some version), engine)
  | (.ok false, engine) => (.ok none, engine)
  | (.error fault, engine) => (.error fault, engine)

/-- What is told changes nothing. -/
theorem told_snd (version : Nat) (ending : Except Fault Bool × Engine) :
    (told version ending).2 = ending.2 := by
  obtain ⟨outcome, engine⟩ := ending
  match outcome with
  | .ok true => rfl
  | .ok false => rfl
  | .error fault => rfl

/-- Commit the module of a load. -/
def commitLoad (language : HostLanguage) (script : Script) (version : Nat) (engine : Engine) :
    Except Fault (Option Nat) × Engine :=
  told version ((engine.revive script.id).commit language script version)

/-- Commit the module of a reload, unless the script was deleted. -/
def commitReload (language : HostLanguage) (script : Script) (version : Nat) (engine : Engine) :
    Except Fault (Option Nat) × Engine :=
  if engine.deleted.contains script.id then (.ok none, engine)
  else told version (engine.commit language script version)

/-- Forget a stored script and make it inactive. -/
def forget (id : String) (engine : Engine) : Engine :=
  let forgotten := if engine.stored.has id then engine.unstore id else engine
  if (engine.active? id).isSome then forgotten.retract id else forgotten

/-- Forget a script and make it inactive, which is remembered if there was anything to forget. -/
def delete (id : String) (engine : Engine) : Except Fault Bool × Engine :=
  if engine.stored.has id || (engine.active? id).isSome then (.ok true, (engine.forget id).bury id)
  else (.ok false, engine.forget id)

/-- The first step of a load or a reload. -/
def start (language : HostLanguage) (again : Bool) (script : Script) (engine : Engine) :
    Except Fault Nat × Engine :=
  if !again && !script.isValid then (.error (.invalidId "load"), engine)
  else engine.build language script

/-- The last step of a load or a reload. -/
def finish (language : HostLanguage) (build : Build) (engine : Engine) :
    Except Fault (Option Nat) × Engine :=
  if build.again then engine.commitReload language build.script build.version
  else engine.commitLoad language build.script build.version

/-- The first step of a call. -/
def look (id entry : String) (arguments : List Value) (engine : Engine) : Except Fault Call :=
  match (engine.active? id).bind engine.module? with
  | none => .error (.notLoaded id)
  | some module =>
    match module.content.find? module.globals entry with
    | none => .error (.noEntry id entry (World.sortTexts (module.content.exports module.globals)))
    | some function => .ok ⟨id, entry, module, function, arguments⟩

/-- The last step of a call. -/
def answer (language : HostLanguage) (call : Call) (engine : Engine) :
    Except Fault Value × Engine :=
  let version := call.module.version
  let (outcome, globals, shared) := language.alone call.module.content
    (.call call.function call.arguments) (engine.globalsOf version) engine.shared
  (outcome.mapError fun accident => .ofAccident accident (.script call.id call.entry accident),
    engine.settle version globals shared)

/-! ## How functions end -/

/-- What starts for a script that is not valid is a reload. -/
theorem again_of_invalid {again : Bool} {script : Script}
    (valid : again = false → script.isValid = true) (invalid : script.isValid = false) :
    again = true := by
  cases again with
  | true => rfl
  | false => exact absurd (valid rfl) (by rw [invalid]; exact Bool.false_ne_true)

/-- The start of a load or a reload fails and leaves the engine alone, or it adds a module for the
script. A load does so only for a script with an identifier, and the text of a module may still meet
an accident. -/
theorem start_cases (language : HostLanguage) (again : Bool) (script : Script) (engine : Engine) :
    (∃ fault, engine.start language again script = (.error fault, engine)) ∨
      (again = false → script.isValid = true) ∧ ∃ content,
        language.compile script engine.limit = .ok content ∧ ∃ outcome globals shared,
          language.prepared content engine.shared = (outcome, globals, shared) ∧
            engine.start language again script =
              (match outcome with
                | .error accident => .error (.ofAccident accident (.compile (.body script accident)))
                | .ok _ => .ok engine.nextVersion,
              engine.insert script.id content globals shared) := by
  unfold start
  split
  · exact .inl ⟨_, rfl⟩
  · rename_i allowed
    have valid (load : again = false) : script.isValid = true := by simpa [load] using allowed
    unfold build
    cases language.compile script engine.limit with
    | error fault => exact .inl ⟨_, rfl⟩
    | ok content =>
      refine .inr ⟨valid, content, rfl, ?_⟩
      dsimp only
      obtain ⟨outcome, globals, shared⟩ := language.prepared content engine.shared
      cases outcome with
      | error accident => exact ⟨_, globals, shared, rfl, rfl⟩
      | ok value => exact ⟨_, globals, shared, rfl, rfl⟩

/-- How the commit of a module with an identifier and a version may end. -/
inductive Commits (engine : Engine) (script : Script) (id : String) (version : Nat) :
    Except Fault Bool × Engine → Prop where
  /-- A newer module, or the module itself, is active. -/
  | stale (older : engine.isStale id version = true) :
    Commits engine script id version (.ok false, engine)
  /-- The variables could not get their first values. -/
  | failed (fresh : engine.isStale id version = false) (accident : Run.Accident)
    (globals shared : Run.Store) :
    Commits engine script id version
      (.error (.ofAccident accident (.initial id version accident)),
        engine.settle version globals shared)
  /-- The module became active, but its script cannot be stored. -/
  | unsaved (fresh : engine.isStale id version = false) (invalid : script.isValid = false)
    (globals shared : Run.Store) :
    Commits engine script id version
      (.error (.invalidId "save"), engine.swap id version globals shared)
  /-- The module became active, and its script is stored. -/
  | saved (fresh : engine.isStale id version = false) (valid : script.isValid = true)
    (globals shared : Run.Store) :
    Commits engine script id version
      (.ok true, (engine.swap id version globals shared).store script)

/-- The commit of a module ends in one of these ways. -/
theorem commits (language : HostLanguage) {engine : Engine} {version : Nat} {plan : Module}
    (planned : engine.plan? version = some plan) (script : Script) :
    Commits engine script plan.id version (engine.commit language script version) := by
  obtain ⟨module, found, rfl⟩ := exists_of_plan? planned
  unfold commit
  cases stale : engine.isStale module.id version with
  | true =>
    rw [activate_of_stale language found stale]
    exact .stale stale
  | false =>
    rw [activate_of_fresh language found stale]
    generalize language.alone module.content .initial (engine.globalsOf version) engine.shared =
      ending
    obtain ⟨outcome, globals, shared⟩ := ending
    cases outcome with
    | error accident => exact .failed stale accident globals shared
    | ok _ =>
      dsimp only
      cases valid : script.isValid with
      | true => exact .saved stale valid globals shared
      | false => exact .unsaved stale valid globals shared

section

variable (engine : Engine) (id : String) (version : Nat) (globals shared : Run.Store)

/-- The module is active. -/
@[simp] theorem active?_swap : (engine.swap id version globals shared).active? id = some version :=
  active?_publish ..

/-- Other modules stay active. -/
theorem active?_swap_ne {other : String} (different : other ≠ id) :
    (engine.swap id version globals shared).active? other = engine.active? other :=
  active?_publish_ne _ _ _ different

/-- Nothing is built. -/
theorem keeps_swap : engine.Keeps (engine.swap id version globals shared) :=
  (keeps_settle globals shared).trans (keeps_publish _ id version)

/-- Scripts stay stored. -/
@[simp] theorem stored_swap : (engine.swap id version globals shared).stored = engine.stored :=
  stored_publish ..

/-- Identifiers stay deleted. -/
@[simp] theorem deleted_swap : (engine.swap id version globals shared).deleted = engine.deleted :=
  deleted_publish ..

end

namespace Commits

variable {engine : Engine} {script : Script} {id : String} {version : Nat}
  {ending : Except Fault Bool × Engine}

/-- A commit builds nothing. -/
theorem keeps (commits : Commits engine script id version ending) : engine.Keeps ending.2 := by
  cases commits with
  | stale => exact .refl engine
  | failed => exact keeps_settle ..
  | unsaved => exact keeps_swap ..
  | saved _ _ globals shared =>
    obtain ⟨plan, next, limit⟩ := keeps_swap engine id version globals shared
    exact ⟨plan, next, limit⟩

/-- A commit forgets and remembers no deleted identifier. -/
theorem deleted (commits : Commits engine script id version ending) :
    ending.2.deleted = engine.deleted := by
  cases commits with
  | stale => rfl
  | failed => rfl
  | unsaved => exact deleted_swap ..
  | saved _ _ globals shared => exact deleted_swap engine id version globals shared

/-- A commit makes no other module active. -/
theorem active? (commits : Commits engine script id version ending) {other : String} {found : Nat}
    (active : ending.2.active? other = some found) :
    engine.active? other = some found ∨ other = id ∧ found = version := by
  have swapped (globals shared : Run.Store)
      (active : (engine.swap id version globals shared).active? other = some found) :
      engine.active? other = some found ∨ other = id ∧ found = version := by
    by_cases same : other = id
    · subst same
      rw [active?_swap] at active
      exact .inr ⟨rfl, (Option.some.inj active).symm⟩
    · rw [active?_swap_ne _ _ _ _ _ same] at active
      exact .inl active
  cases commits with
  | stale => exact .inl active
  | failed => exact .inl active
  | unsaved _ _ globals shared => exact swapped globals shared active
  | saved _ _ globals shared => exact swapped globals shared active

/-- A commit makes no other identifier inactive. -/
theorem active?_ne (commits : Commits engine script id version ending) {other : String}
    (different : other ≠ id) : ending.2.active? other = engine.active? other := by
  cases commits with
  | stale => rfl
  | failed => rfl
  | unsaved => exact active?_swap_ne _ _ _ _ _ different
  | saved _ _ globals shared => exact active?_swap_ne engine _ _ globals shared different

/-- A commit stores no script under another identifier. -/
theorem stored_ne (commits : Commits engine script id version ending) {other : String}
    (different : other ≠ script.id) :
    ending.2.stored.find? other = engine.stored.find? other := by
  cases commits with
  | stale => rfl
  | failed => rfl
  | unsaved => rw [stored_swap]
  | saved =>
    refine (Table.find?_put_ne _ _ different).trans ?_
    rw [stored_swap]

end Commits

/-- What the commit of a build starts from: a load forgets that its script was deleted. -/
def base (build : Build) (engine : Engine) : Engine :=
  if build.again then engine else engine.revive build.script.id

/-- Nothing is built before a commit. -/
theorem keeps_base (build : Build) (engine : Engine) : engine.Keeps (engine.base build) := by
  unfold base
  split <;> exact ⟨rfl, rfl, rfl⟩

/-- Variables of a module and shared things are set before a commit or after it. -/
theorem settle_base (build : Build) (engine : Engine) (version : Nat) (globals shared : Run.Store) :
    (engine.base build).settle version globals shared =
      (engine.settle version globals shared).base build := by
  unfold base
  split <;> rfl

/-- The active modules are the same before a commit. -/
@[simp] theorem active?_base (build : Build) (engine : Engine) (id : String) :
    (engine.base build).active? id = engine.active? id := by
  unfold base
  split <;> rfl

/-- The stored scripts are the same before a commit. -/
@[simp] theorem stored_base (build : Build) (engine : Engine) :
    (engine.base build).stored = engine.stored := by
  unfold base
  split <;> rfl

/-- The same modules are stale before a commit. -/
@[simp] theorem isStale_base (build : Build) (engine : Engine) (id : String) (version : Nat) :
    (engine.base build).isStale id version = engine.isStale id version := by
  unfold isStale
  rw [active?_base]

/-- The commit of a build ends at once for a reload whose script was deleted, and else as the commit
of its module. -/
theorem finish_eq (language : HostLanguage) (build : Build) (engine : Engine) :
    engine.finish language build =
      if build.again && engine.deleted.contains build.script.id then (.ok none, engine)
      else told build.version ((engine.base build).commit language build.script build.version) := by
  unfold finish base
  cases build.again <;> rfl

/-- A call that finds its function found the active module. -/
theorem exists_of_look {engine : Engine} {id entry : String} {arguments : List Value} {call : Call}
    (finds : engine.look id entry arguments = .ok call) :
    ∃ version, engine.active? id = some version ∧ engine.module? version = some call.module := by
  unfold look at finds
  split at finds
  · cases finds
  · rename_i module active
    split at finds
    · cases finds
    · obtain rfl := Except.ok.inj finds
      exact Option.bind_eq_some_iff.1 active

section

variable (engine : Engine) (id : String)

/-- An identifier that is forgotten has no active module. -/
@[simp] theorem active?_forget : (engine.forget id).active? id = none := by
  unfold forget
  dsimp only
  split
  · exact active?_retract ..
  · rename_i inactive
    have none : engine.active? id = none := by simpa using inactive
    split <;> exact none

/-- An identifier that is forgotten has no stored script. -/
@[simp] theorem stored_forget : (engine.forget id).stored.find? id = none := by
  have gone : (if engine.stored.has id then engine.unstore id else engine).stored.find? id =
      none := by
    split
    · exact Table.find?_erase ..
    · rename_i missing
      simpa [Table.has] using missing
  unfold forget
  dsimp only
  split
  · rw [stored_retract]
    exact gone
  · exact gone

/-- Other modules stay active. -/
theorem active?_forget_ne {other : String} (different : other ≠ id) :
    (engine.forget id).active? other = engine.active? other := by
  unfold forget
  dsimp only
  split
  · refine (active?_retract_ne _ _ different).trans ?_
    split <;> rfl
  · split <;> rfl

/-- What is active after an identifier was forgotten was so before. -/
theorem active?_of_forget {engine : Engine} {id other : String} {version : Nat}
    (active : (engine.forget id).active? other = some version) :
    engine.active? other = some version := by
  by_cases same : other = id
  · subst same
    rw [active?_forget] at active
    cases active
  · rwa [active?_forget_ne _ _ same] at active

/-- Other scripts stay stored. -/
theorem stored_forget_ne {other : String} (different : other ≠ id) :
    (engine.forget id).stored.find? other = engine.stored.find? other := by
  have kept : (if engine.stored.has id then engine.unstore id else engine).stored.find? other =
      engine.stored.find? other := by
    split
    · exact Table.find?_erase_ne _ different
    · rfl
  unfold forget
  dsimp only
  split
  · rw [stored_retract]
    exact kept
  · exact kept

/-- Nothing is built. -/
theorem keeps_forget : engine.Keeps (engine.forget id) := by
  have forgotten : engine.Keeps (if engine.stored.has id then engine.unstore id else engine) := by
    split <;> exact ⟨rfl, rfl, rfl⟩
  unfold forget
  dsimp only
  split
  · exact forgotten.trans (keeps_retract _ id)
  · exact forgotten

/-- Identifiers stay deleted. -/
@[simp] theorem deleted_forget : (engine.forget id).deleted = engine.deleted := by
  unfold forget
  dsimp only
  split
  · rw [deleted_retract]
    split <;> rfl
  · split <;> rfl

end

end Engine

end Lag
