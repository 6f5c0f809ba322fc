import Lag.Proofs.World.Interleaved

/-!
# The latest build wins

Versions are given when modules are built, but modules are committed in any order, with scripts
forgotten in between. Whatever the order, a script with an identifier is stored exactly if a module
is active under the identifier. The active module is the one that was built for the stored script,
and of all modules that were committed since the script was last forgotten it is the latest.
-/
namespace Lag

namespace Deed

/-- Whether a deed was to forget a script. -/
def deletes (id : String) : Deed → Bool
  | .deleted other _ => other == id
  | _ => false

/-- The version of a module that was committed without a fault. -/
def commits? (id : String) : Deed → Option Nat
  | .committed build (.ok _) => if build.script.id = id then some build.version else none
  | _ => none

/-- The versions of the modules that were committed since a script was last forgotten. -/
def committedSince (id : String) (past : List Deed) : List Nat :=
  (past.takeWhile fun deed => !deed.deletes id).filterMap (·.commits? id)

variable {id : String} {deed : Deed}

/-- Nothing was committed since a script was just forgotten. -/
theorem committedSince_of_deletes (deletes : deed.deletes id = true) (past : List Deed) :
    committedSince id (deed :: past) = [] := by
  simp [committedSince, deletes]

/-- A deed that commits nothing leaves the committed versions alone. -/
theorem committedSince_of_none (deletes : deed.deletes id = false) (none : deed.commits? id = none)
    (past : List Deed) : committedSince id (deed :: past) = committedSince id past := by
  simp [committedSince, deletes, none]

/-- A module that is committed adds its version to those of its script. -/
theorem committedSince_committed (build : Build) (result : Option Nat) (past : List Deed) :
    committedSince build.script.id (.committed build (.ok result) :: past) =
      build.version :: committedSince build.script.id past := by
  simp [committedSince, deletes, commits?]

/-- A module that is committed adds nothing to those of other scripts. -/
theorem committedSince_other {build : Build} (other : build.script.id ≠ id)
    (outcome : Except Fault (Option Nat)) (past : List Deed) :
    committedSince id (.committed build outcome :: past) = committedSince id past := by
  refine committedSince_of_none rfl ?_ past
  cases outcome with
  | error fault => rfl
  | ok result => exact if_neg other

end Deed

variable {language : HostLanguage}

/-- What is stored and active under an identifier, in the light of what was done. -/
inductive Latest (language : HostLanguage) (busy : Busy Engine) (id : String) : Prop where
  /-- Neither a script nor a module. -/
  | absent (inactive : busy.state.active? id = none) (missing : busy.state.stored.find? id = none)
    (nothing : Deed.committedSince id busy.past = [])
  /-- The script of a build and its module, which is the latest that was committed. -/
  | present (build : Build) (owner : build.script.id = id) (built : .built build ∈ busy.past)
    (holds : busy.state.Holds language build) (active : busy.state.active? id = some build.version)
    (stored : busy.state.stored.find? id = some build.script)
    (latest : ∀ version ∈ Deed.committedSince id busy.past, version ≤ build.version)

/-- What is the latest stays so if nothing happens to the identifier. -/
theorem Latest.of_same {before after : Busy Engine} {id : String}
    (latest : Latest language before id)
    (past : ∀ deed ∈ before.past, deed ∈ after.past)
    (holds : ∀ build, before.state.Holds language build → after.state.Holds language build)
    (active : after.state.active? id = before.state.active? id)
    (stored : after.state.stored.find? id = before.state.stored.find? id)
    (committed : Deed.committedSince id after.past = Deed.committedSince id before.past) :
    Latest language after id := by
  cases latest with
  | absent inactive missing nothing =>
    exact .absent (active.trans inactive) (stored.trans missing) (committed.trans nothing)
  | present build owner built there isActive isStored latest =>
    exact .present build owner (past _ built) (holds build there) (active.trans isActive)
      (stored.trans isStored) (committed ▸ latest)

/-- What every run of loads and reloads of scripts with identifiers keeps. -/
structure Busy.Settled (language : HostLanguage) (busy : Busy Engine) : Prop where
  /-- The modules are there. -/
  sane : busy.Sane language
  /-- What waits was built. -/
  built : ∀ build ∈ busy.builds, .built build ∈ busy.past
  /-- What waits has an identifier. -/
  valid : ∀ build ∈ busy.builds, build.script.isValid = true
  /-- The latest module of every identifier. -/
  latest : ∀ id, Latest language busy id

/-- Whether the script of a move has an identifier. -/
def Move.isValid : Move → Bool
  | .start _ script => script.isValid
  | _ => true

namespace Busy

/-- A commit leaves the latest module active, with its script stored. -/
theorem Settled.latest_committed {busy : Busy Engine} (settled : busy.Settled language)
    {place : Nat} {build : Build} (found : busy.builds[place]? = some build)
    {ending : Except Fault Bool × Engine}
    (commits : (busy.state.base build).Commits build.script build.script.id build.version ending)
    (id : String) :
    Latest language
      { busy with
        state := ending.2
        builds := busy.builds.eraseIdx place
        past := .committed build (Engine.told build.version ending).1 :: busy.past } id := by
  have inside := List.mem_of_getElem? found
  have keeps := (Engine.keeps_base build busy.state).trans commits.keeps
  have before := settled.latest id
  by_cases owner : build.script.id = id
  · subst owner
    cases commits with
    | stale older =>
      rw [Engine.isStale_base] at older
      cases before with
      | absent inactive =>
        rw [Engine.isStale_of_inactive inactive] at older
        cases older
      | present current owner built holds active stored latest =>
        rw [Engine.isStale_of_active active, decide_eq_true_eq] at older
        refine .present current owner (List.mem_cons_of_mem _ built) (holds.of_keeps keeps)
          ((Engine.active?_base ..).trans active)
          ((congrArg (Table.find? · _) (Engine.stored_base build busy.state)).trans stored)
          fun version committed => ?_
        change version ∈ Deed.committedSince _ (.committed build (.ok none) :: _) at committed
        rw [Deed.committedSince_committed] at committed
        rcases List.mem_cons.1 committed with rfl | earlier
        · exact older
        · exact latest version earlier
    | failed =>
      exact before.of_same (fun _ => List.mem_cons_of_mem _) (fun _ there => there.of_keeps keeps)
        (Engine.active?_base ..) (congrArg (Table.find? · _) (Engine.stored_base build busy.state))
        (Deed.committedSince_of_none rfl rfl _)
    | unsaved fresh invalid =>
      rw [settled.valid build inside] at invalid
      cases invalid
    | saved fresh =>
      rw [Engine.isStale_base] at fresh
      refine .present build rfl (List.mem_cons_of_mem _ (settled.built build inside))
        ((settled.sane.builds build inside).of_keeps keeps) (Engine.active?_swap ..)
        (Table.find?_put ..) fun version committed => ?_
      change version ∈ Deed.committedSince _ (.committed build (.ok (some _)) :: _) at committed
      rw [Deed.committedSince_committed] at committed
      rcases List.mem_cons.1 committed with rfl | earlier
      · exact Nat.le_refl _
      · cases before with
        | absent _ _ nothing =>
          rw [nothing] at earlier
          cases earlier
        | present current _ _ _ active _ latest =>
          have older : ¬ build.version ≤ current.version := by
            rwa [Engine.isStale_of_active active, decide_eq_false_iff_not] at fresh
          have before := latest version earlier
          omega
  · have different : id ≠ build.script.id := fun same => owner same.symm
    refine before.of_same (fun _ => List.mem_cons_of_mem _) (fun _ there => there.of_keeps keeps)
      ?_ ?_ (Deed.committedSince_other owner _ _)
    · rw [commits.active?_ne different, Engine.active?_base]
    · rw [commits.stored_ne different, Engine.stored_base]

/-- An attempt to forget a script leaves nothing of it, and the latest modules of others. -/
theorem Settled.latest_forgotten {busy : Busy Engine} (settled : busy.Settled language)
    (forgotten : String) {state : Engine} (keeps : busy.state.Keeps state)
    (active : ∀ id, state.active? id = (busy.state.forget forgotten).active? id)
    (stored : state.stored = (busy.state.forget forgotten).stored) (outcome : Except Fault Bool)
    (id : String) :
    Latest language { busy with state := state, past := .deleted forgotten outcome :: busy.past }
      id := by
  by_cases same : forgotten = id
  · subst same
    refine .absent ((active _).trans (Engine.active?_forget ..)) ?_
      (Deed.committedSince_of_deletes (beq_self_eq_true _) _)
    exact (congrArg (Table.find? · forgotten) stored).trans (Engine.stored_forget ..)
  · have different : id ≠ forgotten := fun is => same is.symm
    have other : (Deed.deleted forgotten outcome).deletes id = false := beq_false_of_ne same
    refine (settled.latest id).of_same (fun _ => List.mem_cons_of_mem _)
      (fun _ there => there.of_keeps keeps) ((active id).trans ?_) ?_
      (Deed.committedSince_of_none other rfl _)
    · exact Engine.active?_forget_ne _ _ different
    · exact (congrArg (Table.find? · id) stored).trans (Engine.stored_forget_ne _ _ different)

/-- Every move with a script that has an identifier keeps the modules the latest. -/
theorem Settled.step {busy after : Busy Engine} {move : Move} (settled : busy.Settled language)
    (valid : move.isValid = true) (stepped : Stepped language busy move after) :
    after.Settled language := by
  have sane := settled.sane.step stepped
  have kept {deed : Deed} : ∀ build ∈ busy.builds, .built build ∈ deed :: busy.past :=
    fun build inside => List.mem_cons_of_mem _ (settled.built build inside)
  -- A deed that neither commits nor forgets anything leaves the latest modules alone.
  have idle {state : Engine} {builds : List Build} {calls : List Call} {deed : Deed}
      (holds : ∀ build, busy.state.Holds language build → state.Holds language build)
      (active : ∀ id, state.active? id = busy.state.active? id)
      (stored : state.stored = busy.state.stored)
      (idle : ∀ id, deed.deletes id = false ∧ deed.commits? id = none) (id : String) :
      Latest language ⟨state, builds, calls, deed :: busy.past⟩ id :=
    (settled.latest id).of_same (fun _ => List.mem_cons_of_mem _) holds (active id)
      (congrArg (Table.find? · id) stored) (Deed.committedSince_of_none (idle id).1 (idle id).2 _)
  cases stepped with
  | idle => exact settled
  | refused | found | lost =>
    exact ⟨sane, kept, settled.valid, idle (fun _ => id) (fun _ => rfl) rfl fun _ => ⟨rfl, rfl⟩⟩
  | spoilt =>
    exact ⟨sane, kept, settled.valid,
      idle (fun _ holds => holds.insert) (fun _ => rfl) rfl fun _ => ⟨rfl, rfl⟩⟩
  | built =>
    exact ⟨sane,
      List.forall_mem_append.2 ⟨kept, List.forall_mem_singleton.2 List.mem_cons_self⟩,
      List.forall_mem_append.2 ⟨settled.valid, List.forall_mem_singleton.2 valid⟩,
      idle (fun _ holds => holds.insert) (fun _ => rfl) rfl fun _ => ⟨rfl, rfl⟩⟩
  | discarded found =>
    exact ⟨sane, fun build inside => kept build (List.mem_of_mem_eraseIdx inside),
      fun build inside => settled.valid build (List.mem_of_mem_eraseIdx inside),
      idle (fun _ => id) (fun _ => rfl) rfl fun _ => ⟨rfl, rfl⟩⟩
  | committed found _ commits =>
    exact ⟨sane, fun build inside => kept build (List.mem_of_mem_eraseIdx inside),
      fun build inside => settled.valid build (List.mem_of_mem_eraseIdx inside),
      settled.latest_committed found commits⟩
  | deleted id =>
    have keeps := (Engine.keeps_forget busy.state id).trans (Engine.keeps_bury _ id)
    exact ⟨sane, kept, settled.valid, settled.latest_forgotten id keeps (Engine.active?_bury _ _)
      (Engine.stored_bury ..) _⟩
  | missed id =>
    exact ⟨sane, kept, settled.valid, settled.latest_forgotten id (Engine.keeps_forget ..)
      (fun _ => rfl) rfl _⟩
  | answered =>
    exact ⟨sane, kept, settled.valid,
      idle (fun _ there => there.of_keeps (Engine.keeps_settle ..)) (fun _ => rfl) rfl
        fun _ => ⟨rfl, rfl⟩⟩

/-- Nothing was done in an engine without modules. -/
theorem settled_fresh (language : HostLanguage) (limit : Nat) :
    Settled language ⟨{ limit := limit }, [], [], []⟩ :=
  ⟨sane_fresh language limit, by simp, by simp, fun _ => .absent rfl rfl rfl⟩

end Busy

/-- After every run of loads, reloads, deletions and calls of scripts with identifiers, in any
interleaving of their steps, a script is stored under an identifier exactly if a module is active
under it. That module was built for the stored script, and none that was committed since the script
was last forgotten is later. -/
theorem latest_wins {κ : Type} {hooks : Hooks κ} (quiet : hooks.Quiet) {world : World κ}
    {limit : Nat} (fresh : world.engine = { limit := limit }) {moves : List Move}
    (valid : ∀ move ∈ moves, move.isValid = true) (id : String) :
    Latest hooks.language
      ((⟨world, [], [], []⟩ : Busy (World κ)).run (World.steps hooks) moves).engine id := by
  rw [Busy.engine_run_fresh quiet fresh]
  have settled : ((⟨{ limit := limit }, [], [], []⟩ : Busy Engine).run
      (Engine.steps hooks.language) moves).Settled hooks.language :=
    Busy.run_preserves
      (fun _ move valid settled => settled.step valid (Busy.stepped settled.sane move)) valid
      (Busy.settled_fresh hooks.language limit)
  exact settled.latest id

/-- A load and a reload of one script, of which the reload is committed first. -/
def overtaking : List Move :=
  [.start false ⟨"a", .lag, "fn f() -> int \x7b return 1; \x7d", none⟩,
    .start true ⟨"a", .lag, "fn f() -> int \x7b return 2; \x7d", none⟩, .finish 1, .finish 0]

/-- The module of the reload stays active, for it is the later one. -/
theorem latest_wins_overtaking :
    (∀ move ∈ overtaking, move.isValid = true) ∧
      let busy := (⟨World.initial (), [], [], []⟩ : Busy (World Unit)).run
        (World.steps Hooks.none) overtaking
      Latest .none busy.engine "a" ∧ busy.state.engine.active? "a" = some 2 := by
  have valid : ∀ move ∈ overtaking, move.isValid = true := by decide
  exact ⟨valid, latest_wins (Hooks.quiet_none .none) rfl valid "a", by decide +kernel⟩

end Lag
