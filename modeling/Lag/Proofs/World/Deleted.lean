import Lag.Proofs.World.Interleaved

/-!
# Deleted scripts stay deleted

A script that was forgotten is remembered as deleted until a load of it comes to its commit. Up to
then nothing is active or stored under its identifier, however many reloads of it were under way or
are started: each of them is discarded, and each call of it fails.
-/
namespace Lag

namespace Deed

/-- Whether a deed forgot a script. -/
def forgets (id : String) : Deed → Bool
  | .deleted other (.ok forgot) => forgot && other == id
  | _ => false

/-- Whether a deed was the commit of a load of a script. -/
def loads (id : String) : Deed → Bool
  | .committed build _ => !build.again && build.script.id == id
  | _ => false

/-- Whether a script was forgotten, and since then no load of it came to its commit. -/
def forgotten (id : String) : List Deed → Bool
  | [] => false
  | deed :: past => deed.forgets id || !deed.loads id && forgotten id past

/-- What is forgotten after a deed was forgotten by the deed, or before it. -/
theorem forgotten_cons {id : String} {deed : Deed} {past : List Deed}
    (forgotten : forgotten id (deed :: past) = true) :
    deed.forgets id = true ∨ Deed.forgotten id past = true ∧ deed.loads id = false := by
  rw [Deed.forgotten, Bool.or_eq_true, Bool.and_eq_true, Bool.not_eq_true'] at forgotten
  exact forgotten.imp_right And.symm

end Deed

/-- Nothing is left of a script but that it was deleted. -/
structure Engine.Gone (engine : Engine) (id : String) : Prop where
  /-- No module is active. -/
  inactive : engine.active? id = none
  /-- No script is stored. -/
  missing : engine.stored.find? id = none
  /-- The identifier was deleted. -/
  deleted : id ∈ engine.deleted

namespace Engine.Gone

variable {engine : Engine} {id : String}

/-- A commit that is not one of a load of the script brings nothing back. -/
theorem committed (gone : engine.Gone id) {build : Build} {ending : Except Fault Bool × Engine}
    (kept : build.again = true → build.script.id ∉ engine.deleted)
    (commits : (engine.base build).Commits build.script build.script.id build.version ending)
    (unloaded : (!build.again && build.script.id == id) = false) : ending.2.Gone id := by
  have different : id ≠ build.script.id := by
    rintro rfl
    -- A reload of the script is discarded, so this would be a load of it.
    cases again : build.again with
    | true => exact kept again gone.deleted
    | false => simp [again] at unloaded
  refine ⟨?_, ?_, ?_⟩
  · rw [commits.active?_ne different, active?_base, gone.inactive]
  · rw [commits.stored_ne different, stored_base, gone.missing]
  · rw [commits.deleted]
    unfold base
    split
    · exact gone.deleted
    · exact mem_revive gone.deleted different

/-- To forget a script brings nothing back. -/
theorem forget (gone : engine.Gone id) (other : String) : (engine.forget other).Gone id := by
  have deleted : id ∈ (engine.forget other).deleted := by simpa using gone.deleted
  by_cases same : id = other
  · subst same
    exact ⟨active?_forget .., stored_forget .., deleted⟩
  · exact ⟨(active?_forget_ne _ _ same).trans gone.inactive,
      (stored_forget_ne _ _ same).trans gone.missing, deleted⟩

/-- What is gone stays so when another script is deleted. -/
theorem bury (gone : engine.Gone id) (other : String) : (engine.bury other).Gone id :=
  ⟨(active?_bury ..).trans gone.inactive, by simpa using gone.missing,
    mem_bury_of_mem gone.deleted other⟩

end Engine.Gone

/-- What was forgotten is gone, in an engine whose modules are there. -/
structure Busy.Buried (language : HostLanguage) (busy : Busy Engine) : Prop where
  /-- The modules are there. -/
  sane : busy.Sane language
  /-- What was forgotten is gone. -/
  gone : ∀ id, Deed.forgotten id busy.past = true → busy.state.Gone id

/-- Every move keeps what was forgotten gone. -/
theorem Busy.Buried.step {language : HostLanguage} {busy after : Busy Engine} {move : Move}
    (buried : busy.Buried language) (stepped : Stepped language busy move after) :
    after.Buried language := by
  refine ⟨buried.sane.step stepped, ?_⟩
  -- Most deeds forget nothing, and what was gone before them is gone after them.
  have idle {state : Engine} {deed : Deed} (gone : ∀ id, busy.state.Gone id → state.Gone id)
      (other : ∀ id, deed.forgets id = false) (id : String)
      (forgotten : Deed.forgotten id (deed :: busy.past) = true) : state.Gone id := by
    rcases Deed.forgotten_cons forgotten with now | ⟨before, -⟩
    · rw [other id] at now
      cases now
    · exact gone id (buried.gone id before)
  cases stepped with
  | idle => exact buried.gone
  | refused | discarded | found | lost => exact idle (fun _ gone => gone) fun _ => rfl
  | spoilt | built | answered =>
    exact idle (fun _ gone => ⟨gone.inactive, gone.missing, gone.deleted⟩) fun _ => rfl
  | committed _ kept commits =>
    intro id forgotten
    rcases Deed.forgotten_cons forgotten with now | ⟨before, unloaded⟩
    · cases now
    · exact (buried.gone id before).committed kept commits unloaded
  | deleted other =>
    intro id forgotten
    rcases Deed.forgotten_cons forgotten with now | ⟨before, -⟩
    · obtain rfl : other = id := eq_of_beq now
      exact ⟨(Engine.active?_bury ..).trans (Engine.active?_forget ..), by simp,
        Engine.mem_bury _ _⟩
    · exact ((buried.gone id before).forget other).bury other
  | missed other => exact idle (fun _ gone => gone.forget other) fun _ => rfl

namespace World

variable {κ : Type} {hooks : Hooks κ} {world : World κ} {id : String}

/-- A reload of a deleted script is discarded. -/
theorem ended_finish_of_deleted {build : Build} (again : build.again = true)
    (deleted : build.script.id ∈ world.engine.deleted) :
    ended (finish hooks build) world = (.ok none, world.note "runtime.engine" .info
      ("Discarding reload of '" ++ build.script.id ++ "': script was deleted")) := by
  have contained := List.contains_iff_mem.2 deleted
  simp only [finish, again, if_true, commitReload, ended_bind, ended_get, contained, say,
    ended_modify, ended_pure]

/-- A call of a script without an active module fails. -/
theorem ended_invoke_of_inactive (inactive : world.engine.active? id = none) (entry : String)
    (arguments : List Value) :
    ended (invoke hooks id entry arguments) world = (.error (.notLoaded id), world) := by
  simp only [invoke, call, ended_bind, ended_get, inactive, Option.bind_none, ended_throw]

end World

/-- After a script was forgotten, and until a load of it comes to its commit, nothing is active or
stored under its identifier. Every reload of it that was built, before or after, is discarded: it
leaves the engine alone and announces nothing. Every call of it fails. -/
theorem deleted_stays {κ : Type} {hooks : Hooks κ} (quiet : hooks.Quiet) {world : World κ}
    {limit : Nat} (fresh : world.engine = { limit := limit }) (moves : List Move) {id : String} :
    let busy := (⟨world, [], [], []⟩ : Busy (World κ)).run (World.steps hooks) moves
    Deed.forgotten id busy.past = true →
      busy.state.engine.active? id = none ∧ busy.state.engine.stored.find? id = none ∧
        (∀ build : Build, build.again = true → build.script.id = id →
          ∃ after, World.ended (World.finish hooks build) busy.state = (.ok none, after) ∧
            after.engine = busy.state.engine ∧
              after.outbox.events = busy.state.outbox.events) ∧
        ∀ entry arguments,
          (World.ended (World.invoke hooks id entry arguments) busy.state).1 =
            .error (.notLoaded id) := by
  intro busy forgotten
  have runs := Busy.engine_run_fresh quiet fresh moves
  have buried : busy.engine.Buried hooks.language := by
    rw [runs]
    exact Busy.run_preserves
      (fun _ move (_ : True) buried => buried.step (Busy.stepped buried.sane move))
      (fun _ _ => trivial) ⟨Busy.sane_fresh hooks.language limit, fun _ => nofun⟩
  obtain ⟨inactive, missing, deleted⟩ := buried.gone id forgotten
  refine ⟨inactive, missing, ?_, ?_⟩
  · rintro build again rfl
    exact ⟨_, World.ended_finish_of_deleted again deleted, rfl, rfl⟩
  · intro entry arguments
    rw [World.ended_invoke_of_inactive inactive]

/-- A reload that is under way while its script is forgotten. -/
def outlived : List Move :=
  [.start false ⟨"a", .lag, "fn f() -> int \x7b return 1; \x7d", none⟩, .finish 0,
    .start true ⟨"a", .lag, "fn f() -> int \x7b return 2; \x7d", none⟩, .delete "a"]

/-- The script stays forgotten. -/
theorem deleted_stays_outlived :
    let busy := (⟨World.initial (), [], [], []⟩ : Busy (World Unit)).run
      (World.steps Hooks.none) outlived
    Deed.forgotten "a" busy.past = true ∧ busy.state.engine.active? "a" = none := by
  have forgotten : Deed.forgotten "a" ((⟨World.initial (), [], [], []⟩ : Busy (World Unit)).run
      (World.steps Hooks.none) outlived).past = true := by decide +kernel
  exact ⟨forgotten, (deleted_stays (Hooks.quiet_none .none) rfl outlived forgotten).1⟩

end Lag
