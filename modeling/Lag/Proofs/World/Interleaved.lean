import Lag.Proofs.World.Quiet

/-!
# Runs of interleaved operations

Many operations may be under way at a time. A run takes their steps in any order: each move is one
step of one operation, and leaves a deed, which says what came of it. Steps are taken in a world;
with quiet hooks they are steps of its engine alone. What one step can do to an engine is said once,
and what a run preserves follows from it.
-/
namespace Lag

/-- A step of one of the operations that are under way. -/
inductive Move where
  /-- Start a load, or a reload. -/
  | start (again : Bool) (script : Script)
  /-- Finish the load or reload at a place. -/
  | finish (place : Nat)
  /-- Forget a script. -/
  | delete (id : String)
  /-- Look up a function to call. -/
  | look (id entry : String) (arguments : List Value)
  /-- Answer the call at a place. -/
  | answer (place : Nat)

/-- What came of a step. -/
inductive Deed where
  /-- A load or a reload failed at its start. -/
  | refused (again : Bool) (script : Script) (fault : Fault)
  /-- A module was built. -/
  | built (build : Build)
  /-- A reload was discarded, for its script was deleted. -/
  | discarded (build : Build) (outcome : Except Fault (Option Nat))
  /-- A load or a reload was committed. -/
  | committed (build : Build) (outcome : Except Fault (Option Nat))
  /-- A script was to be forgotten. -/
  | deleted (id : String) (outcome : Except Fault Bool)
  /-- A function was looked up. -/
  | looked (id entry : String) (outcome : Except Fault Unit)
  /-- A call was answered. -/
  | answered (id entry : String) (outcome : Except Fault Value)

/-- A state in which operations are under way. -/
structure Busy (σ : Type) where
  /-- The state. -/
  state : σ
  /-- The modules that wait for their commits. -/
  builds : List Build := []
  /-- The calls that wait for their answers. -/
  calls : List Call := []
  /-- The deeds, the last one first. -/
  past : List Deed := []

/-- The steps of operations on a state, with what comes of them. -/
structure Steps (σ : Type) where
  /-- Start a load or a reload. -/
  start : Bool → Script → σ → Except Fault Nat × σ
  /-- Finish a load or a reload. -/
  finish : Build → σ → Except Fault (Option Nat) × σ
  /-- Forget a script. -/
  delete : String → σ → Except Fault Bool × σ
  /-- Look up a function. -/
  look : String → String → List Value → σ → Except Fault Call × σ
  /-- Answer a call. -/
  answer : Call → σ → Except Fault Value × σ
  /-- Whether a script was deleted. -/
  isDeleted : String → σ → Bool

/-- The steps in a world. -/
def World.steps {κ : Type} (hooks : Hooks κ) : Steps (World κ) where
  start again script := ended (start hooks again script)
  finish build := ended (finish hooks build)
  delete id := ended (delete id)
  look id entry arguments := ended (look id entry arguments)
  answer call := ended (answer hooks call)
  isDeleted id world := world.engine.deleted.contains id

/-- The steps of an engine. -/
def Engine.steps (language : HostLanguage) : Steps Engine where
  start := Engine.start language
  finish := Engine.finish language
  delete := Engine.delete
  look id entry arguments engine := (engine.look id entry arguments, engine)
  answer := Engine.answer language
  isDeleted id engine := engine.deleted.contains id

namespace Busy

variable {σ : Type}

/-- The start of a load or a reload. -/
def started (busy : Busy σ) (again : Bool) (script : Script) : Except Fault Nat × σ → Busy σ
  | (.ok version, state) =>
    { busy with
      state := state
      builds := busy.builds ++ [⟨again, script, version⟩]
      past := .built ⟨again, script, version⟩ :: busy.past }
  | (.error fault, state) =>
    { busy with state := state, past := .refused again script fault :: busy.past }

/-- The end of a load or a reload. -/
def finished (busy : Busy σ) (place : Nat) (build : Build) (discards : Bool)
    (ending : Except Fault (Option Nat) × σ) : Busy σ :=
  { busy with
    state := ending.2
    builds := busy.builds.eraseIdx place
    past := (if discards then .discarded build ending.1 else .committed build ending.1) ::
      busy.past }

/-- An attempt to forget a script. -/
def deleted (busy : Busy σ) (id : String) (ending : Except Fault Bool × σ) : Busy σ :=
  { busy with state := ending.2, past := .deleted id ending.1 :: busy.past }

/-- The start of a call. -/
def looked (busy : Busy σ) (id entry : String) : Except Fault Call × σ → Busy σ
  | (.ok call, state) =>
    { busy with
      state := state
      calls := busy.calls ++ [call]
      past := .looked id entry (.ok ()) :: busy.past }
  | (.error fault, state) =>
    { busy with state := state, past := .looked id entry (.error fault) :: busy.past }

/-- The end of a call. -/
def answered (busy : Busy σ) (place : Nat) (call : Call) (ending : Except Fault Value × σ) :
    Busy σ :=
  { busy with
    state := ending.2
    calls := busy.calls.eraseIdx place
    past := .answered call.id call.entry ending.1 :: busy.past }

/-- Make a move. A place at which nothing waits makes no difference. -/
def step (steps : Steps σ) (busy : Busy σ) : Move → Busy σ
  | .start again script => busy.started again script (steps.start again script busy.state)
  | .finish place =>
    match busy.builds[place]? with
    | none => busy
    | some build =>
      busy.finished place build (build.again && steps.isDeleted build.script.id busy.state)
        (steps.finish build busy.state)
  | .delete id => busy.deleted id (steps.delete id busy.state)
  | .look id entry arguments => busy.looked id entry (steps.look id entry arguments busy.state)
  | .answer place =>
    match busy.calls[place]? with
    | none => busy
    | some call => busy.answered place call (steps.answer call busy.state)

/-- Make moves in order. -/
def run (steps : Steps σ) (busy : Busy σ) (moves : List Move) : Busy σ :=
  moves.foldl (step steps) busy

/-- What holds at first and is preserved by every move holds after every run. -/
theorem run_preserves {steps : Steps σ} {allowed : Move → Prop} {holds : Busy σ → Prop}
    (preserves : ∀ busy move, allowed move → holds busy → holds (busy.step steps move))
    {moves : List Move} (all : ∀ move ∈ moves, allowed move) {busy : Busy σ} (first : holds busy) :
    holds (busy.run steps moves) := by
  induction moves generalizing busy with
  | nil => exact first
  | cons move rest ih =>
    exact ih (fun other inside => all other (List.mem_cons_of_mem _ inside))
      (preserves busy move (all move List.mem_cons_self) first)

/-- The operations that are under way in an engine rather than a world. -/
def engine {κ : Type} (busy : Busy (World κ)) : Busy Engine :=
  ⟨busy.state.engine, busy.builds, busy.calls, busy.past⟩

end Busy

/-! ## What one step can do -/

/-- A build has its module: it has the version of the build, and holds what its script compiles
to. -/
structure Engine.Holds (language : HostLanguage) (engine : Engine) (build : Build) : Prop where
  /-- The version is one that is given to modules. -/
  positive : 0 < build.version
  /-- The module is there. -/
  module : ∃ content, language.compile build.script engine.limit = .ok content ∧
    engine.plan? build.version = some ⟨build.script.id, build.version, content, [], false⟩

variable {language : HostLanguage}

/-- A build has its module as long as nothing is built. -/
theorem Engine.Holds.of_keeps {before after : Engine} {build : Build}
    (holds : before.Holds language build) (keeps : before.Keeps after) :
    after.Holds language build := by
  obtain ⟨positive, module⟩ := holds
  exact ⟨positive, by rwa [keeps.plan?, keeps.limit]⟩

/-- A build has its module when another module is added. -/
theorem Engine.Holds.insert {engine : Engine} {build : Build} (holds : engine.Holds language build)
    {id : String} {content : Content} {globals shared : Run.Store} :
    (engine.insert id content globals shared).Holds language build := by
  obtain ⟨positive, other, compiles, planned⟩ := holds
  exact ⟨positive, other, compiles, plan?_insert planned positive⟩

/-- What every run keeps: modules have their own versions, active modules are there under their
identifiers, and so are the modules that something waits for. -/
structure Busy.Sane (language : HostLanguage) (busy : Busy Engine) : Prop where
  /-- Modules have their own versions. -/
  own : ∀ {version plan}, 0 < version → busy.state.plan? version = some plan →
    plan.version = version
  /-- Active modules are there. -/
  active : ∀ {id version}, busy.state.active? id = some version →
    0 < version ∧ ∃ plan, busy.state.plan? version = some plan ∧ plan.id = id
  /-- Modules that wait for their commits are there. -/
  builds : ∀ build ∈ busy.builds, busy.state.Holds language build
  /-- Modules of calls are there. -/
  calls : ∀ call ∈ busy.calls, 0 < call.module.version ∧
    busy.state.plan? call.module.version = some call.module.plan

/-- What a move can do to an engine. -/
inductive Stepped (language : HostLanguage) (busy : Busy Engine) : Move → Busy Engine → Prop where
  /-- Nothing waited. -/
  | idle (move : Move) : Stepped language busy move busy
  /-- A load or a reload failed at its start. -/
  | refused (again : Bool) (script : Script) (fault : Fault) :
    Stepped language busy (.start again script)
      { busy with past := .refused again script fault :: busy.past }
  /-- A module was added, but its text met an accident. -/
  | spoilt (again : Bool) (script : Script) (content : Content) (globals shared : Run.Store)
    (fault : Fault) :
    Stepped language busy (.start again script)
      { busy with
        state := busy.state.insert script.id content globals shared
        past := .refused again script fault :: busy.past }
  /-- A module was added. -/
  | built (again : Bool) {script : Script} {content : Content}
    (compiles : language.compile script busy.state.limit = .ok content)
    (globals shared : Run.Store) :
    Stepped language busy (.start again script)
      { busy with
        state := busy.state.insert script.id content globals shared
        builds := busy.builds ++ [⟨again, script, busy.state.nextVersion⟩]
        past := .built ⟨again, script, busy.state.nextVersion⟩ :: busy.past }
  /-- A reload was discarded. -/
  | discarded {place : Nat} {build : Build} (found : busy.builds[place]? = some build) :
    Stepped language busy (.finish place)
      { busy with
        builds := busy.builds.eraseIdx place
        past := .discarded build (.ok none) :: busy.past }
  /-- A module was committed. -/
  | committed {place : Nat} {build : Build} (found : busy.builds[place]? = some build)
    (kept : build.again = true → build.script.id ∉ busy.state.deleted)
    {ending : Except Fault Bool × Engine}
    (commits : (busy.state.base build).Commits build.script build.script.id build.version ending) :
    Stepped language busy (.finish place)
      { busy with
        state := ending.2
        builds := busy.builds.eraseIdx place
        past := .committed build (Engine.told build.version ending).1 :: busy.past }
  /-- A script was forgotten. -/
  | deleted (id : String) :
    Stepped language busy (.delete id)
      { busy with
        state := (busy.state.forget id).bury id
        past := .deleted id (.ok true) :: busy.past }
  /-- There was no script to forget. -/
  | missed (id : String) :
    Stepped language busy (.delete id)
      { busy with state := busy.state.forget id, past := .deleted id (.ok false) :: busy.past }
  /-- A function was found. -/
  | found {id entry : String} {arguments : List Value} {call : Call}
    (finds : busy.state.look id entry arguments = .ok call) :
    Stepped language busy (.look id entry arguments)
      { busy with
        calls := busy.calls ++ [call]
        past := .looked id entry (.ok ()) :: busy.past }
  /-- No function was found. -/
  | lost (id entry : String) (arguments : List Value) (fault : Fault) :
    Stepped language busy (.look id entry arguments)
      { busy with past := .looked id entry (.error fault) :: busy.past }
  /-- A call was answered. -/
  | answered {place : Nat} {call : Call} (found : busy.calls[place]? = some call)
    (outcome : Except Fault Value) (globals shared : Run.Store) :
    Stepped language busy (.answer place)
      { busy with
        state := busy.state.settle call.module.version globals shared
        calls := busy.calls.eraseIdx place
        past := .answered call.id call.entry outcome :: busy.past }

namespace Busy

/-- A move does one of these things. -/
theorem stepped {busy : Busy Engine} (sane : busy.Sane language) (move : Move) :
    Stepped language busy move (busy.step (Engine.steps language) move) := by
  cases move with
  | start again script =>
    change Stepped language busy _
      (busy.started again script (busy.state.start language again script))
    rcases Engine.start_cases language again script busy.state with
      ⟨fault, fails⟩ | ⟨-, content, compiles, outcome, globals, shared, -, is⟩
    · rw [fails]
      exact .refused again script fault
    · rw [is]
      cases outcome with
      | error accident => exact .spoilt again script content globals shared _
      | ok value => exact .built again compiles globals shared
  | finish place =>
    rw [step]
    cases found : busy.builds[place]? with
    | none => exact .idle _
    | some build =>
      obtain ⟨content, -, planned⟩ := (sane.builds build (List.mem_of_getElem? found)).module
      change Stepped language busy _ (busy.finished place build
        (build.again && busy.state.deleted.contains build.script.id)
        (busy.state.finish language build))
      rw [Engine.finish_eq]
      split
      · rename_i discards
        rw [discards]
        exact .discarded found
      · rename_i goes
        rw [Bool.not_eq_true] at goes
        rw [goes]
        have based := (Engine.keeps_base build busy.state).plan?
        have commits := Engine.commits language (based ▸ planned) build.script
        have kept : build.again = true → build.script.id ∉ busy.state.deleted := by
          intro again deleted
          rw [again, Bool.true_and, List.contains_iff_mem.2 deleted] at goes
          cases goes
        unfold finished
        rw [Engine.told_snd]
        exact .committed found kept commits
  | delete id =>
    change Stepped language busy _ (busy.deleted id (busy.state.delete id))
    unfold Engine.delete
    split
    · exact .deleted id
    · exact .missed id
  | look id entry arguments =>
    change Stepped language busy _ (busy.looked id entry (busy.state.look id entry arguments, busy.state))
    cases finds : busy.state.look id entry arguments with
    | ok call => exact .found finds
    | error fault => exact .lost id entry arguments fault
  | answer place =>
    rw [step]
    cases found : busy.calls[place]? with
    | none => exact .idle _
    | some call => exact .answered found _ _ _

/-- A state stays sane when nothing is built, and no other module becomes active or is waited for
than those that were there. -/
theorem Sane.of_keeps {busy after : Busy Engine} (sane : busy.Sane language)
    (keeps : busy.state.Keeps after.state)
    (active : ∀ {id version}, after.state.active? id = some version →
      busy.state.active? id = some version ∨
        ∃ build ∈ busy.builds, build.script.id = id ∧ build.version = version)
    (builds : ∀ build ∈ after.builds, build ∈ busy.builds)
    (calls : ∀ call ∈ after.calls, call ∈ busy.calls) : after.Sane language where
  own positive planned := sane.own positive (keeps.plan? ▸ planned)
  active found := by
    rw [keeps.plan?]
    rcases active found with before | ⟨build, inside, rfl, rfl⟩
    · exact sane.active before
    · obtain ⟨content, -, planned⟩ := (sane.builds build inside).module
      exact ⟨(sane.builds build inside).positive, _, planned, rfl⟩
  builds build inside := (sane.builds build (builds build inside)).of_keeps keeps
  calls call inside := keeps.plan? ▸ sane.calls call (calls call inside)

/-- A module may be added to a sane state. -/
theorem Sane.insert {busy : Busy Engine} (sane : busy.Sane language) (id : String)
    (content : Content) (globals shared : Run.Store) (past : List Deed) :
    Sane language
      { busy with state := busy.state.insert id content globals shared, past := past } where
  own {version plan} positive planned := by
    obtain ⟨module, found, rfl⟩ := Engine.exists_of_plan? planned
    have given := Engine.lt_of_module? found
    rw [Engine.nextVersion_insert] at given
    by_cases older : version < busy.state.nextVersion
    · rw [Engine.module?_insert older positive] at found
      exact sane.own positive (Engine.plan?_of_module? found)
    · obtain rfl : version = busy.state.nextVersion := by omega
      rw [Engine.module?_insert_next] at found
      exact Option.some.inj found ▸ rfl
  active found := by
    obtain ⟨positive, plan, planned, owner⟩ := sane.active found
    exact ⟨positive, plan, Engine.plan?_insert planned positive, owner⟩
  builds build inside := (sane.builds build inside).insert
  calls call inside := by
    obtain ⟨positive, planned⟩ := sane.calls call inside
    exact ⟨positive, Engine.plan?_insert planned positive⟩

/-- A module that was added may wait for its commit. -/
theorem Sane.built {busy : Busy Engine} (sane : busy.Sane language) (again : Bool)
    {script : Script} {content : Content}
    (compiles : language.compile script busy.state.limit = .ok content)
    (globals shared : Run.Store) (past : List Deed) :
    Sane language
      { busy with
        state := busy.state.insert script.id content globals shared
        builds := busy.builds ++ [⟨again, script, busy.state.nextVersion⟩]
        past := past } := by
  have added := sane.insert script.id content globals shared past
  have last : (busy.state.insert script.id content globals shared).Holds language
      ⟨again, script, busy.state.nextVersion⟩ :=
    ⟨Engine.nextVersion_pos _, content, compiles,
      Engine.plan?_of_module? (Engine.module?_insert_next ..)⟩
  exact ⟨added.own, added.active,
    List.forall_mem_append.2 ⟨added.builds, List.forall_mem_singleton.2 last⟩, added.calls⟩

/-- Every move keeps a sane state sane. -/
theorem Sane.step {busy after : Busy Engine} {move : Move} (sane : busy.Sane language)
    (stepped : Stepped language busy move after) : after.Sane language := by
  cases stepped with
  | idle => exact sane
  | refused | lost => exact ⟨sane.own, sane.active, sane.builds, sane.calls⟩
  | spoilt again script content globals shared => exact sane.insert script.id content globals shared _
  | built again compiles globals shared => exact sane.built again compiles globals shared _
  | discarded found =>
    exact sane.of_keeps (.refl _) .inl (fun _ => List.mem_of_mem_eraseIdx) fun _ => id
  | @committed place build found kept ending commits =>
    refine sane.of_keeps ((Engine.keeps_base build _).trans commits.keeps) (fun active => ?_)
      (fun _ => List.mem_of_mem_eraseIdx) fun _ => id
    rcases commits.active? active with before | ⟨rfl, rfl⟩
    · refine .inl ?_
      rwa [Engine.active?_base] at before
    · exact .inr ⟨build, List.mem_of_getElem? found, rfl, rfl⟩
  | deleted name =>
    refine sane.of_keeps ((Engine.keeps_forget _ name).trans (Engine.keeps_bury _ name))
      (fun active => .inl ?_) (fun _ => id) fun _ => id
    rw [Engine.active?_bury] at active
    exact Engine.active?_of_forget active
  | missed name =>
    exact sane.of_keeps (Engine.keeps_forget _ name)
      (fun active => .inl (Engine.active?_of_forget active)) (fun _ => id) fun _ => id
  | @found name entry arguments call finds =>
    obtain ⟨version, active, there⟩ := Engine.exists_of_look finds
    obtain ⟨positive, -⟩ := sane.active active
    have own : call.module.plan.version = version :=
      sane.own positive (Engine.plan?_of_module? there)
    obtain rfl : call.module.version = version := own
    have last := And.intro positive (Engine.plan?_of_module? there)
    exact ⟨sane.own, sane.active, sane.builds,
      List.forall_mem_append.2 ⟨sane.calls, List.forall_mem_singleton.2 last⟩⟩
  | answered found outcome globals =>
    exact sane.of_keeps (Engine.keeps_settle ..) .inl (fun _ => id) fun _ =>
      List.mem_of_mem_eraseIdx

/-- A run keeps a sane state sane. -/
theorem Sane.run {busy : Busy Engine} (sane : busy.Sane language) (moves : List Move) :
    (busy.run (Engine.steps language) moves).Sane language :=
  run_preserves (fun _ move (_ : True) sane => sane.step (stepped sane move))
    (fun _ _ => trivial) sane

/-- An engine without modules is sane. -/
theorem sane_fresh (language : HostLanguage) (limit : Nat) :
    Sane language ⟨{ limit := limit }, [], [], []⟩ := by
  refine ⟨fun {version plan} positive planned => ?_, fun {id version} active => ?_, ?_, ?_⟩
  · obtain ⟨module, found, -⟩ := Engine.exists_of_plan? planned
    cases found
  · cases active
  · simp
  · simp

/-! ## Moves in a world -/

/-- The start of a load or a reload in a world is one in its engine. -/
theorem engine_started {κ : Type} (busy : Busy (World κ)) (again : Bool) (script : Script)
    (ending : Except Fault Nat × World κ) :
    (busy.started again script ending).engine =
      busy.engine.started again script (ending.1, ending.2.engine) := by
  obtain ⟨outcome, world⟩ := ending
  cases outcome <;> rfl

/-- The start of a call in a world is one in its engine. -/
theorem engine_looked {κ : Type} (busy : Busy (World κ)) (id entry : String)
    (ending : Except Fault Call × World κ) :
    (busy.looked id entry ending).engine =
      busy.engine.looked id entry (ending.1, ending.2.engine) := by
  obtain ⟨outcome, world⟩ := ending
  cases outcome <;> rfl

/-- With quiet hooks a move in a world is a move of its engine. -/
theorem engine_step {κ : Type} {hooks : Hooks κ} (quiet : hooks.Quiet) {busy : Busy (World κ)}
    (sane : busy.engine.Sane hooks.language) (move : Move) :
    (busy.step (World.steps hooks) move).engine =
      busy.engine.step (Engine.steps hooks.language) move := by
  cases move with
  | start again script =>
    exact (engine_started busy again script _).trans
      (congrArg (busy.engine.started again script) (World.Ends.start quiet again script).pair)
  | finish place =>
    rw [step, step]
    change _ = match busy.builds[place]? with | none => busy.engine | some build => _
    cases found : busy.builds[place]? with
    | none => rfl
    | some build =>
      have own (module : Module)
          (there : busy.state.engine.module? build.version = some module) :
          module.version = build.version := by
        have positive := (sane.builds build (List.mem_of_getElem? found)).positive
        have planned : busy.engine.state.plan? build.version = some module.plan :=
          Engine.plan?_of_module? there
        have own := sane.own positive planned
        exact own
      exact congrArg (busy.engine.finished place build
        (build.again && busy.state.engine.deleted.contains build.script.id))
        (World.Ends.finish quiet build own).pair
  | delete id => exact congrArg (busy.engine.deleted id) (World.Ends.delete id).pair
  | look id entry arguments =>
    exact (engine_looked busy id entry _).trans
      (congrArg (busy.engine.looked id entry) (World.Ends.lookup id entry arguments).pair)
  | answer place =>
    rw [step, step]
    change _ = match busy.calls[place]? with | none => busy.engine | some call => _
    cases found : busy.calls[place]? with
    | none => rfl
    | some call =>
      obtain ⟨module, there, -⟩ :=
        Engine.exists_of_plan? (sane.calls call (List.mem_of_getElem? found)).2
      have inside : (busy.state.engine.module? call.module.version).isSome :=
        Option.isSome_iff_exists.2 ⟨module, there⟩
      exact congrArg (busy.engine.answered place call) (World.Ends.answer quiet inside).pair

/-- With quiet hooks a run in a world is a run of its engine. -/
theorem engine_run {κ : Type} {hooks : Hooks κ} (quiet : hooks.Quiet) {busy : Busy (World κ)}
    (sane : busy.engine.Sane hooks.language) (moves : List Move) :
    (busy.run (World.steps hooks) moves).engine =
      busy.engine.run (Engine.steps hooks.language) moves := by
  induction moves generalizing busy with
  | nil => rfl
  | cons move rest ih =>
    have step := engine_step quiet sane move
    have next : (busy.step (World.steps hooks) move).engine.Sane hooks.language := by
      rw [step]
      exact sane.step (stepped sane move)
    change ((busy.step (World.steps hooks) move).run (World.steps hooks) rest).engine =
      (busy.engine.step (Engine.steps hooks.language) move).run (Engine.steps hooks.language) rest
    rw [ih next, step]

/-- With quiet hooks a run in a world without modules is a run of an engine without modules. -/
theorem engine_run_fresh {κ : Type} {hooks : Hooks κ} (quiet : hooks.Quiet) {world : World κ}
    {limit : Nat} (fresh : world.engine = { limit := limit }) (moves : List Move) :
    ((⟨world, [], [], []⟩ : Busy (World κ)).run (World.steps hooks) moves).engine =
      (⟨{ limit := limit }, [], [], []⟩ : Busy Engine).run (Engine.steps hooks.language) moves := by
  have first : (⟨world, [], [], []⟩ : Busy (World κ)).engine = ⟨{ limit := limit }, [], [], []⟩ :=
    congrArg (Busy.mk · [] [] []) fresh
  rw [engine_run quiet (first ▸ sane_fresh hooks.language limit), first]

end Busy

end Lag
