import Lag.Proofs.World.Failed
import Mathlib.Data.List.InsertIdx
import Mathlib.Order.Monotone.Basic

/-!
# Engines up to the numbers of versions

A load that fails may leave a module behind that never becomes active. It uses up a version, so that
later modules get other versions than they would have got without it. Apart from these numbers
nothing differs: the same moves do the same in both engines.
-/
namespace Lag

/-! ## Other numbers -/

section

variable (number : Nat → Nat)

/-- A module with another number. -/
def Module.renumber (module : Module) : Module := { module with version := number module.version }

/-- A build with another number. -/
def Build.renumber (build : Build) : Build := { build with version := number build.version }

/-- A call with another number of its module. -/
def Call.renumber (call : Call) : Call := { call with module := call.module.renumber number }

/-- A fault with another number. -/
def Fault.renumber : Fault → Fault
  | .initial id version accident => .initial id (number version) accident
  | fault => fault

/-- The fault of an accident with another number. -/
theorem Fault.renumber_ofAccident (accident : Run.Accident) (fault : Fault) :
    (Fault.ofAccident accident fault).renumber number =
      .ofAccident accident (fault.renumber number) := by
  unfold ofAccident
  split <;> rfl

/-- An outcome with other numbers. -/
def renumber {α : Type} (change : α → α) : Except Fault α → Except Fault α
  | .ok result => .ok (change result)
  | .error fault => .error (fault.renumber number)

/-- A deed with other numbers. -/
def Deed.renumber : Deed → Deed
  | .refused again script fault => .refused again script (fault.renumber number)
  | .built build => .built (build.renumber number)
  | .discarded build outcome =>
    .discarded (build.renumber number) (Lag.renumber number (Option.map number) outcome)
  | .committed build outcome =>
    .committed (build.renumber number) (Lag.renumber number (Option.map number) outcome)
  | .deleted id outcome => .deleted id (Lag.renumber number (fun result => result) outcome)
  | .looked id entry outcome =>
    .looked id entry (Lag.renumber number (fun result => result) outcome)
  | .answered id entry outcome =>
    .answered id entry (Lag.renumber number (fun result => result) outcome)

end

namespace Engine

/-- Engines that differ in the numbers of their versions. -/
structure Renumbered (number : Nat → Nat) (engine other : Engine) : Prop where
  /-- The limit is the same. -/
  limit : other.limit = engine.limit
  /-- The stored scripts are the same. -/
  stored : other.stored = engine.stored
  /-- The deleted identifiers are the same. -/
  deleted : other.deleted = engine.deleted
  /-- The shared things are the same. -/
  shared : other.shared = engine.shared
  /-- The active modules correspond. -/
  active : ∀ id, other.active? id = (engine.active? id).map number
  /-- Active modules have versions. -/
  positive : ∀ {id version}, engine.active? id = some version → 0 < version
  /-- The versions that are still to be given correspond. -/
  next : ∀ count, number (engine.nextVersion + count) = other.nextVersion + count
  /-- The modules correspond. -/
  module? : ∀ version, 0 < version →
    other.module? (number version) = (engine.module? version).map (Module.renumber number)

/-- Outcomes and engines that differ in the numbers of versions. -/
structure Corresponds {α : Type} (number : Nat → Nat) (change : α → α)
    (ending other : Except Fault α × Engine) : Prop where
  /-- The outcomes correspond. -/
  outcome : other.1 = renumber number change ending.1
  /-- The engines correspond. -/
  engine : Renumbered number ending.2 other.2

namespace Renumbered

variable {number : Nat → Nat} {engine other : Engine}

/-- Versions have positive numbers. -/
theorem number_pos (mono : StrictMono number) {version : Nat} (positive : 0 < version) :
    0 < number version :=
  Nat.lt_of_le_of_lt (Nat.zero_le _) (mono positive)

/-- A module changes. -/
theorem withModule (mono : StrictMono number) (same : Renumbered number engine other)
    {version : Nat} (positive : 0 < version) {change : Module → Module}
    (commutes : ∀ module, change (module.renumber number) = (change module).renumber number) :
    Renumbered number (engine.withModule version change)
      (other.withModule (number version) change) where
  limit := same.limit
  stored := same.stored
  deleted := same.deleted
  shared := same.shared
  active := same.active
  positive := same.positive
  next count := by
    rw [nextVersion_withModule, nextVersion_withModule]
    exact same.next count
  module? place given := by
    rw [module?_withModule _ (number_pos mono positive) (number_pos mono given),
      module?_withModule _ positive given, same.module? place given]
    by_cases here : place = version
    · rw [if_pos (congrArg number here), if_pos here]
      cases engine.module? place with
      | none => rfl
      | some module => exact congrArg some (commutes module)
    · rw [if_neg fun equal => here (mono.injective equal), if_neg here]

/-- The variables of a module and the shared things change. -/
theorem settle (mono : StrictMono number) (same : Renumbered number engine other)
    {version : Nat} (positive : 0 < version) (globals shared : Run.Store) :
    Renumbered number (engine.settle version globals shared)
      (other.settle (number version) globals shared) := by
  have set : Renumbered number (engine.withGlobals version globals)
      (other.withGlobals (number version) globals) := same.withModule mono positive fun _ => rfl
  exact ⟨set.limit, set.stored, set.deleted, rfl, set.active, set.positive, set.next, set.module?⟩

/-- The variables of a module are the same. -/
theorem globalsOf (same : Renumbered number engine other) {version : Nat} (positive : 0 < version) :
    other.globalsOf (number version) = engine.globalsOf version := by
  unfold Engine.globalsOf
  rw [same.module? version positive]
  cases engine.module? version <;> rfl

/-- The same modules are stale. -/
theorem isStale (mono : StrictMono number) (same : Renumbered number engine other) (id : String)
    (version : Nat) : other.isStale id (number version) = engine.isStale id version := by
  unfold Engine.isStale
  rw [same.active id]
  cases engine.active? id with
  | none => rfl
  | some current => exact decide_eq_decide.2 mono.le_iff_le

/-- A module is marked as active or inactive. -/
theorem withLoaded (mono : StrictMono number) (same : Renumbered number engine other)
    {version : Nat} (positive : 0 < version) (isLoaded : Bool) :
    Renumbered number
      (engine.withModule version fun module => { module with isLoaded := isLoaded })
      (other.withModule (number version) fun module => { module with isLoaded := isLoaded }) :=
  same.withModule mono positive fun _ => rfl

/-- The active module is marked as inactive. -/
theorem marked (mono : StrictMono number) (same : Renumbered number engine other) (id : String) :
    Renumbered number
      (match engine.active? id with
        | some old => engine.withModule old fun module => { module with isLoaded := false }
        | none => engine)
      (match other.active? id with
        | some old => other.withModule old fun module => { module with isLoaded := false }
        | none => other) := by
  rw [same.active id]
  cases active : engine.active? id with
  | none => exact same
  | some old => exact same.withLoaded mono (same.positive active) false

/-- The table of active modules changes. -/
theorem withActive (same : Renumbered number engine other) {active others : Table Nat}
    (corresponds : ∀ id, others.find? id = (active.find? id).map number)
    (positive : ∀ {id version}, active.find? id = some version → 0 < version) :
    Renumbered number { engine with active := active } { other with active := others } where
  limit := same.limit
  stored := same.stored
  deleted := same.deleted
  shared := same.shared
  active := corresponds
  positive := positive
  next := same.next
  module? := same.module?

/-- A version is put into the table of active modules. -/
theorem put (same : Renumbered number engine other) (id : String) {version : Nat}
    (positive : 0 < version) :
    Renumbered number { engine with active := Table.put id version engine.active }
      { other with active := Table.put id (number version) other.active } := by
  refine same.withActive (fun name => ?_) fun {name found} active => ?_
  · by_cases here : name = id
    · subst here
      rw [Table.find?_put, Table.find?_put]
      rfl
    · rw [Table.find?_put_ne _ _ here, Table.find?_put_ne _ _ here]
      exact same.active name
  · by_cases here : name = id
    · subst here
      rw [Table.find?_put] at active
      exact Option.some.inj active ▸ positive
    · rw [Table.find?_put_ne _ _ here] at active
      exact same.positive active

/-- A version is taken out of the table of active modules. -/
theorem erase (same : Renumbered number engine other) (id : String) :
    Renumbered number { engine with active := engine.active.erase id }
      { other with active := other.active.erase id } := by
  refine same.withActive (fun name => ?_) fun {name found} active => ?_
  · by_cases here : name = id
    · subst here
      rw [Table.find?_erase, Table.find?_erase]
      rfl
    · rw [Table.find?_erase_ne _ here, Table.find?_erase_ne _ here]
      exact same.active name
  · by_cases here : name = id
    · subst here
      rw [Table.find?_erase] at active
      cases active
    · rw [Table.find?_erase_ne _ here] at active
      exact same.positive active

/-- A module becomes active. -/
theorem publish (mono : StrictMono number) (same : Renumbered number engine other) (id : String)
    {version : Nat} (positive : 0 < version) :
    Renumbered number (engine.publish id version) (other.publish id (number version)) :=
  ((same.marked mono id).withLoaded mono positive true).put id positive

/-- An identifier becomes inactive. -/
theorem retract (mono : StrictMono number) (same : Renumbered number engine other) (id : String) :
    Renumbered number (engine.retract id) (other.retract id) :=
  (same.marked mono id).erase id

/-- The same scripts are stored and deleted. -/
theorem withScripts (same : Renumbered number engine other) {stored storedOther : Table Script}
    {deleted deletedOther : List String} (stores : storedOther = stored)
    (deletes : deletedOther = deleted) :
    Renumbered number { engine with stored := stored, deleted := deleted }
      { other with stored := storedOther, deleted := deletedOther } where
  limit := same.limit
  stored := stores
  deleted := deletes
  shared := same.shared
  active := same.active
  positive := same.positive
  next := same.next
  module? := same.module?

/-- A script is stored. -/
theorem store (same : Renumbered number engine other) (script : Script) :
    Renumbered number (engine.store script) (other.store script) :=
  same.withScripts (congrArg (Table.put script.id script) same.stored) same.deleted

/-- It is forgotten that an identifier was deleted. -/
theorem revive (same : Renumbered number engine other) (id : String) :
    Renumbered number (engine.revive id) (other.revive id) :=
  same.withScripts same.stored (congrArg (List.filter (· != id)) same.deleted)

/-- An identifier is deleted. -/
theorem bury (same : Renumbered number engine other) (id : String) :
    Renumbered number (engine.bury id) (other.bury id) := by
  unfold Engine.bury
  rw [same.deleted]
  split
  · exact same
  · exact same.withScripts same.stored rfl

/-- A script is forgotten. -/
theorem forget (mono : StrictMono number) (same : Renumbered number engine other) (id : String) :
    Renumbered number (engine.forget id) (other.forget id) := by
  have forgotten : Renumbered number
      (if engine.stored.has id then engine.unstore id else engine)
      (if engine.stored.has id then other.unstore id else other) := by
    split
    · exact same.withScripts (congrArg (Table.erase · id) same.stored) same.deleted
    · exact same
  unfold Engine.forget
  dsimp only
  rw [same.stored, same.active id, Option.isSome_map]
  split
  · exact forgotten.retract mono id
  · exact forgotten

/-- A module is added. -/
theorem insert (mono : StrictMono number) (same : Renumbered number engine other) (id : String)
    (content : Content) (globals shared : Run.Store) :
    Renumbered number (engine.insert id content globals shared)
      (other.insert id content globals shared) where
  limit := same.limit
  stored := same.stored
  deleted := same.deleted
  shared := rfl
  active := same.active
  positive := same.positive
  next count := by
    rw [nextVersion_insert, nextVersion_insert, Nat.add_assoc, Nat.add_assoc]
    exact same.next (1 + count)
  module? version positive := by
    have last : number engine.nextVersion = other.nextVersion := same.next 0
    rcases Nat.lt_trichotomy version engine.nextVersion with older | rfl | newer
    · have olderOther : number version < other.nextVersion := last ▸ mono older
      rw [module?_insert older positive, module?_insert olderOther (number_pos mono positive)]
      exact same.module? version positive
    · rw [last, module?_insert_next, module?_insert_next, Option.map_some, Module.renumber, last]
    · have newerOther : other.nextVersion < number version := last ▸ mono newer
      rw [module?_of_le (by rwa [nextVersion_insert]), module?_of_le (by rwa [nextVersion_insert])]
      rfl

/-! ### Operations -/

/-- A load or a reload starts alike. -/
theorem start (language : HostLanguage) (mono : StrictMono number)
    (same : Renumbered number engine other) (again : Bool) (script : Script) :
    Corresponds number number (engine.start language again script)
      (other.start language again script) := by
  unfold Engine.start
  split
  · exact ⟨rfl, same⟩
  · unfold Engine.build
    rw [same.limit]
    cases language.compile script engine.limit with
    | error fault => exact ⟨rfl, same⟩
    | ok content =>
      dsimp only
      rw [same.shared]
      obtain ⟨outcome, globals, shared⟩ := language.prepared content engine.shared
      have added := same.insert mono script.id content globals shared
      cases outcome with
      | error accident =>
        exact ⟨congrArg Except.error (Fault.renumber_ofAccident number accident
          (.compile (.body script accident))).symm, added⟩
      | ok value => exact ⟨congrArg Except.ok (same.next 0).symm, added⟩

/-- A module becomes active alike. -/
theorem activate (language : HostLanguage) (mono : StrictMono number)
    (same : Renumbered number engine other) {version : Nat} (positive : 0 < version) :
    Corresponds number (fun swapped => swapped) (engine.activate language version)
      (other.activate language (number version)) := by
  have there := same.module? version positive
  cases found : engine.module? version with
  | none =>
    rw [found] at there
    unfold Engine.activate
    rw [found, there]
    exact ⟨rfl, same⟩
  | some module =>
    rw [found] at there
    have staleOther := same.isStale mono module.id version
    cases stale : engine.isStale module.id version with
    | true =>
      rw [activate_of_stale language found stale,
        activate_of_stale language there (staleOther.trans stale)]
      exact ⟨rfl, same⟩
    | false =>
      rw [activate_of_fresh language found stale,
        activate_of_fresh language there (staleOther.trans stale), same.globalsOf positive,
        same.shared]
      -- What the first values come to does not depend on the version.
      have holds : (module.renumber number).content = module.content := rfl
      rw [holds]
      generalize language.alone module.content .initial _ _ = ending
      obtain ⟨outcome, globals, shared⟩ := ending
      have set := same.settle mono positive globals shared
      cases outcome with
      | error accident =>
        exact ⟨congrArg Except.error (Fault.renumber_ofAccident number accident
          (.initial module.id version accident)).symm, set⟩
      | ok _ => exact ⟨rfl, set.publish mono module.id positive⟩

/-- A module is committed alike. -/
theorem commit (language : HostLanguage) (mono : StrictMono number)
    (same : Renumbered number engine other) {version : Nat} (positive : 0 < version)
    (script : Script) :
    Corresponds number (fun swapped => swapped) (engine.commit language script version)
      (other.commit language script (number version)) := by
  have activates := same.activate language mono positive
  unfold Engine.commit
  revert activates
  generalize engine.activate language version = ending
  generalize other.activate language (number version) = endingOther
  obtain ⟨outcome, left⟩ := ending
  obtain ⟨outcomeOther, leftOther⟩ := endingOther
  rintro ⟨outcomes, engines⟩
  obtain rfl : outcomeOther = Lag.renumber number (fun swapped => swapped) outcome := outcomes
  match outcome with
  | .error fault => exact ⟨rfl, engines⟩
  | .ok false => exact ⟨rfl, engines⟩
  | .ok true =>
    cases valid : script.isValid with
    | true =>
      simp only [Lag.renumber, if_true]
      exact ⟨rfl, engines.store script⟩
    | false =>
      simp only [Lag.renumber, Bool.false_eq_true, if_false]
      exact ⟨rfl, engines⟩

/-- What a commit starts from corresponds. -/
theorem base (same : Renumbered number engine other) (build : Build) :
    Renumbered number (engine.base build) (other.base (build.renumber number)) := by
  unfold Engine.base
  change Renumbered _ _ (if build.again then other else other.revive build.script.id)
  split
  · exact same
  · exact same.revive build.script.id

/-- The version is told alike. -/
theorem told {ending endingOther : Except Fault Bool × Engine} (version : Nat)
    (corresponds : Corresponds number (fun swapped => swapped) ending endingOther) :
    Corresponds number (Option.map number) (Engine.told version ending)
      (Engine.told (number version) endingOther) := by
  obtain ⟨outcome, left⟩ := ending
  obtain ⟨outcomeOther, leftOther⟩ := endingOther
  obtain ⟨outcomes, engines⟩ := corresponds
  obtain rfl : outcomeOther = Lag.renumber number (fun swapped => swapped) outcome := outcomes
  match outcome with
  | .error fault => exact ⟨rfl, engines⟩
  | .ok false => exact ⟨rfl, engines⟩
  | .ok true => exact ⟨rfl, engines⟩

/-- A load or a reload is finished alike. -/
theorem finish (language : HostLanguage) (mono : StrictMono number)
    (same : Renumbered number engine other) (build : Build) (positive : 0 < build.version) :
    Corresponds number (Option.map number) (engine.finish language build)
      (other.finish language (build.renumber number)) := by
  rw [finish_eq, finish_eq, same.deleted]
  change Corresponds _ _ _ (if build.again && engine.deleted.contains build.script.id then _ else _)
  split
  · exact ⟨rfl, same⟩
  · exact told build.version ((same.base build).commit language mono positive build.script)

/-- A script is forgotten alike. -/
theorem delete (mono : StrictMono number) (same : Renumbered number engine other) (id : String) :
    Corresponds number (fun forgot => forgot) (engine.delete id) (other.delete id) := by
  unfold Engine.delete
  rw [same.stored, same.active id, Option.isSome_map]
  split
  · exact ⟨rfl, (same.forget mono id).bury id⟩
  · exact ⟨rfl, same.forget mono id⟩

/-- A function is looked up alike. -/
theorem look (same : Renumbered number engine other) (id entry : String)
    (arguments : List Value) :
    other.look id entry arguments =
      Lag.renumber number (Call.renumber number) (engine.look id entry arguments) := by
  unfold Engine.look
  rw [same.active id]
  cases active : engine.active? id with
  | none => rfl
  | some version =>
    rw [Option.map_some, Option.bind_some, Option.bind_some,
      same.module? version (same.positive active)]
    cases engine.module? version with
    | none => rfl
    | some module =>
      dsimp only [Option.map_some, Module.renumber]
      cases module.content.find? module.globals entry <;> rfl

/-- A call is answered alike. -/
theorem answer (language : HostLanguage) (mono : StrictMono number)
    (same : Renumbered number engine other) (call : Call) (positive : 0 < call.module.version) :
    Corresponds number (fun value => value) (engine.answer language call)
      (other.answer language (call.renumber number)) := by
  have globals : other.globalsOf (call.renumber number).module.version =
      engine.globalsOf call.module.version := same.globalsOf positive
  have answers : language.alone (call.renumber number).module.content
      (.call (call.renumber number).function (call.renumber number).arguments)
      (other.globalsOf (call.renumber number).module.version) other.shared =
        language.alone call.module.content (.call call.function call.arguments)
          (engine.globalsOf call.module.version) engine.shared := by
    rw [globals, same.shared]
    rfl
  unfold Engine.answer
  dsimp only
  rw [answers]
  generalize language.alone call.module.content (.call call.function call.arguments) _ _ = ending
  obtain ⟨outcome, globals, shared⟩ := ending
  have set := same.settle mono positive globals shared
  cases outcome with
  | error accident =>
    exact ⟨congrArg Except.error (Fault.renumber_ofAccident number accident
      (.script call.id call.entry accident)).symm, set⟩
  | ok value => exact ⟨rfl, set⟩

end Renumbered

end Engine

/-! ## Runs -/

/-- Operations under way that differ in the numbers of versions. -/
structure Busy.Renumbered (number : Nat → Nat) (busy other : Busy Engine) : Prop where
  /-- The engines correspond. -/
  state : busy.state.Renumbered number other.state
  /-- The builds that wait correspond. -/
  builds : other.builds = busy.builds.map (Build.renumber number)
  /-- The calls that wait correspond. -/
  calls : other.calls = busy.calls.map (Call.renumber number)
  /-- The deeds correspond. -/
  past : other.past = busy.past.map (Deed.renumber number)

namespace Busy

variable {language : HostLanguage} {number : Nat → Nat} {busy other : Busy Engine}

/-- A move does the same. -/
theorem Renumbered.step (mono : StrictMono number) (same : busy.Renumbered number other)
    (sane : busy.Sane language) (move : Move) :
    (busy.step (Engine.steps language) move).Renumbered number
      (other.step (Engine.steps language) move) := by
  obtain ⟨state, builds, calls, past⟩ := same
  cases move with
  | start again script =>
    have starts := state.start language mono again script
    change (busy.started again script (busy.state.start language again script)).Renumbered number
      (other.started again script (other.state.start language again script))
    revert starts
    generalize busy.state.start language again script = ending
    generalize other.state.start language again script = endingOther
    obtain ⟨outcome, left⟩ := ending
    obtain ⟨outcomeOther, leftOther⟩ := endingOther
    rintro ⟨outcomes, engines⟩
    obtain rfl : outcomeOther = Lag.renumber number number outcome := outcomes
    cases outcome with
    | ok version =>
      refine ⟨engines, ?_, calls, congrArg₂ List.cons rfl past⟩
      change other.builds ++ [_] = (busy.builds ++ [_]).map _
      rw [builds, List.map_append]
      rfl
    | error fault => exact ⟨engines, builds, calls, congrArg₂ List.cons rfl past⟩
  | finish place =>
    rw [Busy.step, Busy.step, builds, List.getElem?_map]
    cases found : busy.builds[place]? with
    | none => exact ⟨state, builds, calls, past⟩
    | some build =>
      have positive := (sane.builds build (List.mem_of_getElem? found)).positive
      obtain ⟨outcomes, engines⟩ := state.finish language mono build positive
      have discards : ((build.renumber number).again &&
          other.state.deleted.contains (build.renumber number).script.id) =
          (build.again && busy.state.deleted.contains build.script.id) :=
        congrArg (build.again && List.contains · build.script.id) state.deleted
      refine ⟨engines, ?_, calls, congrArg₂ List.cons ?_ past⟩
      · exact (congrArg (List.eraseIdx · place) builds).trans (List.eraseIdx_map ..)
      · change (if ((build.renumber number).again &&
            other.state.deleted.contains (build.renumber number).script.id) then _ else _) =
          Deed.renumber number (if (build.again &&
            busy.state.deleted.contains build.script.id) then _ else _)
        rw [discards]
        split
        · exact congrArg (Deed.discarded _) outcomes
        · exact congrArg (Deed.committed _) outcomes
  | delete id =>
    obtain ⟨outcomes, engines⟩ := state.delete mono id
    exact ⟨engines, builds, calls, congrArg₂ List.cons (congrArg (Deed.deleted id) outcomes) past⟩
  | look id entry arguments =>
    change (busy.looked id entry (busy.state.look id entry arguments, busy.state)).Renumbered number
      (other.looked id entry (other.state.look id entry arguments, other.state))
    rw [state.look id entry arguments]
    cases busy.state.look id entry arguments with
    | ok call =>
      refine ⟨state, builds, ?_, congrArg₂ List.cons rfl past⟩
      change other.calls ++ [_] = (busy.calls ++ [call]).map _
      rw [calls, List.map_append]
      rfl
    | error fault => exact ⟨state, builds, calls, congrArg₂ List.cons rfl past⟩
  | answer place =>
    rw [Busy.step, Busy.step, calls, List.getElem?_map]
    cases found : busy.calls[place]? with
    | none => exact ⟨state, builds, calls, past⟩
    | some call =>
      have positive := (sane.calls call (List.mem_of_getElem? found)).1
      obtain ⟨outcomes, engines⟩ := state.answer language mono call positive
      refine ⟨engines, builds, ?_,
        congrArg₂ List.cons (congrArg (Deed.answered call.id call.entry) outcomes) past⟩
      exact (congrArg (List.eraseIdx · place) calls).trans (List.eraseIdx_map ..)

/-- A run does the same. -/
theorem Renumbered.run (mono : StrictMono number) (same : busy.Renumbered number other)
    (sane : busy.Sane language) (moves : List Move) :
    (busy.run (Engine.steps language) moves).Renumbered number
      (other.run (Engine.steps language) moves) := by
  induction moves generalizing busy other with
  | nil => exact same
  | cons move rest ih =>
    exact ih (same.step mono sane move) (sane.step (stepped sane move))

/-- What waits keeps its numbers if those of the versions that were given stay. -/
theorem Sane.renumbered (sane : busy.Sane language) {state : Engine}
    (same : busy.state.Renumbered number state)
    (kept : ∀ version, version < busy.state.nextVersion → number version = version) :
    Busy.Renumbered number { busy with past := [] } { busy with state := state, past := [] } := by
  refine ⟨same, ?_, ?_, rfl⟩
  · refine ((List.map_congr_left fun build inside => ?_).trans (List.map_id _)).symm
    obtain ⟨_, -, planned⟩ := (sane.builds build inside).module
    rw [Build.renumber, kept _ (Engine.lt_of_plan? planned)]
    rfl
  · refine ((List.map_congr_left fun call inside => ?_).trans (List.map_id _)).symm
    obtain ⟨-, planned⟩ := sane.calls call inside
    rw [Call.renumber, Module.renumber, kept _ (Engine.lt_of_plan? planned)]
    rfl

end Busy

/-! ## Loads that fail -/

/-- The numbers of versions when one of them is used up. -/
def skip (used version : Nat) : Nat := if version < used then version else version + 1

/-- Versions keep their order. -/
theorem strictMono_skip (used : Nat) : StrictMono (skip used) := by
  intro first second before
  unfold skip
  split <;> split <;> omega

namespace Busy

variable {language : HostLanguage} {busy : Busy Engine}

/-- A module that never becomes active uses up a version. -/
theorem Sane.renumbered_insert (sane : busy.Sane language) (id : String) (content : Content)
    (globals : Run.Store) {shared : Run.Store} (same : shared = busy.state.shared) :
    busy.state.Renumbered (skip busy.state.nextVersion)
      (busy.state.insert id content globals shared) where
  limit := rfl
  stored := rfl
  deleted := rfl
  shared := same
  active id := by
    change busy.state.active? id = _
    cases active : busy.state.active? id with
    | none => rfl
    | some version =>
      obtain ⟨-, plan, planned, -⟩ := sane.active active
      exact congrArg some (if_pos (Engine.lt_of_plan? planned)).symm
  positive active := (sane.active active).1
  next count := by
    rw [Engine.nextVersion_insert, skip, if_neg (by omega)]
    omega
  module? version positive := by
    unfold skip
    by_cases given : version < busy.state.nextVersion
    · rw [if_pos given, Engine.module?_insert given positive]
      cases found : busy.state.module? version with
      | none => rfl
      | some module =>
        have own := sane.own positive (Engine.plan?_of_module? found)
        rw [Module.version_plan] at own
        have same : skip busy.state.nextVersion module.version = module.version :=
          if_pos (own ▸ given)
        rw [Option.map_some]
        change some module = some (module.renumber (skip _))
        rw [Module.renumber, same]
    · have missing : busy.state.module? version = none := Engine.module?_of_le (by omega)
      rw [if_neg given, missing]
      refine Engine.module?_of_le ?_
      rw [Engine.nextVersion_insert]
      omega

/-- Nothing differs in one engine. -/
theorem Sane.renumbered_refl (sane : busy.Sane language) :
    busy.state.Renumbered id busy.state where
  limit := rfl
  stored := rfl
  deleted := rfl
  shared := rfl
  active _ := (congrFun Option.map_id _).symm
  positive active := (sane.active active).1
  next _ := rfl
  module? _ _ := (congrFun Option.map_id _).symm

/-- A load that fails leaves a sane state behind in which nothing differs but the numbers of the
versions that are still to be given, if the shared things are left as they were. -/
theorem Sane.failed (sane : busy.Sane language) {script : Script} {fault : Fault} {left : Engine}
    (fails : busy.state.Fails language false script fault left)
    (unmarked : fault.isLate = false ∨ script.id ∉ busy.state.deleted) :
    Sane language { busy with state := left, past := [] } ∧ busy.state.Unchanged left ∧
      (left.shared = busy.state.shared →
        ∃ number, StrictMono number ∧ busy.state.Renumbered number left ∧
          ∀ version, version < busy.state.nextVersion → number version = version) := by
  have inserted (content : Content) (globals shared : Run.Store) :
      Sane language
          { busy with
            state := busy.state.insert script.id content globals shared
            past := [] } ∧
        busy.state.Unchanged (busy.state.insert script.id content globals shared) ∧
        (shared = busy.state.shared →
          ∃ number, StrictMono number ∧
            busy.state.Renumbered number (busy.state.insert script.id content globals shared) ∧
            ∀ version, version < busy.state.nextVersion → number version = version) :=
    ⟨sane.insert script.id content globals shared [], Engine.unchanged_insert .., fun same =>
      ⟨skip _, strictMono_skip _, sane.renumbered_insert script.id content globals same,
        fun version given => if_pos given⟩⟩
  cases fails with
  | unbuilt =>
    exact ⟨⟨sane.own, sane.active, sane.builds, sane.calls⟩, .refl _, fun _ =>
      ⟨id, strictMono_id, sane.renumbered_refl, fun _ _ => rfl⟩⟩
  | spoilt compiles accident globals shared => exact inserted _ globals shared
  | @unready content compiles accident globals shared =>
    have fresh : script.id ∉ busy.state.deleted := by
      rcases unmarked with early | fresh
      · rw [Fault.isLate_ofAccident_initial] at early
        cases early
      · exact fresh
    have base : (busy.state.insert script.id content globals shared).base
        ⟨false, script, busy.state.nextVersion⟩ =
          busy.state.insert script.id content globals shared :=
      Engine.revive_of_not_mem fresh
    rw [base]
    exact inserted content globals shared
  | unsaved isAgain => cases isAgain

end Busy

/-- A load that fails changes nothing, unless its script was deleted and it failed after the module
was built. Whatever is done later does the same as if there had been no such load, up to the numbers
of versions, unless the load changed what scripts of the host language share. -/
theorem load_unchanged {κ : Type} {hooks : Hooks κ} (quiet : hooks.Quiet) {world : World κ}
    {limit : Nat} (fresh : world.engine = { limit := limit }) (moves : List Move)
    {script : Script} {fault : Fault} {after : World κ} :
    let busy := (⟨world, [], [], []⟩ : Busy (World κ)).run (World.steps hooks) moves
    World.ended (World.load hooks script) busy.state = (.error fault, after) →
    fault.isLate = false ∨ script.id ∉ busy.state.engine.deleted →
      busy.state.engine.Unchanged after.engine ∧
        (after.engine.shared = busy.state.engine.shared →
          ∃ number, StrictMono number ∧ ∀ later,
            let kept := Busy.run (World.steps hooks) { busy with past := [] } later
            let changed := Busy.run (World.steps hooks) { busy with state := after, past := [] } later
            kept.engine.Renumbered number changed.engine) := by
  intro busy failed unmarked
  have sane : busy.engine.Sane hooks.language := by
    rw [Busy.engine_run_fresh quiet fresh]
    exact (Busy.sane_fresh hooks.language limit).run moves
  have ends : World.Ends (World.load hooks script) busy.state _ := World.Ends.load quiet script
  have pair := ends.pair
  rw [failed] at pair
  obtain ⟨saneAfter, unchanged, renumbers⟩ := sane.failed (Engine.fails pair.symm) unmarked
  refine ⟨unchanged, fun same => ?_⟩
  obtain ⟨number, mono, renumbered, kept⟩ := renumbers same
  refine ⟨number, mono, fun later => ?_⟩
  have before : (⟨busy.state, busy.builds, busy.calls, []⟩ : Busy (World κ)).engine.Sane
      hooks.language := ⟨sane.own, sane.active, sane.builds, sane.calls⟩
  have behind : (⟨after, busy.builds, busy.calls, []⟩ : Busy (World κ)).engine.Sane
      hooks.language := saneAfter
  dsimp only
  rw [Busy.engine_run quiet before, Busy.engine_run quiet behind]
  exact (sane.renumbered renumbered kept).run mono before later

/-- A world in which a script was loaded. -/
def loaded : Busy (World Unit) :=
  Busy.run (World.steps Hooks.none) ⟨World.initial (), [], [], []⟩
    [.start false ⟨"a", .lag, "fn f() -> int \x7b return 1; \x7d", none⟩, .finish 0]

/-- After a script was loaded, a load of it fails for a variable without a first value. That changes
nothing. -/
theorem load_unchanged_unready : ∃ fault after,
    World.ended (World.load Hooks.none World.unready) loaded.state = (.error fault, after) ∧
      World.unready.id ∉ loaded.state.engine.deleted ∧
        loaded.state.engine.Unchanged after.engine := by
  have checks : (match World.ended (World.load Hooks.none World.unready) loaded.state with
      | (.error _, _) => !loaded.state.engine.deleted.contains World.unready.id
      | (.ok _, _) => false) = true := by
    decide +kernel
  cases ending : World.ended (World.load Hooks.none World.unready) loaded.state with
  | mk outcome after =>
    rw [ending] at checks
    cases outcome with
    | error fault =>
      have fresh : World.unready.id ∉ loaded.state.engine.deleted := by simpa using checks
      exact ⟨fault, after, rfl, fresh,
        (load_unchanged (Hooks.quiet_none .none) rfl _ ending (.inr fresh)).1⟩
    | ok result => cases checks

/-- A world in which a script was loaded and deleted. -/
def unloaded : Busy (World Unit) := loaded.step (World.steps Hooks.none) (.delete "a")

/-- After a script was deleted, a load of it fails for a variable without a first value: it is not
deleted any more. -/
theorem load_changed_unready : ∃ fault after,
    World.ended (World.load Hooks.none World.unready) unloaded.state = (.error fault, after) ∧
      ¬ unloaded.state.engine.Unchanged after.engine := by
  have checks : (match World.ended (World.load Hooks.none World.unready) unloaded.state with
      | (.error _, after) => unloaded.state.engine.deleted == ["a"] && after.engine.deleted == []
      | (.ok _, _) => false) = true := by
    decide +kernel
  cases ending : World.ended (World.load Hooks.none World.unready) unloaded.state with
  | mk outcome after =>
    rw [ending] at checks
    cases outcome with
    | error fault =>
      obtain ⟨before, left⟩ := Bool.and_eq_true_iff.1 checks
      refine ⟨fault, after, rfl, fun same => ?_⟩
      have kept : after.engine.deleted = ["a"] := same.deleted.trans (eq_of_beq before)
      rw [kept] at left
      cases left
    | ok result => cases checks

end Lag
