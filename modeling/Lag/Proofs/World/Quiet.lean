import Lag.Proofs.Run.Alike
import Lag.Proofs.World.Functions

/-!
# Operations that nobody disturbs

Hooks are quiet if they leave the engine alone. With quiet hooks every operation ends as the
functions of the engine say, whatever else is in the world. A part of a program runs as it does
alone, for what it writes changes nothing but the announcements and the variables of its module.
-/
namespace Lag

/-- Hooks that leave the engine alone. -/
structure Hooks.Quiet {κ : Type} (hooks : Hooks κ) : Prop where
  /-- Nothing happens to the engine after a module was compiled. -/
  compile : ∀ world, (hooks.afterCompile world).engine = world.engine
  /-- Nothing happens to the engine after a script wrote a line. -/
  line : ∀ world, (hooks.afterLine world).engine = world.engine

/-- Hooks that do nothing are quiet. -/
theorem Hooks.quiet_none {κ : Type} (language : HostLanguage) :
    (Hooks.none language : Hooks κ).Quiet :=
  ⟨fun _ => rfl, fun _ => rfl⟩

namespace World

variable {κ α β : Type} {world : World κ}

/-! ## Ends of operations -/

/-- An operation ends with an outcome and an engine. -/
structure Ends (act : Act κ α) (world : World κ) (outcome : Except Fault α × Engine) : Prop where
  /-- The outcome. -/
  gives : (ended act world).1 = outcome.1
  /-- The engine. -/
  leaves : (ended act world).2.engine = outcome.2

namespace Ends

/-- The outcome and the engine. -/
theorem pair {act : Act κ α} {outcome : Except Fault α × Engine} (ends : Ends act world outcome) :
    ((ended act world).1, (ended act world).2.engine) = outcome :=
  Prod.ext ends.gives ends.leaves

/-- A result. -/
theorem pure {engine : Engine} (same : world.engine = engine) (result : α) :
    Ends (Pure.pure result : Act κ α) world (.ok result, engine) :=
  ⟨rfl, same⟩

/-- A fault. -/
theorem throw {engine : Engine} (same : world.engine = engine) (fault : Fault) :
    Ends (MonadExcept.throw fault : Act κ α) world (.error fault, engine) :=
  ⟨rfl, same⟩

/-- An entry of the journal. -/
theorem say {engine : Engine} (same : world.engine = engine) (part : String) (level : Log.Level)
    (message : String) : Ends (World.say part level message) world (.ok (), engine) :=
  ⟨rfl, same⟩

/-- A change of the engine. -/
theorem change (act : Engine → Engine) :
    Ends (World.change act) world (.ok (), act world.engine) :=
  ⟨rfl, rfl⟩

/-- A change of the world. -/
theorem changed (change : World κ → World κ) :
    Ends (modify change : Act κ Unit) world (.ok (), (change world).engine) :=
  ⟨rfl, rfl⟩

/-- A look at the world. -/
theorem look {next : World κ → Act κ α} {outcome : Except Fault α × Engine}
    (goes : Ends (next world) world outcome) : Ends (get >>= next) world outcome :=
  ⟨goes.gives, goes.leaves⟩

/-- An operation goes on from where its first step ends. -/
theorem bind {act : Act κ α} {next : α → Act κ β} {result : α} {engine : Engine}
    {outcome : Except Fault β × Engine} (first : Ends act world (.ok result, engine))
    (goes : ∀ after : World κ, after.engine = engine → Ends (next result) after outcome) :
    Ends (act >>= next) world outcome := by
  obtain ⟨results, leaves⟩ := first
  have split := ended_bind act next world
  revert results leaves split
  cases ended act world with
  | mk reached after =>
    rintro results leaves split
    obtain rfl : reached = .ok result := results
    exact ⟨split ▸ (goes after leaves).gives, split ▸ (goes after leaves).leaves⟩

/-- An operation ends if its first step fails. -/
theorem bind_error {act : Act κ α} {next : α → Act κ β} {fault : Fault} {engine : Engine}
    (first : Ends act world (.error fault, engine)) :
    Ends (act >>= next) world (.error fault, engine) := by
  obtain ⟨fails, leaves⟩ := first
  have split := ended_bind act next world
  revert fails leaves split
  cases ended act world with
  | mk reached after =>
    rintro fails leaves split
    obtain rfl : reached = .error fault := fails
    exact ⟨split ▸ rfl, split ▸ leaves⟩

/-- A module does on a request what it does alone: its lines are written by the module itself, and
its variables and the shared things are kept in the engine only. -/
theorem runModule {hooks : Hooks κ} (quiet : hooks.Quiet) {module : Module}
    (found : (world.engine.module? module.version).isSome) (request : Run.Request) :
    Ends (World.runModule hooks module request) world
      (let (outcome, globals, shared) := hooks.language.alone module.content request
        (world.engine.globalsOf module.version) world.engine.shared
      (.ok outcome, world.engine.settle module.version globals shared)) := by
  -- Around the part the engine stays as it is but for the variables and the shared things.
  let related (after : World κ) (shared : Run.Store) : Prop :=
    (after.engine.module? module.version).isSome ∧ after.engine.shared = shared ∧
      ∀ globals things, after.engine.settle module.version globals things =
        world.engine.settle module.version globals things
  have given : related world world.engine.shared := ⟨found, rfl, fun _ _ => rfl⟩
  have writes : Run.Writes related (port hooks module).write silent.write := by
    intro line globals after shared given
    have leaves : (writer hooks module line globals after).2.engine =
        after.engine.withGlobals module.version globals := quiet.line _
    refine ⟨?_, ?_, ?_, fun others things => ?_⟩
    · show (writer hooks module line globals after).2.engine.globalsOf module.version = globals
      rw [leaves, Engine.globalsOf_withGlobals _ given.1]
    · show ((writer hooks module line globals after).2.engine.module? module.version).isSome
      rw [leaves, (Engine.keeps_withGlobals globals).isSome]
      exact given.1
    · exact (congrArg Engine.shared leaves).trans given.2.1
    · refine Eq.trans ?_ (given.2.2 others things)
      show (writer hooks module line globals after).2.engine.settle _ _ _ = _
      rw [leaves, Engine.settle, Engine.withGlobals_withGlobals, Engine.settle]
  have ports : Run.Ports (fun _ => True) related (port hooks module) silent :=
    ⟨writes, fun given => given.2.1, fun _ => trivial,
      fun _ given => ⟨given.1, rfl, given.2.2⟩⟩
  obtain ⟨same, kept, -, things, leaves⟩ :=
    hooks.language.agree (hooks.language.holds_true module.content) request ports
      (world.engine.globalsOf module.version) given
  constructor
  · exact congrArg Except.ok same
  · exact (leaves _ _).trans (congr (congrArg (fun globals shared =>
      world.engine.settle module.version globals shared) kept) things)

end Ends

/-! ## Operations -/

/-- The version of the active module is looked up. -/
theorem Ends.activeVersion (id : String) :
    Ends (World.activeVersion id) world (.ok (world.engine.active? id), world.engine) :=
  ⟨rfl, rfl⟩

/-- Whether a version is older than the active one is looked up. -/
theorem Ends.isStale (id : String) (version : Nat) :
    Ends (World.isStale id version) world
      (.ok (world.engine.isStale id version), world.engine) := by
  refine (Ends.activeVersion id).bind fun after same => ?_
  rw [Engine.isStale]
  cases world.engine.active? id with
  | none => exact Ends.pure same _
  | some current =>
    by_cases older : current < version
    · have fresh : (version ≤ current) = False := by simpa using older
      simp only [if_pos older, Option.any_some, fresh, decide_false]
      exact Ends.pure same _
    · have stale : (version ≤ current) = True := by simpa using older
      simp only [if_neg older, Option.any_some, stale, decide_true]
      exact (Ends.say same ..).bind fun last noted => Ends.pure noted _

section

variable {hooks : Hooks κ}

/-- The text of a module that was added is run as the engine does. -/
theorem Ends.prepare (quiet : hooks.Quiet) (script : Script) {engine : Engine} {content : Content}
    (added : world.engine = engine.add script.id content) :
    Ends (World.prepare hooks script ⟨script.id, engine.nextVersion, content, [], false⟩) world
      (match hooks.language.prepared content engine.shared with
        | (.error accident, globals, shared) =>
          (.error (.ofAccident accident (.compile (.body script accident))),
            engine.insert script.id content globals shared)
        | (.ok _, globals, shared) => (.ok (), engine.insert script.id content globals shared)) := by
  cases content with
  | lag linked => exact Ends.pure added _
  | host text native =>
    have found := Engine.module?_insert_next engine script.id (.host text native) [] engine.shared
    rw [← Engine.add_eq, ← added] at found
    let module : Module := ⟨script.id, engine.nextVersion, .host text native, [], false⟩
    have there : (world.engine.module? module.version).isSome := Option.isSome_of_eq_some found
    have runs := Ends.runModule quiet there .body
    have empty : world.engine.globalsOf engine.nextVersion = [] := by
      rw [Engine.globalsOf, found]
      rfl
    have things : world.engine.shared = engine.shared := by
      rw [added]
      rfl
    dsimp only at runs
    rw [empty, things, added] at runs
    unfold World.prepare HostLanguage.prepared
    dsimp only
    revert runs
    generalize hooks.language.alone (.host text native) .body [] engine.shared = ending
    obtain ⟨outcome, globals, shared⟩ := ending
    dsimp only
    rw [Engine.add_eq, Engine.settle_insert]
    intro runs
    refine runs.bind fun after ran => ?_
    cases outcome with
    | error accident => exact Ends.throw ran _
    | ok value => exact Ends.pure ran _

/-- A script is compiled as the engine does. -/
theorem Ends.compileModule (quiet : hooks.Quiet) (script : Script) :
    Ends (World.compileModule hooks script) world (world.engine.build hooks.language script) := by
  unfold World.compileModule Engine.build
  have reserves := ended_reserve hooks.language script world
  cases text : hooks.language.compile script world.engine.limit with
  | error fault =>
    rw [text] at reserves
    exact Ends.bind_error ⟨congrArg Prod.fst reserves, by rw [reserves]⟩
  | ok content =>
    rw [text] at reserves
    have adds : Ends (World.reserve hooks.language script) world
        (.ok ⟨script.id, world.engine.nextVersion, content, [], false⟩,
          world.engine.add script.id content) :=
      ⟨congrArg Prod.fst reserves, by rw [reserves]; rfl⟩
    refine adds.bind fun first added => ?_
    have prepares := Ends.prepare quiet script added
    dsimp only
    revert prepares
    generalize hooks.language.prepared content world.engine.shared = ending
    obtain ⟨outcome, globals, shared⟩ := ending
    intro prepares
    cases outcome with
    | error accident => exact prepares.bind_error
    | ok value =>
      refine prepares.bind fun second prepared => Ends.look ?_
      refine (Ends.say prepared ..).bind fun third noted => ?_
      refine (Ends.changed _).bind fun last hooked => ?_
      rw [quiet.compile, noted] at hooked
      exact Ends.pure hooked _

/-- A script is built as the engine does. -/
theorem Ends.build (quiet : hooks.Quiet) (script : Script) :
    Ends (World.build hooks script) world (world.engine.build hooks.language script) := by
  have compiles : Ends (World.compileModule hooks script) world _ := Ends.compileModule quiet script
  -- Whether it compiled is announced, and then the outcome is taken up again.
  have caught : Ends (tryCatch (Except.ok <$> World.compileModule hooks script)
      fun fault => return .error fault) world
      (.ok (world.engine.build hooks.language script).1, (world.engine.build hooks.language script).2) := by
    obtain ⟨gives, leaves⟩ := compiles
    rw [← gives, ← leaves]
    have split := ended_tryCatch (Except.ok <$> World.compileModule hooks script)
      (fun fault => return .error fault) world
    rw [ended_map] at split
    revert split
    cases ended (World.compileModule hooks script) world with
    | mk outcome after => cases outcome <;> exact fun split => ⟨split ▸ rfl, split ▸ rfl⟩
  unfold World.build
  refine caught.bind fun after same => ?_
  generalize world.engine.build hooks.language script = built at same ⊢
  obtain ⟨outcome, engine⟩ := built
  cases outcome with
  | ok version =>
    exact (Ends.changed _).bind fun last announced => Ends.pure (announced.trans same) _
  | error fault =>
    dsimp only
    split
    · refine (Ends.say same ..).bind fun first noted => ?_
      refine (Ends.changed _).bind fun last announced => ?_
      exact Ends.throw (announced.trans noted) _
    · exact Ends.throw same _

/-- A script with an identifier is stored, and no other one is. -/
theorem Ends.save (script : Script) :
    Ends (World.save script) world
      (if script.isValid then (.ok (), world.engine.store script)
        else (.error (.invalidId "save"), world.engine)) := by
  unfold World.save
  cases script.isValid with
  | true => exact (Ends.change _).bind fun after stored => Ends.say stored ..
  | false => exact Ends.bind_error (Ends.throw rfl _)

/-- A module is made active as the engine does. -/
theorem Ends.activate (quiet : hooks.Quiet) {version : Nat}
    (own : ∀ module, world.engine.module? version = some module → module.version = version) :
    Ends (World.activate hooks version) world (world.engine.activate hooks.language version) := by
  unfold World.activate
  refine Ends.look ?_
  cases found : world.engine.module? version with
  | none =>
    unfold Engine.activate
    rw [found]
    exact Ends.pure rfl _
  | some module =>
    obtain rfl : module.version = version := own module found
    refine (Ends.isStale _ _).bind fun first same => ?_
    cases stale : world.engine.isStale module.id module.version with
    | true =>
      rw [Engine.activate_of_stale _ found stale]
      exact Ends.pure same _
    | false =>
      rw [Engine.activate_of_fresh _ found stale]
      have there : (first.engine.module? module.version).isSome := by rw [same, found]; rfl
      have runs := Ends.runModule quiet there .initial
      rw [same] at runs
      revert runs
      generalize hooks.language.alone module.content .initial _ _ = ending
      obtain ⟨outcome, globals, shared⟩ := ending
      intro runs
      refine runs.bind fun second ran => ?_
      cases outcome with
      | error accident => exact Ends.throw ran _
      | ok _ =>
        refine (Ends.isStale _ _).bind fun third asked => ?_
        have still : second.engine.isStale module.id module.version = false := by
          rw [ran]
          exact stale
        rw [still]
        refine (Ends.activeVersion _).bind fun fourth looked => ?_
        refine (Ends.change _).bind fun fifth swapped => ?_
        rw [looked, asked, ran] at swapped
        cases third.engine.active? module.id with
        | none => exact (Ends.say swapped ..).bind fun last noted => Ends.pure noted _
        | some old => exact (Ends.say swapped ..).bind fun last noted => Ends.pure noted _

/-- A module is committed as the engine does. -/
theorem Ends.commit (quiet : hooks.Quiet) (script : Script) {version : Nat}
    (own : ∀ module, world.engine.module? version = some module → module.version = version) :
    Ends (World.commit hooks script version) world (world.engine.commit hooks.language script version) := by
  have activates : Ends (World.activate hooks version) world _ := Ends.activate quiet own
  unfold World.commit Engine.commit
  revert activates
  generalize world.engine.activate hooks.language version = activated
  obtain ⟨outcome, engine⟩ := activated
  intro activates
  match outcome with
  | .error fault => exact Ends.bind_error activates
  | .ok false => exact activates.bind fun after same => Ends.pure same _
  | .ok true =>
    refine activates.bind fun after same => ?_
    have saves : Ends (World.save script) after _ := Ends.save script
    rw [same] at saves
    dsimp only
    cases valid : script.isValid with
    | true =>
      rw [valid] at saves
      exact saves.bind fun last stored => Ends.pure stored _
    | false =>
      rw [valid] at saves
      exact Ends.bind_error saves

/-- Whether a commit made its module active is told as the engine tells it. -/
theorem Ends.told {act : Act κ Bool} {result : Except Fault Bool × Engine}
    (ends : Ends act world result) (version : Nat) {next : Bool → Act κ (Option Nat)}
    (swapped : ∀ after : World κ, after.engine = result.2 →
      Ends (next true) after (.ok (some version), result.2))
    (stale : ∀ after : World κ, after.engine = result.2 →
      Ends (next false) after (.ok none, result.2)) :
    Ends (act >>= next) world (Engine.told version result) := by
  obtain ⟨outcome, engine⟩ := result
  match outcome with
  | .ok true => exact ends.bind swapped
  | .ok false => exact ends.bind stale
  | .error fault => exact ends.bind_error

/-- The module of a load is committed as the engine does. -/
theorem Ends.commitLoad (quiet : hooks.Quiet) (script : Script) {version : Nat}
    (own : ∀ module, world.engine.module? version = some module → module.version = version) :
    Ends (World.commitLoad hooks script version) world
      (world.engine.commitLoad hooks.language script version) := by
  refine (Ends.change _).bind fun revived is => ?_
  have commits : Ends (World.commit hooks script version) revived _ :=
    Ends.commit quiet script (by rwa [is])
  rw [is] at commits
  refine commits.told version (fun after same => Ends.pure same _) fun after same => ?_
  exact (Ends.say same ..).bind fun last noted => Ends.pure noted _

/-- The module of a reload is committed as the engine does. -/
theorem Ends.commitReload (quiet : hooks.Quiet) (script : Script) {version : Nat}
    (own : ∀ module, world.engine.module? version = some module → module.version = version) :
    Ends (World.commitReload hooks script version) world
      (world.engine.commitReload hooks.language script version) := by
  unfold World.commitReload Engine.commitReload
  refine Ends.look ?_
  split
  · exact (Ends.say rfl ..).bind fun last noted => Ends.pure noted _
  · refine (Ends.commit quiet script own).told version (fun after same => ?_) fun after same =>
      Ends.pure same _
    refine (Ends.say same ..).bind fun first noted => ?_
    exact (Ends.changed _).bind fun last announced => Ends.pure (announced.trans noted) _

/-- A load or a reload starts as the engine says. -/
theorem Ends.start (quiet : hooks.Quiet) (again : Bool) (script : Script) :
    Ends (World.start hooks again script) world (world.engine.start hooks.language again script) := by
  unfold World.start Engine.start
  split
  · exact Ends.bind_error (Ends.throw rfl _)
  · exact Ends.build quiet script

/-- A load or a reload finishes as the engine says. -/
theorem Ends.finish (quiet : hooks.Quiet) (build : Build)
    (own : ∀ module, world.engine.module? build.version = some module →
      module.version = build.version) :
    Ends (World.finish hooks build) world (world.engine.finish hooks.language build) := by
  unfold World.finish Engine.finish
  split
  · exact Ends.commitReload quiet build.script own
  · exact Ends.commitLoad quiet build.script own

/-- A call is answered as the engine says. -/
theorem Ends.answer (quiet : hooks.Quiet) {call : Call}
    (there : (world.engine.module? call.module.version).isSome) :
    Ends (World.answer hooks call) world (world.engine.answer hooks.language call) := by
  unfold World.answer Engine.answer
  have runs := Ends.runModule quiet there (.call call.function call.arguments)
  dsimp only
  revert runs
  generalize hooks.language.alone call.module.content _ _ _ = ending
  obtain ⟨outcome, globals, shared⟩ := ending
  intro runs
  refine runs.bind fun after ran => ?_
  cases outcome with
  | ok value => exact (Ends.changed _).bind fun last announced => Ends.pure (announced.trans ran) _
  | error accident => exact Ends.throw ran _

end

/-- A call looks up what the engine says. -/
theorem Ends.lookup (id entry : String) (arguments : List Value) :
    Ends (World.look id entry arguments) world
      (world.engine.look id entry arguments, world.engine) := by
  unfold World.look Engine.look
  refine Ends.look ?_
  dsimp only
  cases (world.engine.active? id).bind world.engine.module? with
  | none => exact Ends.throw rfl _
  | some module =>
    dsimp only
    cases module.content.find? module.globals entry with
    | none => exact Ends.throw rfl _
    | some function => exact Ends.pure rfl _

/-- A script is taken out of the store. -/
theorem Ends.unstore (id : String) :
    Ends (World.unstore id) world (.ok (world.engine.stored.has id),
      if world.engine.stored.has id then world.engine.unstore id else world.engine) := by
  refine Ends.look ?_
  cases world.engine.stored.has id with
  | true =>
    exact (Ends.change _).bind fun first taken => (Ends.say taken ..).bind fun last noted =>
      Ends.pure noted _
  | false => exact Ends.pure rfl _

/-- An active module is made inactive. -/
theorem Ends.deactivate (id : String) :
    Ends (World.deactivate id) world (.ok (world.engine.active? id).isSome,
      if (world.engine.active? id).isSome then world.engine.retract id else world.engine) := by
  refine (Ends.activeVersion id).bind fun first same => ?_
  rw [← same]
  cases first.engine.active? id with
  | none => exact Ends.pure rfl _
  | some version =>
    exact (Ends.change _).bind fun second retracted =>
      (Ends.say retracted ..).bind fun last noted => Ends.pure noted _

/-- A script is forgotten as the engine says. -/
theorem Ends.delete (id : String) :
    Ends (World.delete id) world (world.engine.delete id) := by
  refine (Ends.unstore id).bind fun first forgotten => ?_
  have active : first.engine.active? id = world.engine.active? id := by
    rw [forgotten]
    split <;> rfl
  have retracts : Ends (World.deactivate id) first _ := Ends.deactivate id
  rw [active, forgotten] at retracts
  refine retracts.bind fun second retracted => ?_
  change second.engine = world.engine.forget id at retracted
  unfold Engine.delete
  cases world.engine.stored.has id || (world.engine.active? id).isSome with
  | true => exact (Ends.change _).bind fun last buried => Ends.pure (by rw [buried, retracted]) _
  | false => exact Ends.pure retracted _

end World

end Lag
