import Lag.Proofs.Watch.Functions
import Lag.Proofs.World.Loading

/-!
# Operations inside each other

Hooks act while a script is compiled and while it writes lines. What they do may be any operations
of the engine and of the watch, with hooks of their own, so that operations stand inside each other
at any depth. Whatever operations do to the modules of an engine they do in steps. So what holds in
every run of steps holds in every world that operations lead to, also in the midst of an operation.
-/
namespace Lag

variable {κ α : Type}

/-! ## Worlds that are met -/

/-- A version that is spared was given. -/
def Engine.Knows (engine : Engine) (spared : Option Nat) : Prop :=
  ∀ version, spared = some version → version < engine.nextVersion

/-- Every version that is spared was given if none is. -/
theorem Engine.knows_none (engine : Engine) : engine.Knows none := fun _ is => nomatch is

namespace Loading

variable {setting : Setting} {spared : Option Nat} {origin loading after : Loading κ}

/-- A run of steps leads to a world, in which other modules are perhaps becoming active. -/
def Meets (setting : Setting) (origin : Loading κ) (world : World κ) : Prop :=
  ∃ starting past, Steps setting none origin ⟨world, starting, past⟩

/-- A state without modules is sane. -/
theorem isSane_fresh {world : World κ} {limit : Nat} {things : Run.Store}
    (fresh : world.engine = { limit := limit, shared := things }) (fine : setting.allowed things) :
    IsSane setting ⟨world, [], []⟩ := by
  refine ⟨?_, nofun, ?_, ?_, fun {version plan} _ planned => ?_⟩
  · exact fresh ▸ (Engine.isMarked_fresh limit).of_eq rfl rfl
  · refine fresh ▸ Turnover.isFollowed_nil fun id => ?_
    rfl
  · exact fresh ▸ fine
  · change world.engine.plan? version = some plan at planned
    rw [fresh] at planned
    cases planned

/-- Whatever a step spares, it is a step. -/
theorem Step.free (step : Step setting spared loading after) : Step setting none loading after := by
  cases step with
  | aside aside => exact .aside aside
  | reserve script => exact .reserve script
  | approve approves => exact .approve approves
  | write apart globals => exact .write (Option.some_ne_none _).symm globals
  | share fine => exact .share fine
  | install found outcome => exact .install found outcome
  | deactivate id => exact .deactivate id

/-- Whatever steps spare, they are steps. -/
theorem Steps.free (steps : Steps setting spared loading after) :
    Steps setting none loading after := by
  induction steps with
  | refl => exact .refl
  | tail _ step ih => exact ih.tail step.free

/-- Versions that were given stay so. -/
theorem Steps.knows {others : Option Nat} (steps : Steps setting others loading after)
    (knows : loading.world.engine.Knows spared) : after.world.engine.Knows spared := by
  induction steps with
  | refl => exact knows
  | tail _ step ih =>
    exact fun version is => Nat.lt_of_lt_of_le (ih version is) step.changes.nextVersion

end Loading

/-! ## Operations -/

/-- An operation of the engine or of the watch. -/
inductive Operation where
  /-- Compile a script to a module. -/
  | compile (script : Script)
  /-- Build a module for a script. -/
  | build (script : Script)
  /-- Load a script. -/
  | load (script : Script)
  /-- Reload a script. -/
  | reload (script : Script)
  /-- Load a script from a file. -/
  | loadFile (path : Text.Path) (id : Option String)
  /-- Load the scripts of a directory. -/
  | loadDirectory (directory : Text.Path)
  /-- Make the module at a place active. -/
  | activate (place : Nat)
  /-- Make an identifier inactive. -/
  | deactivate (id : String)
  /-- Call a function of a script. -/
  | invoke (id entry : String) (arguments : List Value)
  /-- Store a script. -/
  | save (script : Script)
  /-- Forget a stored script. -/
  | unstore (id : String)
  /-- Forget a script. -/
  | delete (id : String)
  /-- Start to watch a script. -/
  | watch (script : Script)
  /-- Stop watching a script. -/
  | unwatch (id : String)
  /-- Check a script, with at most a number of reloads. -/
  | check (bound : Nat) (script : Script)
  /-- Check all scripts. -/
  | checkAll (bound : Nat)
  /-- Run a reload that waits. -/
  | runJob (bound : Nat)

namespace Operation

/-- Carry out an operation. -/
def act (hooks : Hooks κ) : Operation → Act κ Unit
  | .compile script => discard (World.compileModule hooks script)
  | .build script => discard (World.build hooks script)
  | .load script => discard (World.load hooks script)
  | .reload script => discard (World.reload hooks script)
  | .loadFile path id => discard (World.loadFile hooks path id)
  | .loadDirectory directory => discard (World.loadDirectory hooks directory)
  | .activate place => discard (World.activate hooks (place + 1))
  | .deactivate id => discard (World.deactivate id)
  | .invoke id entry arguments => discard (World.invoke hooks id entry arguments)
  | .save script => World.save script
  | .unstore id => discard (World.unstore id)
  | .delete id => discard (World.delete id)
  | .watch script => discard (World.startWatch script)
  | .unwatch id => discard (World.stopWatch id)
  | .check bound script => discard (World.check hooks bound script)
  | .checkAll bound => discard (World.checkAll hooks bound)
  | .runJob bound => discard (World.runJob hooks bound)
where
  /-- Forget a result. -/
  discard {α : Type} (act : Act κ α) : Act κ Unit := (fun _ => ()) <$> act

/-- An operation neither activates nor invokes the module that is spared. -/
def Spares (spared : Option Nat) (engine : Engine) : Operation → Prop
  | .activate place => spared ≠ some (place + 1)
  | .invoke id _ _ => ∀ version, engine.active? id = some version → spared ≠ some version
  | _ => True

end Operation

/-- What operations make of a world, with operations in hooks at any depth; none of them activates
or invokes the module that is spared. Hooks need to keep to this only in worlds that are met after
an origin. -/
inductive World.Leads (setting : Setting) (origin : Loading κ) (spared : Option Nat) :
    World κ → World κ → Prop where
  /-- Something happens that concerns neither the modules, nor which of them are active, nor the
  shared things. -/
  | aside {world after : World κ} (aside : World.Aside world after) :
    Leads setting origin spared world after
  /-- Something happens after something else. -/
  | trans {first second third : World κ} (begins : Leads setting origin spared first second)
    (goes : Leads setting origin spared second third) : Leads setting origin spared first third
  /-- An operation is carried out. -/
  | operate {hooks : Hooks κ} (is : hooks.language = setting.language)
    (compile : ∀ world, origin.Meets setting world →
      Leads setting origin spared world (hooks.afterCompile world))
    (line : ∀ world, origin.Meets setting world →
      Leads setting origin spared world (hooks.afterLine world))
    {world : World κ} {operation : Operation} (spares : operation.Spares spared world.engine) :
    Leads setting origin spared world (World.ended (operation.act hooks) world).2

/-! ## Operations in steps -/

/-- What happens in a world that is met happens in steps, whatever modules are becoming active. -/
def World.Loads (setting : Setting) (origin : Loading κ) (spared : Option Nat)
    (before after : World κ) : Prop :=
  ∀ starting past, Loading.Steps setting none origin ⟨before, starting, past⟩ →
    ∃ seen, Loading.Steps setting spared ⟨before, starting, past⟩ ⟨after, starting, seen⟩

namespace World

variable {setting : Setting} {origin : Loading κ} {spared : Option Nat} {hooks : Hooks κ}

namespace Loads

variable {world first second third : World κ}

/-- What happens aside is a step. -/
theorem aside (aside : Aside first second) : Loads setting origin spared first second :=
  fun _ past _ => ⟨past, .single (.aside aside)⟩

/-- What happens one after the other happens in steps. -/
theorem trans (begins : Loads setting origin spared first second)
    (goes : Loads setting origin spared second third) : Loads setting origin spared first third := by
  intro starting past met
  obtain ⟨seen, steps⟩ := begins starting past met
  obtain ⟨last, others⟩ := goes starting seen (met.trans steps.free)
  exact ⟨last, steps.trans others⟩

/-- Announcements, stored scripts and deleted identifiers are aside. -/
theorem composes : Composes (Loads setting origin spared) :=
  ⟨fun _ _ _ _ => .aside ⟨rfl, rfl, rfl⟩, .trans⟩

/-- Variables are written in one step. -/
theorem write {version : Nat} (positive : 0 < version) (apart : spared ≠ some version)
    (globals : Run.Store) (world : World κ) :
    Loads setting origin spared world (world.withEngine (Engine.withGlobals version globals)) := by
  obtain ⟨place, rfl⟩ := Nat.exists_eq_succ_of_ne_zero (Nat.ne_of_gt positive)
  exact fun _ past _ => ⟨past, .single (.write apart globals)⟩

/-- The shared things are changed in one step. -/
theorem share {things : Run.Store} (fine : setting.allowed things) (world : World κ) :
    Loads setting origin spared world (world.withEngine (Engine.share things)) :=
  fun _ past _ => ⟨past, .single (.share fine)⟩

end Loads

/-- An operation that leaves the modules and the active ones alone is a step. -/
theorem loads_aside {act : Act κ α} (aside : Within Aside act) : Within (Loads setting origin spared) act :=
  ⟨fun world => .aside (aside.ends world)⟩

/-- An operation that is one of the watch is a step. -/
theorem loads_shows {act : Act κ α} {ending : World κ → Except Fault α × Watch}
    (shows : ∀ world, Shows act world (ending world)) : Within (Loads setting origin spared) act := by
  refine loads_aside ⟨fun world => ?_⟩
  obtain ⟨outbox, ends⟩ := shows world
  rw [ends]
  exact ⟨rfl, rfl, rfl⟩

section

variable (is : hooks.language = setting.language) (sane : origin.IsSane setting)
  (knows : origin.world.engine.Knows spared)
  (compile : ∀ world, Loads setting origin spared world (hooks.afterCompile world))
  (line : ∀ world, Loads setting origin spared world (hooks.afterLine world))

include is sane line in
/-- What a module does on a request happens in steps, unless it is the module that is spared. -/
theorem loads_runModule {module : Module} (positive : 0 < module.version)
    (apart : spared ≠ some module.version)
    (holds : setting.language.Holds setting.allowed module.content) (request : Run.Request)
    (world : World κ) :
    Loads setting origin spared world (ended (runModule hooks module request) world).2 := by
  intro starting past met
  -- Along the run shared things stay allowed, since every world that it passes through is met.
  have allows (now : World κ) (leads : Loads setting origin spared world now) :
      setting.allowed now.engine.shared := by
    obtain ⟨seen, steps⟩ := leads starting past met
    exact (sane.steps (met.trans steps.free)).allowed
  exact Within.runModule_of Loads.composes (is ▸ holds) request allows
    (Loads.write positive apart) (fun _ now fine => .share fine now) line starting past met

include is in
/-- A module is reserved in one step. -/
theorem loads_reserve (script : Script) :
    Within (Loads setting origin spared) (reserve hooks.language script) :=
  ⟨fun _ _ past _ => ⟨past, is ▸ .single (.reserve script)⟩⟩

include is sane knows compile line in
/-- A script is compiled in steps: its module is a new one, and not the one that is spared. -/
theorem loads_compileModule (script : Script) :
    Within (Loads setting origin spared) (compileModule hooks script) := by
  refine ⟨fun world starting past met => ?_⟩
  have reserves : Loads setting origin spared world _ := (loads_reserve is script).ends world
  unfold compileModule
  rw [ended_bind]
  revert reserves
  rw [ended_reserve]
  cases compiles : hooks.language.compile script world.engine.limit with
  | error fault => exact fun reserves => reserves starting past met
  | ok content =>
    intro reserves
    have apart : spared ≠ some world.engine.nextVersion :=
      fun is => Nat.lt_irrefl _ (met.knows knows _ is)
    have holds : setting.language.Holds setting.allowed content := setting.holds (is ▸ compiles)
    have composes : Composes (κ := κ) (Loads setting origin spared) := Loads.composes
    have runs : Within (Loads setting origin spared) (runModule hooks
        ⟨script.id, world.engine.nextVersion, content, [], false⟩ .body) :=
      ⟨loads_runModule is sane line (Nat.succ_pos _) apart holds .body⟩
    have acts : Within (Loads setting origin spared) (modify hooks.afterCompile : Act κ Unit) :=
      ⟨compile⟩
    refine reserves.trans (Within.ends ?_ _) starting past met
    exact .bind composes (.prepare_of composes runs script) fun _ => .look fun _ =>
      .bind composes (.say composes ..) fun _ => .bind composes acts fun _ => .pure composes _

include is sane line in
/-- An activation is a step before the first values, those of the first values and one after. -/
theorem loads_activate {place : Nat} (apart : spared ≠ some (place + 1)) :
    Within (Loads setting origin spared) (activate hooks (place + 1)) := by
  refine ⟨fun world starting past met => ?_⟩
  have looks := (within_approve (place + 1)).ends world
  have found {module : Module} {after : World κ}
      (approves : ended (approve (place + 1)) world = (.ok (some module), after)) :
      Loading.Step setting spared ⟨world, starting, past⟩
        ⟨after, starting ++ [(module.id, place + 1)], past⟩ :=
    .approve approves
  rw [activate_eq, ended_bind]
  revert looks found
  cases approved : ended (approve (place + 1)) world with
  | mk outcome after =>
    intro looks found
    match outcome with
    | .error fault => exact Loads.aside looks starting past met
    | .ok none => exact Loads.aside looks starting past met
    | .ok (some module) =>
      have approves : Loading.Steps setting spared _ _ := .single (found rfl)
      have there : world.engine.module? (place + 1) = some module := found_of_approve approved
      have own : module.version = place + 1 :=
        (sane.steps met).marked.own (Nat.succ_pos place) there
      have holds : setting.language.Holds setting.allowed module.content :=
        (sane.steps met).holds_module (Nat.succ_pos place) there
      obtain ⟨seen, steps⟩ :=
        loads_runModule is sane line (own ▸ Nat.succ_pos place) (own ▸ apart) holds .initial
          after _ past (met.trans approves.free)
      dsimp only
      rw [ended_bind]
      -- A run of a module ends with what the first values come to, whatever that is.
      have ends : ∃ outcome last,
          ended (runModule hooks module .initial) after = (.ok outcome, last) := ⟨_, _, rfl⟩
      obtain ⟨outcome, last, ends⟩ := ends
      rw [ends] at steps ⊢
      have waits : (starting ++ [(module.id, place + 1)])[starting.length]? =
          some (module.id, place + 1) := List.getElem?_concat_length
      have gone : (starting ++ [(module.id, place + 1)]).eraseIdx starting.length = starting := by
        rw [List.eraseIdx_append_of_length_le (Nat.le_refl _), Nat.sub_self]
        exact List.append_nil starting
      have installs : Loading.Step setting spared
          ⟨last, starting ++ [(module.id, place + 1)], seen⟩ _ := .install waits outcome
      rw [gone] at installs
      exact ⟨_, (approves.trans steps).tail installs⟩

/-- An identifier is made inactive in one step. -/
theorem loads_deactivate (id : String) :
    Within (Loads setting origin spared) (deactivate id : Act κ Bool) :=
  ⟨fun _ _ _ _ => ⟨_, .single (.deactivate id)⟩⟩

/-- A script is forgotten in steps. -/
theorem loads_delete (id : String) : Within (Loads setting origin spared) (delete id : Act κ Bool) :=
  .delete_of Loads.composes (loads_deactivate id)

include is sane knows compile line in
/-- A module is built in steps. -/
theorem loads_build (script : Script) : Within (Loads setting origin spared) (build hooks script) :=
  .build_of Loads.composes (loads_compileModule is sane knows compile line script)

/-- A module that was built has the version that was to be given next. -/
theorem version_of_start {again : Bool} {script : Script} {world : World κ} {version : Nat}
    (starts : (ended (start hooks again script) world).1 = .ok version) :
    version = world.engine.nextVersion := by
  unfold start at starts
  split at starts
  · cases starts
  · exact version_of_compileModule ((outcome_build hooks script world).symm.trans starts)

include is sane knows compile line in
/-- A load or a reload happens in steps: its module is a new one, and not the one that is spared. -/
theorem loads_start_finish (again : Bool) (script : Script) :
    Within (Loads setting origin spared) (start hooks again script >>= fun version =>
      finish hooks ⟨again, script, version⟩) := by
  refine ⟨fun world starting past met => ?_⟩
  have begins := (Within.start_of Loads.composes
    (loads_compileModule is sane knows compile line script) again).ends world
  have new {version : Nat} (starts : (ended (start hooks again script) world).1 = .ok version) :
      version = world.engine.nextVersion := version_of_start starts
  rw [ended_bind]
  revert begins new
  cases ended (start hooks again script) world with
  | mk outcome after =>
    intro begins new
    cases outcome with
    | error fault => exact begins starting past met
    | ok version =>
      obtain rfl : version = world.engine.nextVersion := new rfl
      have apart : spared ≠ some (world.engine.modules.size + 1) :=
        fun is => Nat.lt_irrefl _ (met.knows knows _ is)
      have ends : Within (Loads setting origin spared)
          (finish hooks ⟨again, script, world.engine.nextVersion⟩) :=
        .finish_of Loads.composes (loads_activate is sane line apart)
      exact (begins.trans (ends.ends after)) starting past met

include is sane knows compile line in
/-- A script is loaded in steps. -/
theorem loads_load (script : Script) : Within (Loads setting origin spared) (load hooks script) := by
  rw [load_eq]
  exact loads_start_finish is sane knows compile line false script

include is sane knows compile line in
/-- A script is reloaded in steps. -/
theorem loads_reload (script : Script) : Within (Loads setting origin spared) (reload hooks script) := by
  rw [reload_eq]
  exact loads_start_finish is sane knows compile line true script

/-! ## Operations of the watch in steps -/

include is sane knows compile line in
/-- A round of a reload happens in steps. -/
theorem loads_reloadOnce (id : String) (place : Nat) :
    Within (Loads setting origin spared) (reloadOnce hooks id place) := by
  have settles (result : CheckResult) :
      Within (Loads setting origin spared) (settle id result : Act κ (Option CheckResult)) :=
    loads_shows fun _ => .settle id result
  refine .bind Loads.composes (loads_shows fun _ => .attempt id place) fun attempted => ?_
  cases attempted with
  | error result => exact settles result
  | ok script =>
    have reloads := Within.outcomeOf Loads.composes (loads_reload is sane knows compile line script)
    refine .bind Loads.composes reloads fun outcome => ?_
    exact .bind Loads.composes (loads_shows fun _ => .conclude id place script outcome) settles

include is sane knows compile line in
/-- Rounds of a reload happen in steps. -/
theorem loads_runReloads (id : String) (place bound : Nat) :
    Within (Loads setting origin spared) (runReloads hooks id place bound) := by
  induction bound with
  | zero => exact .pure Loads.composes _
  | succ bound ih =>
    refine .bind Loads.composes (loads_reloadOnce is sane knows compile line id place) fun result => ?_
    cases result with
    | some result => exact .pure Loads.composes result
    | none => exact ih

include is sane knows compile line in
/-- A check happens in steps. -/
theorem loads_check (bound : Nat) (script : Script) :
    Within (Loads setting origin spared) (check hooks bound script) := by
  refine .bind Loads.composes (loads_shows fun _ => .notice script) fun noticed => ?_
  cases noticed with
  | error result => exact .pure Loads.composes result
  | ok place =>
    refine .bind Loads.composes (loads_shows fun _ => .claim script.id place) fun claimed => ?_
    cases claimed with
    | some result => exact .pure Loads.composes result
    | none => exact loads_runReloads is sane knows compile line script.id place bound

include is sane knows compile line in
/-- A reload that waited happens in steps. -/
theorem loads_runJob (bound : Nat) : Within (Loads setting origin spared) (runJob hooks bound) := by
  refine .look fun world => ?_
  cases world.watch.jobs with
  | nil => exact .pure Loads.composes none
  | cons job rest =>
    refine .bind Loads.composes (loads_aside ⟨fun world => ⟨rfl, rfl, rfl⟩⟩) fun _ => ?_
    exact .bind Loads.composes (loads_runReloads is sane knows compile line job.1 job.2 bound) fun _ =>
      .pure Loads.composes _

/-! ## Calls in steps -/

/-- To look up a function changes nothing. -/
theorem ended_look (id entry : String) (arguments : List Value) (world : World κ) :
    ended (look id entry arguments) world = (world.engine.look id entry arguments, world) := by
  unfold look Engine.look
  rw [ended_bind, ended_get]
  dsimp only
  cases (world.engine.active? id).bind world.engine.module? with
  | none => rfl
  | some module =>
    dsimp only
    cases module.content.find? module.globals entry with
    | none => rfl
    | some function => rfl

/-- A call is answered if its function is found. -/
theorem ended_invoke (hooks : Hooks κ) (id entry : String) (arguments : List Value)
    (world : World κ) :
    ended (invoke hooks id entry arguments) world =
      match world.engine.look id entry arguments with
      | .ok call => ended (answer hooks call) world
      | .error fault => (.error fault, world) := by
  rw [invoke_eq, ended_bind, ended_look]
  cases world.engine.look id entry arguments <;> rfl

include is sane line in
/-- A call happens in steps, unless it is one of the module that is spared. -/
theorem loads_invoke {world : World κ} {id : String}
    (spares : ∀ version, world.engine.active? id = some version → spared ≠ some version)
    (entry : String) (arguments : List Value) :
    Loads setting origin spared world (ended (invoke hooks id entry arguments) world).2 := by
  intro starting past met
  have marked := (sane.steps met).marked
  rw [ended_invoke]
  cases finds : world.engine.look id entry arguments with
  | error fault => exact ⟨past, .refl⟩
  | ok call =>
    obtain ⟨active, positive, found, -⟩ := marked.of_look finds
    have apart : spared ≠ some call.module.version := spares _ active
    have holds : setting.language.Holds setting.allowed call.module.content :=
      (sane.steps met).holds_module positive found
    have runs : Within (Loads setting origin spared) (answer hooks call) := by
      refine .bind Loads.composes ⟨loads_runModule is sane line positive apart holds _⟩
        fun outcome => ?_
      cases outcome with
      | ok value =>
        exact .bind Loads.composes (.announce Loads.composes _) fun _ => .pure Loads.composes _
      | error accident => exact .throw Loads.composes _
    exact runs.ends world starting past met

include is sane knows compile line in
/-- An operation happens in steps, unless it concerns the module that is spared. -/
theorem loads_operation {world : World κ} {operation : Operation}
    (spares : operation.Spares spared world.engine) :
    Loads setting origin spared world (ended (operation.act hooks) world).2 := by
  have composes : Composes (κ := κ) (Loads setting origin spared) := Loads.composes
  have forgets {β : Type} {act : Act κ β} (within : Within (Loads setting origin spared) act) :
      Loads setting origin spared world (ended (Operation.act.discard act) world).2 :=
    (Within.map composes _ within).ends world
  have loads (script : Script) : Within (Loads setting origin spared) (load hooks script) :=
    loads_load is sane knows compile line script
  cases operation with
  | compile script => exact forgets (loads_compileModule is sane knows compile line script)
  | build script => exact forgets (loads_build is sane knows compile line script)
  | load script => exact forgets (loads script)
  | reload script => exact forgets (loads_reload is sane knows compile line script)
  | loadFile path id => exact forgets (.loadFile_of composes loads path id)
  | loadDirectory directory => exact forgets (.loadDirectory_of composes loads directory)
  | activate place => exact forgets (loads_activate is sane line spares)
  | deactivate id => exact forgets (loads_deactivate id)
  | invoke id entry arguments =>
    have same : (ended (Operation.act hooks (.invoke id entry arguments)) world).2 =
        (ended (invoke hooks id entry arguments) world).2 := by
      change (ended ((fun _ => ()) <$> invoke hooks id entry arguments) world).2 = _
      rw [ended_map]
      cases ended (invoke hooks id entry arguments) world with
      | mk outcome after => cases outcome <;> rfl
    rw [same]
    exact loads_invoke is sane line spares entry arguments
  | save script => exact (Within.save composes script).ends world
  | unstore id => exact forgets (.unstore composes id)
  | delete id => exact forgets (loads_delete id)
  | watch script => exact forgets (loads_shows fun _ => .startWatch script)
  | unwatch id => exact forgets (loads_shows fun _ => .stopWatch id)
  | check bound script => exact forgets (loads_check is sane knows compile line bound script)
  | checkAll bound =>
    exact forgets (.look fun _ =>
      .checkScripts_of composes (loads_check is sane knows compile line bound) _)
  | runJob bound => exact forgets (loads_runJob is sane knows compile line bound)

end

/-- Whatever operations lead to happens in steps. -/
theorem Leads.loads (sane : origin.IsSane setting) (knows : origin.world.engine.Knows spared)
    {before after : World κ} (leads : Leads setting origin spared before after) :
    Loads setting origin spared before after := by
  induction leads with
  | aside aside => exact .aside aside
  | trans _ _ begins goes => exact begins.trans goes
  | operate is _ _ spares compile line =>
    -- In worlds that are not met there is nothing to show, so hooks keep to steps everywhere.
    have everywhere {hook : World κ → World κ}
        (goes : ∀ world, origin.Meets setting world → Loads setting origin spared world (hook world))
        (world : World κ) : Loads setting origin spared world (hook world) :=
      fun starting past met => goes world ⟨starting, past, met⟩ starting past met
    exact loads_operation is sane knows (everywhere compile) (everywhere line) spares

/-- What an operation makes of a world. -/
def carry (hooks : Hooks κ) (world : World κ) (operation : Operation) : World κ :=
  (ended (operation.act hooks) world).2

/-- Every operation is free if no module is spared. -/
theorem spares_none (engine : Engine) (operation : Operation) : operation.Spares none engine := by
  cases operation with
  | activate place => exact nofun
  | invoke id entry arguments => exact fun _ _ => nofun
  | _ => trivial

/-- Operations one after the other lead somewhere. -/
theorem leads_operations (is : hooks.language = setting.language)
    (compile : ∀ world : World κ, Leads setting origin spared world (hooks.afterCompile world))
    (line : ∀ world : World κ, Leads setting origin spared world (hooks.afterLine world))
    {operations : List Operation}
    (spares : ∀ operation ∈ operations, ∀ engine, operation.Spares spared engine)
    (world : World κ) : Leads setting origin spared world (operations.foldl (carry hooks) world) := by
  induction operations generalizing world with
  | nil => exact .aside (.refl world)
  | cons operation rest ih =>
    obtain ⟨first, others⟩ := List.forall_mem_cons.1 spares
    have begins : Leads setting origin spared world (carry hooks world operation) :=
      .operate is (fun world _ => compile world) (fun world _ => line world) (first world.engine)
    exact begins.trans (ih others _)

/-- Operations that nobody disturbs lead somewhere. -/
theorem leads_quietly {operations : List Operation}
    (spares : ∀ operation ∈ operations, ∀ engine, operation.Spares spared engine)
    (world : World κ) :
    Leads setting origin spared world
      (operations.foldl (carry (.none setting.language)) world) :=
  leads_operations rfl (fun world => .aside (.refl world)) (fun world => .aside (.refl world)) spares
    world

end World

/-! ## Modules that are active -/

/-- In every run of compilations, activations, deactivations and calls, in any interleaving of their
steps, a module is marked exactly while it is the active module of its identifier. The active module
is the one that became active last, and of two versions that became active under an identifier,
which was not made inactive in between, the later one is greater. Whatever operations do, also
inside each other, is such a run. -/
theorem loaded_iff_active {setting : Setting} {world : World κ} {limit : Nat}
    (fresh : world.engine = { limit := limit }) :
    (∀ loading, Loading.Steps setting none ⟨world, [], []⟩ loading →
      (∀ module ∈ loading.world.engine.modules,
        (module.isLoaded = true ↔
          loading.world.engine.active? module.id = some module.version)) ∧
      (∀ id, loading.world.engine.active? id = (Turnover.versions id loading.past).head?) ∧
      ∀ {id later middle earlier older newer},
        loading.past =
          later ++ .activated id newer :: (middle ++ .activated id older :: earlier) →
        .deactivated id ∉ middle → older < newer) ∧
    ∀ after, World.Leads setting ⟨world, [], []⟩ none world after →
      ∃ past, Loading.Steps setting none ⟨world, [], []⟩ ⟨after, [], past⟩ := by
  have begins : Loading.IsSane setting ⟨world, [], []⟩ :=
    Loading.isSane_fresh fresh setting.start
  have knows : world.engine.Knows none := world.engine.knows_none
  refine ⟨fun loading steps => ?_, fun after leads => leads.loads begins knows [] [] .refl⟩
  have sane : loading.IsSane setting := begins.steps steps
  refine ⟨fun module inside => ?_, sane.followed.last, sane.followed.lt⟩
  obtain ⟨place, found⟩ := Array.mem_iff_getElem?.1 inside
  have there : loading.world.engine.module? (place + 1) = some module := found
  have own : module.version = place + 1 := sane.marked.own (Nat.succ_pos place) there
  rw [own]
  exact sane.marked.mark (Nat.succ_pos place) there

/-- Two modules of one identifier, of which the first writes a line before it becomes active. -/
def overtakenScripts : List Operation :=
  [.compile ⟨"a", .lag, "fn p() -> int \x7b print(1); return 1; \x7d let x = p();", none⟩,
    .compile ⟨"a", .lag, "fn f() -> int \x7b return 2; \x7d", none⟩, .activate 0]

/-- Hooks that make the second module active as soon as a line is written. -/
def overtaker : Hooks Bool where
  afterCompile := id
  afterLine world :=
    if world.own then World.carry .none { world with own := false } (.activate 1) else world
  language := .none

/-- The world after the three operations. -/
def overtaken : World Bool := overtakenScripts.foldl (World.carry overtaker) (World.initial true)

/-- The second module becomes active while the first one is about to, which is refused then. -/
theorem loaded_iff_active_overtaken :
    (World.initial true).engine = { limit := 20 } ∧
      World.Leads (.free .none) ⟨World.initial true, [], []⟩ none (World.initial true) overtaken ∧
      (∃ past, Loading.Steps (.free .none) none ⟨World.initial true, [], []⟩ ⟨overtaken, [], past⟩ ∧
        ∀ module ∈ overtaken.engine.modules,
          (module.isLoaded = true ↔ overtaken.engine.active? module.id = some module.version)) ∧
      (overtaken.outbox.lines, overtaken.engine.modules.map (·.isLoaded)) =
        (#[("a", "1")], #[false, true]) := by
  have line (world : World Bool) :
      World.Leads (.free .none) ⟨World.initial true, [], []⟩ none world (overtaker.afterLine world) := by
    unfold overtaker
    dsimp only
    split
    · have disarmed : World.Leads (.free .none) ⟨World.initial true, [], []⟩ none world
          { world with own := false } := .aside ⟨rfl, rfl, rfl⟩
      refine disarmed.trans ?_
      exact World.leads_quietly (List.forall_mem_singleton.2 fun engine =>
        World.spares_none engine (.activate 1)) _
    · exact .aside (.refl world)
  have leads : World.Leads (.free .none) ⟨World.initial true, [], []⟩ none (World.initial true) overtaken :=
    World.leads_operations rfl (fun world => .aside (.refl world)) line
      (fun operation _ engine => World.spares_none engine operation) (World.initial true)
  have fresh : (World.initial true).engine = { limit := 20 } := rfl
  obtain ⟨holds, reaches⟩ := @loaded_iff_active _ (.free .none) _ _ fresh
  obtain ⟨past, steps⟩ := reaches overtaken leads
  exact ⟨fresh, leads, ⟨past, steps, (holds _ steps).1⟩, by decide +kernel⟩

end Lag
