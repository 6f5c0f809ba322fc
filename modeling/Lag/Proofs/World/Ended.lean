import Lag.World.Engine

/-!
# How operations end

An operation on a world ends with a result or a fault, and leaves a world behind. A script in Lag is
built exactly if its source text compiles: then the engine gives the module the next version, else
the build fails with the fault of the text. A script in the host language also has to run its text.

Others may act between the steps of an operation. A load and a reload build a module in one step and
commit it in another. A call looks up the active module in one step and runs its function in
another. To forget a script is one step.
-/
namespace Lag.World

variable {κ α β : Type}

/-- How an operation ends in a world. -/
def ended (act : Act κ α) (world : World κ) : Except Fault α × World κ :=
  (ExceptT.run act).run world

/-- A result ends an operation at once. -/
@[simp] theorem ended_pure (result : α) (world : World κ) :
    ended (pure result) world = (.ok result, world) := rfl

/-- A fault ends an operation at once. -/
@[simp] theorem ended_throw (fault : Fault) (world : World κ) :
    ended (throw fault : Act κ α) world = (.error fault, world) := rfl

/-- A change of the world. -/
@[simp] theorem ended_modify (change : World κ → World κ) (world : World κ) :
    ended (modify change : Act κ Unit) world = (.ok (), change world) := rfl

/-- A look at the world. -/
@[simp] theorem ended_get (world : World κ) :
    ended (get : Act κ (World κ)) world = (.ok world, world) := rfl

/-- An operation goes on from where its first step ends, unless that fails. -/
theorem ended_bind (act : Act κ α) (next : α → Act κ β) (world : World κ) :
    ended (act >>= next) world = match ended act world with
      | (.ok result, after) => ended (next result) after
      | (.error fault, after) => (.error fault, after) := by
  unfold ended
  rw [ExceptT.run_bind, StateT.run_bind]
  cases (ExceptT.run act).run world with
  | mk outcome after => cases outcome <;> rfl

/-- A result may be changed. -/
theorem ended_map (change : α → β) (act : Act κ α) (world : World κ) :
    ended (change <$> act) world = match ended act world with
      | (.ok result, after) => (.ok (change result), after)
      | (.error fault, after) => (.error fault, after) := by
  rw [map_eq_pure_bind, ended_bind]
  rfl

/-- A fault may be caught. -/
theorem ended_tryCatch (act : Act κ α) (handle : Fault → Act κ α) (world : World κ) :
    ended (tryCatch act handle) world = match ended act world with
      | (.ok result, after) => (.ok result, after)
      | (.error fault, after) => ended (handle fault) after := by
  unfold ended ExceptT.run StateT.run
  simp only [tryCatch, tryCatchThe, MonadExceptOf.tryCatch, ExceptT.tryCatch, ExceptT.mk, bind,
    StateT.bind]
  cases act world with
  | mk outcome after => cases outcome <;> rfl

/-- An outcome is taken over. -/
theorem ended_take {ε : Type} (wrap : ε → Fault) (outcome : Except ε α) (world : World κ) :
    ended (take wrap outcome) world = (outcome.mapError wrap, world) := by
  cases outcome <;> rfl

/-- What the source text of a script compiles to; at most a number of failures are reported. -/
def compiled (script : Script) (limit : Nat) : Except CompileFault Linked :=
  compile script.code script.id (script.path.map Text.Path.toText) limit

/-- A script in Lag is compiled as a program. -/
theorem compile_lag (language : HostLanguage) {script : Script} (isLag : script.language = .lag)
    (limit : Nat) : language.compile script limit = .lag <$> compiled script limit := by
  unfold HostLanguage.compile
  rw [isLag]
  rfl

/-- A module is added exactly if its text compiles. -/
theorem ended_reserve (language : HostLanguage) (script : Script) (world : World κ) :
    ended (reserve language script) world =
      match language.compile script world.engine.limit with
      | .ok content => (.ok ⟨script.id, world.engine.nextVersion, content, [], false⟩,
          world.withEngine (Engine.add script.id content))
      | .error fault => (.error (.compile fault), world) := by
  unfold reserve
  simp only [change, ended_bind, ended_get, ended_take, ended_modify, ended_pure]
  cases language.compile script world.engine.limit <;> rfl

/-- A module that was compiled has the version that was to be given next. -/
theorem version_of_compileModule {hooks : Hooks κ} {script : Script} {world : World κ}
    {version : Nat} (compiles : (ended (compileModule hooks script) world).1 = .ok version) :
    version = world.engine.nextVersion := by
  unfold compileModule at compiles
  rw [ended_bind, ended_reserve] at compiles
  revert compiles
  cases hooks.language.compile script world.engine.limit with
  | error fault => exact nofun
  | ok content =>
    dsimp only
    rw [ended_bind]
    generalize ended (prepare hooks script _) _ = prepared
    obtain ⟨outcome, after⟩ := prepared
    cases outcome with
    | error fault => exact nofun
    | ok _ => exact fun compiles => (Except.ok.inj compiles).symm

/-- A build comes to what the compilation comes to. -/
theorem outcome_build (hooks : Hooks κ) (script : Script) (world : World κ) :
    (ended (build hooks script) world).1 = (ended (compileModule hooks script) world).1 := by
  unfold build
  rw [ended_bind, ended_tryCatch, ended_map]
  cases ended (compileModule hooks script) world with
  | mk outcome after =>
    cases outcome with
    | ok version => rfl
    | error fault =>
      dsimp only [ended_pure]
      -- Whether the failure is announced changes nothing about the fault.
      split
      · simp only [say, ended_bind, ended_modify, ended_throw]
      · rfl

end Lag.World

namespace Lag

/-- A module that was built and waits for its commit. -/
structure Build where
  /-- Whether it was built by a reload. -/
  again : Bool
  /-- The script. -/
  script : Script
  /-- The version of the module. -/
  version : Nat
  deriving DecidableEq, Repr

/-- A call that found its function and waits for the answer. -/
structure Call where
  /-- The identifier of the script. -/
  id : String
  /-- The name of the function. -/
  entry : String
  /-- The module that was active. -/
  module : Module
  /-- The function. -/
  function : Entity
  /-- The arguments. -/
  arguments : List Value

namespace World

variable {κ : Type}

/-- The first step of a load or a reload; the version of the module. -/
def start (hooks : Hooks κ) (again : Bool) (script : Script) : Act κ Nat := do
  if !again && !script.isValid then throw (.invalidId "load")
  build hooks script

/-- The last step of a load or a reload; the version, unless the module was discarded. -/
def finish (hooks : Hooks κ) (build : Build) : Act κ (Option Nat) :=
  if build.again then commitReload hooks build.script build.version
  else commitLoad hooks build.script build.version

/-- The first step of a call; what it found. -/
def look (id entry : String) (arguments : List Value) : Act κ Call := do
  let engine := (← get).engine
  match (engine.active? id).bind engine.module? with
  | none => throw (.notLoaded id)
  | some module =>
    match module.content.find? module.globals entry with
    | none => throw (.noEntry id entry (sortTexts (module.content.exports module.globals)))
    | some function => return ⟨id, entry, module, function, arguments⟩

/-- The last step of a call; its result. -/
def answer (hooks : Hooks κ) (call : Call) : Act κ Value := do
  match ← runModule hooks call.module (.call call.function call.arguments) with
  | .ok value =>
    modify (announce (.executed call.id call.entry))
    return value
  | .error accident => throw (.ofAccident accident (.script call.id call.entry accident))

/-- A load goes in two steps. -/
theorem load_eq (hooks : Hooks κ) (script : Script) :
    load hooks script =
      start hooks false script >>= fun version => finish hooks ⟨false, script, version⟩ := by
  unfold load start
  cases script.isValid <;> rfl

/-- A reload goes in two steps. -/
theorem reload_eq (hooks : Hooks κ) (script : Script) :
    reload hooks script =
      start hooks true script >>= fun version => finish hooks ⟨true, script, version⟩ :=
  rfl

/-- A call goes in two steps. -/
theorem invoke_eq (hooks : Hooks κ) (id entry : String) (arguments : List Value) :
    invoke hooks id entry arguments = look id entry arguments >>= answer hooks := by
  unfold invoke call look answer
  simp only [bind_assoc]
  refine bind_congr fun world => ?_
  cases (world.engine.active? id).bind world.engine.module? with
  | none => rfl
  | some module =>
    dsimp only
    cases module.content.find? module.globals entry with
    | none => rfl
    | some function =>
      simp only [bind_assoc, pure_bind]
      refine bind_congr fun outcome => ?_
      cases outcome with
      | ok value => rfl
      | error accident => rfl

end World

end Lag
