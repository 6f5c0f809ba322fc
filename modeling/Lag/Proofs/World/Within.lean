import Lag.Proofs.Run.Alike
import Lag.Proofs.World.Ended
import Lag.World.Watch

/-!
# What operations do to a world

An operation stays within a relation of worlds if the worlds before and after it are related. Most
steps of operations announce something, or change which scripts are stored or deleted. A relation
that holds of such changes, one after the other, holds of every operation whose other steps stay
within it: of a build if it holds of the compilation, of a load if it holds of the steps of loads.
-/
namespace Lag.World

variable {κ α β : Type}

/-- An operation changes worlds within a relation. -/
structure Within (related : World κ → World κ → Prop) (act : Act κ α) : Prop where
  /-- The worlds before and after the operation are related. -/
  ends : ∀ world, related world (ended act world).2

/-- A relation of worlds that holds of changes of what is announced, stored and deleted, and of one
change after the other. -/
structure Composes (related : World κ → World κ → Prop) : Prop where
  /-- Changes of what is announced, stored and deleted. -/
  notes : ∀ (world : World κ) (outbox : Outbox) (stored : Table Script) (deleted : List String),
    related world
      { world with
        engine := { world.engine with stored := stored, deleted := deleted }
        outbox := outbox }
  /-- Changes one after the other. -/
  trans : ∀ {first second third}, related first second → related second third →
    related first third

namespace Within

variable {hooks : Hooks κ} {related : World κ → World κ → Prop}

/-- A look at the world. -/
theorem look {next : World κ → Act κ α} (goes : ∀ world, Within related (next world)) :
    Within related (get >>= next) :=
  ⟨fun world => by
    rw [ended_bind, ended_get]
    exact (goes world).ends world⟩

section

variable (composes : Composes related)
include composes

/-- A change of what is announced. -/
theorem tells {change : World κ → World κ}
    (outbox : ∀ world, change world = { world with outbox := (change world).outbox }) :
    Within related (modify change : Act κ Unit) := by
  refine ⟨fun world => ?_⟩
  rw [ended_modify, outbox world]
  exact composes.notes world _ world.engine.stored world.engine.deleted

/-- A change of what is stored and deleted. -/
theorem keeps {change : Engine → Engine}
    (stored : ∀ engine, change engine =
      { engine with stored := (change engine).stored, deleted := (change engine).deleted }) :
    Within related (World.change change) := by
  refine ⟨fun world => ?_⟩
  have goes := composes.notes world world.outbox (change world.engine).stored
    (change world.engine).deleted
  rw [← stored] at goes
  exact goes

/-- A result. -/
theorem pure (result : α) : Within related (Pure.pure result : Act κ α) :=
  ⟨fun world => composes.notes world world.outbox world.engine.stored world.engine.deleted⟩

/-- A fault. -/
theorem throw (fault : Fault) : Within related (MonadExcept.throw fault : Act κ α) :=
  ⟨fun world => composes.notes world world.outbox world.engine.stored world.engine.deleted⟩

/-- A fault, after which nothing happens. -/
theorem throwFirst (fault : Fault) (next : β → Act κ α) :
    Within related (MonadExcept.throw fault >>= next) :=
  ⟨fun world => composes.notes world world.outbox world.engine.stored world.engine.deleted⟩

/-- An entry of the journal. -/
theorem say (part : String) (level : Log.Level) (message : String) :
    Within related (World.say part level message) :=
  tells composes fun _ => rfl

/-- An event. -/
theorem announce (event : Event) : Within related (modify (World.announce event) : Act κ Unit) :=
  tells composes fun _ => rfl

/-- An outcome that is taken over. -/
theorem take {ε : Type} (wrap : ε → Fault) (outcome : Except ε α) :
    Within related (World.take wrap outcome) := by
  cases outcome with
  | ok result => exact pure composes result
  | error fault => exact throw composes (wrap fault)

/-- One operation after the other. -/
theorem bind {act : Act κ α} {next : α → Act κ β} (first : Within related act)
    (goes : ∀ result, Within related (next result)) : Within related (act >>= next) := by
  refine ⟨fun world => ?_⟩
  have begins := first.ends world
  rw [ended_bind]
  revert begins
  cases ended act world with
  | mk outcome after =>
    intro begins
    cases outcome with
    | ok result => exact composes.trans begins ((goes result).ends after)
    | error fault => exact begins

/-- A result that is changed. -/
theorem map (change : α → β) {act : Act κ α} (first : Within related act) :
    Within related (change <$> act) := by
  rw [map_eq_pure_bind]
  exact bind composes first fun _ => pure composes _

/-- A fault that is caught. -/
theorem tryCatch {act : Act κ α} {handle : Fault → Act κ α} (first : Within related act)
    (handles : ∀ fault, Within related (handle fault)) :
    Within related (MonadExcept.tryCatch act handle) := by
  refine ⟨fun world => ?_⟩
  have begins := first.ends world
  rw [ended_tryCatch]
  revert begins
  cases ended act world with
  | mk outcome after =>
    intro begins
    cases outcome with
    | ok result => exact begins
    | error fault => exact composes.trans begins ((handles fault).ends after)

/-- The outcome of an operation. -/
theorem outcomeOf {act : Act κ α} (first : Within related act) :
    Within related (World.outcomeOf act) :=
  tryCatch composes (map composes _ first) fun _ => pure composes _

/-- What a module does on a request, if the shared things that it finds are always allowed. -/
theorem runModule_of {module : Module} {allowed : Run.Store → Prop}
    (holds : hooks.language.Holds allowed module.content) (request : Run.Request) {world : World κ}
    (allows : ∀ now, related world now → allowed now.engine.shared)
    (writes : ∀ globals now,
      related now (now.withEngine (Engine.withGlobals module.version globals)))
    (shares : ∀ things now, allowed things → related now (now.withEngine (Engine.share things)))
    (line : ∀ now, related now (hooks.afterLine now)) :
    related world (ended (World.runModule hooks module request) world).2 := by
  -- The run is compared with itself: the worlds that it passes through are related to the first.
  let reached (first second : World κ) : Prop := first = second ∧ related world first
  have begins : related world world :=
    composes.notes world world.outbox world.engine.stored world.engine.deleted
  have goes : Run.Writes reached (port hooks module).write (port hooks module).write := by
    rintro text globals after _ ⟨rfl, reached⟩
    have written (after : World κ) : related after (after.addLine module.id text) :=
      composes.notes after _ after.engine.stored after.engine.deleted
    have told := composes.trans (writes globals after) (written _)
    exact ⟨rfl, rfl, composes.trans (composes.trans reached told) (line _)⟩
  have ports : Run.Ports allowed reached (port hooks module) (port hooks module) := by
    refine ⟨goes, ?_, ?_, ?_⟩
    · rintro after _ ⟨rfl, -⟩
      rfl
    · rintro after _ ⟨rfl, reached⟩
      exact allows after reached
    · rintro things after _ fine ⟨rfl, reached⟩
      exact ⟨rfl, composes.trans reached (shares things after fine)⟩
  obtain ⟨-, -, -, ends⟩ :=
    hooks.language.agree holds request ports (world.engine.globalsOf module.version) ⟨rfl, begins⟩
  exact composes.trans ends (writes _ _)

/-! ## Steps of operations -/

/-- The version of the active module is looked up. -/
theorem activeVersion (id : String) : Within related (World.activeVersion id) :=
  look fun _ => pure composes _

/-- Whether a version is older than the active one is looked up. -/
theorem isStale (id : String) (version : Nat) : Within related (World.isStale id version) := by
  refine bind composes (activeVersion composes id) fun active => ?_
  cases active with
  | none => exact pure composes _
  | some current =>
    dsimp only
    split
    · exact pure composes _
    · exact bind composes (say composes ..) fun _ => pure composes _

/-- A module for a script is prepared. -/
theorem prepare_of {module : Module}
    (runs : Within related (World.runModule hooks module .body)) (script : Script) :
    Within related (World.prepare hooks script module) := by
  unfold World.prepare
  cases module.content with
  | lag linked => exact pure composes _
  | host text native =>
    refine bind composes runs fun outcome => ?_
    cases outcome with
    | error accident => exact throw composes _
    | ok value => exact pure composes _

/-- A module is built. -/
theorem build_of {script : Script} (compiles : Within related (World.compileModule hooks script)) :
    Within related (World.build hooks script) := by
  refine bind composes (tryCatch composes (map composes _ compiles) fun _ => pure composes _)
    fun built => ?_
  cases built with
  | ok version => exact bind composes (announce composes _) fun _ => pure composes _
  | error fault =>
    dsimp only
    split
    · exact bind composes (say composes ..) fun _ => bind composes (announce composes _) fun _ =>
        throw composes _
    · exact throw composes _

/-- A script is stored. -/
theorem save (script : Script) : Within related (World.save script : Act κ Unit) := by
  unfold World.save
  split
  · exact throwFirst composes ..
  · exact bind composes (keeps composes fun _ => rfl) fun _ => say composes ..

/-- A module is committed. -/
theorem commit_of {version : Nat} (activates : Within related (World.activate hooks version))
    (script : Script) : Within related (World.commit hooks script version) := by
  refine bind composes activates fun active => ?_
  split
  · exact bind composes (save composes script) fun _ => pure composes _
  · exact pure composes _

/-- The module of a load or a reload is committed. -/
theorem finish_of {build : Build}
    (activates : Within related (World.activate hooks build.version)) :
    Within related (World.finish hooks build) := by
  unfold World.finish
  split
  · refine look fun world => ?_
    split
    · exact bind composes (say composes ..) fun _ => pure composes _
    · refine bind composes (commit_of composes activates _) fun active => ?_
      split
      · exact bind composes (say composes ..) fun _ => bind composes (announce composes _) fun _ =>
          pure composes _
      · exact pure composes _
  · refine bind composes (keeps composes fun _ => rfl) fun _ =>
      bind composes (commit_of composes activates _) fun active => ?_
    split
    · exact pure composes _
    · exact bind composes (say composes ..) fun _ => pure composes _

/-- A load or a reload starts. -/
theorem start_of {script : Script} (compiles : Within related (World.compileModule hooks script))
    (again : Bool) : Within related (World.start hooks again script) := by
  unfold World.start
  split
  · exact throwFirst composes ..
  · exact build_of composes compiles

/-- A function is looked up. -/
theorem lookup (id entry : String) (arguments : List Value) :
    Within related (World.look id entry arguments : Act κ Call) := by
  refine look fun world => ?_
  dsimp only
  cases (world.engine.active? id).bind world.engine.module? with
  | none => exact throw composes _
  | some module =>
    dsimp only
    cases module.content.find? module.globals entry with
    | none => exact throw composes _
    | some function => exact pure composes _

/-- A stored script is forgotten. -/
theorem unstore (id : String) : Within related (World.unstore id : Act κ Bool) := by
  refine look fun world => ?_
  split
  · exact bind composes (keeps composes fun _ => rfl) fun _ =>
      bind composes (say composes ..) fun _ => pure composes _
  · exact pure composes _

/-- A script is forgotten. -/
theorem delete_of {id : String} (deactivates : Within related (World.deactivate id : Act κ Bool)) :
    Within related (World.delete id : Act κ Bool) := by
  have buries (engine : Engine) : engine.bury id =
      { engine with stored := (engine.bury id).stored, deleted := (engine.bury id).deleted } := by
    unfold Engine.bury
    split <;> rfl
  refine bind composes (unstore composes id) fun removed =>
    bind composes deactivates fun _ => ?_
  split
  · exact bind composes (keeps composes buries) fun _ => pure composes _
  · exact pure composes _

/-! ## Scripts in files -/

/-- A script is read from a file. -/
theorem readScript (path : Text.Path) (id : Option String) :
    Within related (World.readScript path id : Act κ Script) := by
  unfold World.readScript
  cases Language.ofPath? path with
  | none => exact throw composes _
  | some language => exact look fun _ => bind composes (take composes ..) fun _ => pure composes _

/-- Scripts are read from files. -/
theorem readScripts (paths : List Text.Path) :
    Within related (World.readScripts paths : Act κ (List Script)) := by
  induction paths with
  | nil => exact pure composes _
  | cons path rest ih =>
    exact bind composes (readScript composes ..) fun _ => bind composes ih fun _ => pure composes _

/-- The scripts of a directory are read. -/
theorem discover (directory : Text.Path) :
    Within related (World.discover directory : Act κ (List Script)) := by
  refine look fun world => bind composes (take composes ..) fun isDirectory => ?_
  dsimp only
  split
  · exact throwFirst composes ..
  · exact bind composes (readScripts composes _) fun _ =>
      bind composes (say composes ..) fun _ => pure composes _

section

variable (loads : ∀ script, Within related (World.load hooks script))
include loads

/-- A script is loaded from a file. -/
theorem loadFile_of (path : Text.Path) (id : Option String) :
    Within related (World.loadFile hooks path id) :=
  bind composes (readScript composes ..) fun script =>
    bind composes (loads script) fun _ => pure composes _

/-- Scripts are loaded in order. -/
theorem loadAll_of (scripts : List Script) : Within related (World.loadAll hooks scripts) := by
  induction scripts with
  | nil => exact pure composes _
  | cons script rest ih =>
    refine bind composes (tryCatch composes (bind composes (loads script) fun _ =>
      pure composes _) fun fault => ?_) fun loaded => bind composes ih fun others =>
        pure composes _
    split
    · exact throwFirst composes ..
    · exact bind composes (say composes ..) fun _ => pure composes _

/-- The scripts of a directory are loaded. -/
theorem loadDirectory_of (directory : Text.Path) :
    Within related (World.loadDirectory hooks directory) :=
  bind composes (discover composes directory) fun scripts => loadAll_of composes loads scripts

end

/-! ## Scripts that are watched -/

/-- Scripts are checked in order. -/
theorem checkScripts_of {bound : Nat}
    (checks : ∀ script, Within related (World.check hooks bound script)) (scripts : List Script) :
    Within related (World.checkScripts hooks bound scripts) := by
  induction scripts with
  | nil => exact pure composes _
  | cons script rest ih =>
    refine bind composes (tryCatch composes (checks script) fun fault => ?_) fun result =>
      bind composes ih fun others => pure composes _
    cases fault with
    | missingFile => exact bind composes (say composes ..) fun _ => pure composes _
    | _ => exact throw composes _

end

end Within

/-!
## Beside the engine

An operation of the engine changes the engine, and what was announced. The watch and the files
change by what hooks do, and by nothing else. So a relation of worlds that holds of every change
beside the watch and the files, and of what hooks do, holds of every operation of the engine.
-/

/-- A change of the world that leaves the watch and the files alone. -/
structure Beside (before after : World κ) : Prop where
  /-- The watch is the same. -/
  watch : after.watch = before.watch
  /-- The files are the same. -/
  files : after.files = before.files

/-- A relation of worlds that holds of every change beside the watch and the files, of what hooks
do, and of one such change after the other. -/
structure Spans (hooks : Hooks κ) (related : World κ → World κ → Prop) : Prop where
  /-- Changes beside the watch and the files. -/
  beside : ∀ {before after}, Beside before after → related before after
  /-- What happens after a module was compiled. -/
  compile : ∀ world, related world (hooks.afterCompile world)
  /-- What happens after a script wrote a line. -/
  line : ∀ world, related world (hooks.afterLine world)
  /-- Changes one after the other. -/
  trans : ∀ {first second third}, related first second → related second third →
    related first third

/-- Announcements, stored scripts and deleted identifiers are beside the watch and the files. -/
theorem Spans.composes {hooks : Hooks κ} {related : World κ → World κ → Prop}
    (spans : Spans hooks related) : Composes related :=
  ⟨fun _ _ _ _ => spans.beside ⟨rfl, rfl⟩, spans.trans⟩

/-- Whatever holds of every relation that composes holds of one that spans the engine. -/
instance {hooks : Hooks κ} {related : World κ → World κ → Prop} :
    CoeOut (Spans hooks related) (Composes related) :=
  ⟨Spans.composes⟩

namespace Within

section

variable {hooks : Hooks κ} {related : World κ → World κ → Prop} (spans : Spans hooks related)
include spans

/-- A change of the engine. -/
theorem change (act : Engine → Engine) : Within related (World.change act) :=
  ⟨fun _ => spans.beside ⟨rfl, rfl⟩⟩

/-- What a module does on a request. -/
theorem runModule (module : Module) (request : Run.Request) :
    Within related (World.runModule hooks module request) :=
  ⟨fun _ => runModule_of spans (hooks.language.holds_true module.content) request
    (fun _ _ => trivial) (fun _ _ => spans.beside ⟨rfl, rfl⟩)
    (fun _ _ _ => spans.beside ⟨rfl, rfl⟩) spans.line⟩

/-! ## Operations -/

/-- A script is compiled. -/
theorem compileModule (script : Script) : Within related (World.compileModule hooks script) := by
  have reserves : Within related (World.reserve hooks.language script) :=
    look fun _ => bind spans (take spans ..) fun _ => bind spans (change spans _) fun _ =>
      pure spans _
  refine bind spans reserves fun module => ?_
  refine bind spans (prepare_of spans (runModule spans module .body) script) fun _ => ?_
  refine look fun world => bind spans (say spans ..) fun _ => ?_
  exact bind spans ⟨spans.compile⟩ fun _ => pure spans _

/-- A module is built. -/
theorem build (script : Script) : Within related (World.build hooks script) :=
  build_of spans (compileModule spans script)

/-- A module is made active. -/
theorem activate (version : Nat) : Within related (World.activate hooks version) := by
  refine look fun world => ?_
  cases world.engine.module? version with
  | none => exact pure spans _
  | some module =>
    refine bind spans (isStale spans ..) fun stale => ?_
    split
    · exact pure spans _
    · refine bind spans (runModule spans module .initial) fun outcome => ?_
      cases outcome with
      | error accident => exact throw spans _
      | ok _ =>
        refine bind spans (isStale spans ..) fun overtaken => ?_
        split
        · exact pure spans _
        · refine bind spans (activeVersion spans _) fun current => ?_
          refine bind spans (change spans _) fun _ => ?_
          cases current with
          | none => exact bind spans (say spans ..) fun _ => pure spans _
          | some old => exact bind spans (say spans ..) fun _ => pure spans _

/-- A load or a reload starts. -/
theorem start (again : Bool) (script : Script) :
    Within related (World.start hooks again script) :=
  start_of spans (compileModule spans script) again

/-- A load or a reload is finished. -/
theorem finish (build : Build) : Within related (World.finish hooks build) :=
  finish_of spans (activate spans build.version)

/-- A script is loaded. -/
theorem load (script : Script) : Within related (World.load hooks script) := by
  rw [load_eq]
  exact bind spans (start spans ..) fun _ => finish spans _

/-- A script is reloaded. -/
theorem reload (script : Script) : Within related (World.reload hooks script) :=
  bind spans (start spans true script) fun version => finish spans ⟨true, script, version⟩

/-- A call is answered. -/
theorem answer (call : Call) : Within related (World.answer hooks call) := by
  refine bind spans (runModule spans call.module (.call call.function call.arguments))
    fun outcome => ?_
  cases outcome with
  | ok value => exact bind spans (announce spans _) fun _ => pure spans _
  | error accident => exact throw spans _

/-- A function is called. -/
theorem invoke (id entry : String) (arguments : List Value) :
    Within related (World.invoke hooks id entry arguments) := by
  rw [invoke_eq]
  exact bind spans (lookup spans ..) fun call => answer spans call

/-- An identifier is made inactive. -/
theorem deactivate (id : String) : Within related (World.deactivate id : Act κ Bool) := by
  refine bind spans (activeVersion spans id) fun active => ?_
  cases active with
  | none => exact pure spans _
  | some version =>
    exact bind spans (change spans _) fun _ => bind spans (say spans ..) fun _ => pure spans _

/-- A script is forgotten. -/
theorem delete (id : String) : Within related (World.delete id : Act κ Bool) :=
  delete_of spans (deactivate spans id)

/-- A script is loaded from a file. -/
theorem loadFile (path : Text.Path) (id : Option String) :
    Within related (World.loadFile hooks path id) :=
  loadFile_of spans (load spans) path id

/-- The scripts of a directory are loaded. -/
theorem loadDirectory (directory : Text.Path) :
    Within related (World.loadDirectory hooks directory) :=
  loadDirectory_of spans (load spans) directory

end

end Within

end Lag.World
