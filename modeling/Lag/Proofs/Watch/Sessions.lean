import Lag.Proofs.Watch.Played
import Lag.Proofs.Watch.Single

/-!
# Sessions are runs of turns

Every command of a session is an operation, or changes what the session keeps beside the world. The
hooks of a session perform commands in their turn. So what happens in a session is a run of turns, at
whatever depth lists of commands run inside each other.
-/
namespace Lag.Session

open World

/-! ## Commands -/

/-- A script under a name is looked up. -/
theorem within_scriptNamed (name : String) : Within World.Plays (scriptNamed name) := by
  have spans := (Hooks.plays_none .none).spans (κ := Own)
  refine .look fun place => ?_
  cases place.own.scripts.find? name with
  | none => exact .throw spans _
  | some script => exact .pure spans _

/-- A version under a name is looked up. -/
theorem within_versionNamed (name : String) : Within World.Plays (versionNamed name) := by
  have spans := (Hooks.plays_none .none).spans (κ := Own)
  refine .look fun place => ?_
  cases place.own.modules.find? name with
  | none => exact .throw spans _
  | some version => exact .pure spans _

/-- What a session keeps is changed. -/
theorem within_withOwn (change : Own → Own) :
    Within World.Plays (modify (withOwn change) : Act Own Unit) :=
  ⟨fun _ => .of_beside ⟨rfl, rfl⟩⟩

/-- The files are changed. -/
theorem within_changeFiles (change : Files → Except FileFault Files) :
    Within World.Plays (changeFiles change) := by
  have spans := (Hooks.plays_none .none).spans (κ := Own)
  refine .look fun place => .bind spans (.take spans ..) fun files => ?_
  exact .bind spans ⟨fun world => .of_files world files⟩ fun _ => .pure spans _

/-- A module is shown. -/
theorem within_moduleAnswer (version : Option Nat) : Within World.Plays (moduleAnswer version) :=
  .look fun _ => .pure (Hooks.plays_none .none).spans.composes _

/-- How often a reload can be done is counted. -/
theorem within_reloadBound : Within World.Plays reloadBound :=
  .look fun _ => .pure (Hooks.plays_none .none).spans.composes _

/-- A command is a run of turns if what hooks do is one. -/
theorem within_carryOut {hooks : Hooks Own} (plays : hooks.Plays) (command : Command) :
    Within World.Plays (carryOut hooks command) := by
  have spans := plays.spans
  have ends {α β : Type} {act : Act Own α} {next : α → Act Own β} (first : Within World.Plays act)
      (goes : ∀ result, Within World.Plays (next result)) : Within World.Plays (act >>= next) :=
    .bind spans first goes
  have shows {α : Type} {act : Act Own α} (answer : α → Answer) (first : Within World.Plays act) :
      Within World.Plays (act >>= fun result => pure (answer result)) :=
    ends first fun _ => .pure spans _
  match command with
  | .script .. => exact ends (within_withOwn _) fun _ => .pure spans _
  | .edit .. =>
    exact ends (within_scriptNamed _) fun _ => ends (within_withOwn _) fun _ => .pure spans _
  | .read .. =>
    exact ends (.readScript spans ..) fun _ => ends (within_withOwn _) fun _ => .pure spans _
  | .load name =>
    exact ends (within_scriptNamed _) fun script => ends (.load spans script) within_moduleAnswer
  | .reload name =>
    exact ends (within_scriptNamed _) fun script => ends (.reload spans script) within_moduleAnswer
  | .build name target =>
    exact ends (within_scriptNamed _) fun script => ends (.build spans script) fun _ =>
      ends (within_withOwn _) fun _ => within_moduleAnswer _
  | .source name => exact ends (within_versionNamed _) fun _ => .look fun _ => .pure spans _
  | .module name => exact ends (within_versionNamed _) fun _ => within_moduleAnswer _
  | .activate name =>
    exact ends (within_versionNamed _) fun version => shows _ (.activate spans version)
  | .deactivate id => exact shows _ (.deactivate spans id)
  | .isActive id => exact shows _ (.activeVersion spans id)
  | .activeIds => exact .look fun _ => .pure spans _
  | .invoke id entry arguments => exact shows _ (.invoke spans ..)
  | .delete id => exact shows _ (.delete spans id)
  | .active id => exact ends (.activeVersion spans id) within_moduleAnswer
  | .globals id => exact .look fun _ => .pure spans _
  | .translate code title file => exact .look fun _ => shows _ (.take spans ..)
  | .loadFile path id => exact shows _ (.loadFile spans ..)
  | .loadDirectory path => exact shows _ (.loadDirectory spans _)
  | .discover path => exact shows _ (.discover spans _)
  | .save name =>
    exact ends (within_scriptNamed _) fun script => ends (.save spans script) fun _ => .pure spans _
  | .stored id => exact .look fun _ => .pure spans _
  | .unstore id => exact shows _ (.unstore spans id)
  | .contains id => exact .look fun _ => .pure spans _
  | .storedAll => exact .look fun _ => .pure spans _
  | .clear => exact ends (.change spans _) fun _ => .pure spans _
  | .write path bytes time =>
    exact within_changeFiles (·.write (Text.Path.ofText path) bytes time)
  | .makeDirectory path time =>
    exact within_changeFiles (·.makeDirectory (Text.Path.ofText path) time)
  | .remove path => exact within_changeFiles (·.remove (Text.Path.ofText path))
  | .watch name => exact ends (within_scriptNamed _) fun script => shows _ (within_startWatch script)
  | .unwatch id => exact shows _ (within_stopWatch id)
  | .record id => exact .look fun _ => .pure spans _
  | .watched => exact .look fun _ => .pure spans _
  | .check name =>
    exact ends within_reloadBound fun _ => ends (within_scriptNamed _) fun script =>
      ends (within_check plays _ script) fun _ => .look fun _ => .pure spans _
  | .checkAll =>
    exact ends within_reloadBound fun _ => ends (within_checkAll plays _) fun _ =>
      .look fun _ => .pure spans _
  | .runJob =>
    exact ends within_reloadBound fun _ => ends (within_runJob plays _) fun _ =>
      .look fun _ => .pure spans _
  | .onCompile _ => exact ends (within_withOwn _) fun _ => .pure spans _
  | .onPrint _ => exact ends (within_withOwn _) fun _ => .pure spans _

/-! ## Lists of commands -/

/-- The end of a command is beside the watch and the files. -/
theorem beside_finish (command : Command) (answer : Except Fault Answer) (place : Place) :
    Beside place (finish command answer place).2 := by
  unfold finish reportLists
  dsimp only
  split
  · exact ⟨rfl, rfl⟩
  · split <;> exact ⟨rfl, rfl⟩

section

variable {perform : Command → Place → Step × Place}
  (plays : ∀ command place, World.Plays place (perform command place).2)
include plays

/-- Commands in order are a run of turns if each of them is one. -/
theorem plays_performAll (commands : List Command) (place : Place) :
    World.Plays place (performAll perform commands place).2 := by
  induction commands generalizing place with
  | nil => exact .of_beside ⟨rfl, rfl⟩
  | cons command rest ih => exact (plays command place).trans (ih _)

/-- A list of commands that no longer waits is a run of turns. -/
theorem plays_list (taken : Own → Own) (commands : List Command) (place : Place) :
    World.Plays place (performAll perform commands (place |> withOwn taken)).2 := by
  have takes : World.Plays place (place |> withOwn taken) := .of_beside ⟨rfl, rfl⟩
  exact takes.trans (plays_performAll plays commands _)

/-- The lists that run in between are runs of turns if each command is one. -/
theorem plays_hooksOf : (hooksOf perform).Plays where
  compile place := by
    change World.Plays place (afterCompile perform place)
    unfold afterCompile
    cases place.own.afterCompile with
    | nil => exact .of_beside ⟨rfl, rfl⟩
    | cons commands rest =>
      have runs := plays_list plays (fun own => { own with afterCompile := rest }) commands place
      dsimp only
      split
      · exact runs.trans (.of_beside ⟨rfl, rfl⟩)
      · exact runs
  line place := by
    change World.Plays place (afterLine perform place)
    unfold afterLine
    cases place.own.afterLine with
    | nil => exact .of_beside ⟨rfl, rfl⟩
    | cons commands rest =>
      have runs := plays_list plays (fun own => { own with afterLine := rest }) commands place
      exact runs.trans (.of_beside ⟨rfl, rfl⟩)

end

/-- A command is a run of turns, at whatever depth lists run inside each other. -/
theorem plays_perform (depth : Nat) (command : Command) (place : Place) :
    World.Plays place (perform depth command place).2 := by
  induction depth generalizing command place with
  | zero =>
    have carries := (within_carryOut (Hooks.plays_none .simple) command).ends place
    exact carries.trans (.of_beside (beside_finish command _ _))
  | succ depth ih =>
    have carries := (within_carryOut (plays_hooksOf ih) command).ends place
    exact carries.trans (.of_beside (beside_finish command _ _))

/-- What happens in a session is a run of turns. -/
theorem plays_run (commands : List Command) (place : Place) :
    World.Plays place (run commands place).2 :=
  plays_performAll (plays_perform _) commands place

/-- What a session leaves is sane, whatever reloads were given up on the way. -/
theorem exists_sane_run (commands : List Command) (limit : Nat) (deferred : Bool) :
    ∃ left seen, (⟨(run commands (start limit deferred)).2, left, seen⟩ : Scene Own).Sane := by
  obtain ⟨turns, left, seen, reaches⟩ := plays_run commands (start limit deferred) [] []
  have fresh : (⟨start limit deferred, [], []⟩ : Scene Own).IsFresh := ⟨⟨deferred, rfl⟩, rfl, rfl⟩
  have sane := fresh.sane.run turns
  rw [reaches] at sane
  exact ⟨left, seen, sane⟩

/-- After every session a script has a record of its own exactly while it is to be checked, and a
further change is noted only for a reload that is under way or waits. -/
theorem recorded_run (commands : List Command) (limit : Nat) (deferred : Bool) (id : String) :
    let watch := (run commands (start limit deferred)).2.watch
    watch.watched.has id = watch.scripts.has id ∧
      (∀ place, watch.watched.find? id = some place →
        ∃ record, watch.records[place]? = some record ∧ record.id = id) ∧
      ((watch.slot id).again = true → (watch.slot id).running = true) := by
  obtain ⟨left, seen, sane⟩ := exists_sane_run commands limit deferred
  exact ⟨sane.watched id, fun place inForce => sane.record (.inl inForce), sane.owned.again id⟩

end Lag.Session
