import Lag.Proofs.Watch.Scene
import Lag.Proofs.World.Within
import Lag.Session

/-!
# Operations are runs of turns

What happens in a world is played if it is a run of turns, whatever reloads are under way. If what
hooks do is played, then every operation is played: while the engine reloads a script, hooks take
turns, and afterwards the reload goes on in the world that they have left. So everything that happens
in a session is played, for its hooks carry out commands of the session.
-/
namespace Lag

variable {κ α : Type}

/-- A world becomes another one in turns, which leave the reloads that were under way where they are.
Reloads that were given up, for they were due again too often, stay behind. -/
def World.Plays (before after : World κ) : Prop :=
  ∀ (reloads : List Reloading) (past : List (Sight κ)), ∃ turns left seen,
    (⟨before, reloads, past⟩ : Scene κ).run turns = ⟨after, reloads ++ left, seen⟩

/-- What hooks do is played. -/
structure Hooks.Plays (hooks : Hooks κ) : Prop where
  /-- After a module was compiled. -/
  compile : ∀ world, World.Plays world (hooks.afterCompile world)
  /-- After a script wrote a line. -/
  line : ∀ world, World.Plays world (hooks.afterLine world)

namespace World

namespace Plays

/-- What happens beside the watch and the files is played. -/
theorem of_beside {before after : World κ} (beside : Beside before after) :
    World.Plays before after := by
  intro reloads past
  refine ⟨[.aside after], [], past, ?_⟩
  obtain ⟨engine, files, watch, outbox, own⟩ := after
  obtain ⟨rfl, rfl⟩ := beside
  rw [List.append_nil]
  rfl

/-- Files that are written are played. -/
theorem of_files (world : World κ) (files : Files) :
    World.Plays world { world with files := files } := by
  intro reloads past
  refine ⟨[.files files], [], past, ?_⟩
  rw [List.append_nil]
  rfl

/-- What happens one after the other is played. -/
theorem trans {first second third : World κ} (begins : World.Plays first second)
    (goes : World.Plays second third) : World.Plays first third := by
  intro reloads past
  obtain ⟨turns, left, seen, reaches⟩ := begins reloads past
  obtain ⟨others, more, last, ends⟩ := goes (reloads ++ left) seen
  refine ⟨turns ++ others, left ++ more, last, ?_⟩
  rw [Scene.run_append, reaches, ends, List.append_assoc]

end Plays

end World

/-- With hooks that are played the engine is played. -/
theorem Hooks.Plays.spans {hooks : Hooks κ} (plays : hooks.Plays) :
    World.Spans hooks World.Plays where
  beside := .of_beside
  compile := plays.compile
  line := plays.line
  trans := .trans

/-- Hooks that do nothing are played. -/
theorem Hooks.plays_none (language : HostLanguage) : (.none language : Hooks κ).Plays :=
  ⟨fun _ => .of_beside ⟨rfl, rfl⟩, fun _ => .of_beside ⟨rfl, rfl⟩⟩

/-! ## Reloads -/

namespace World

/-- Take over an answer of the engine, and settle the reload. -/
def closing (id : String) (place : Nat) (script : Script) (answer : Except Fault (Option Nat)) :
    Act κ (Option CheckResult) :=
  conclude id place script answer >>= settle id

end World

/-- What is left of a reload by the outcome of its last round: it is due again, or nothing is. -/
def Reloading.rest (reloading : Reloading) :
    Except Fault (Option World.CheckResult) → List Reloading
  | .ok none => [{ reloading with stage := .due }]
  | _ => []

namespace Scene

/-- A reload after others that are under way. -/
theorem getElem?_reloads (reloads others : List Reloading) (reloading : Reloading) :
    (reloads ++ reloading :: others)[reloads.length]? = some reloading := by
  rw [List.getElem?_append_right (Nat.le_refl _), Nat.sub_self]
  rfl

/-- What follows a reload concerns no other reload. -/
theorem closed_reloads (world : World κ) (reloads others : List Reloading) (past : List (Sight κ))
    (reloading last : Reloading)
    (ending : Except Fault (Option World.CheckResult) × World κ) :
    (⟨world, reloads ++ reloading :: others, past⟩ : Scene κ).closed reloads.length last ending =
      ⟨ending.2, reloads ++ last.rest ending.1 ++ others, past⟩ := by
  obtain ⟨outcome, after⟩ := ending
  have erased : (reloads ++ reloading :: others).eraseIdx reloads.length = reloads ++ others := by
    rw [List.eraseIdx_append_of_length_le (Nat.le_refl _), Nat.sub_self]
    rfl
  match outcome with
  | .ok none =>
    unfold closed reach withWorld Reloading.rest
    dsimp only
    rw [List.set_append_right _ _ (Nat.le_refl _), Nat.sub_self, List.append_assoc]
    rfl
  | .ok (some result) =>
    unfold closed Reloading.rest
    dsimp only
    rw [erased, List.append_nil]
  | .error fault =>
    unfold closed Reloading.rest
    dsimp only
    rw [erased, List.append_nil]

/-- A reload is read. -/
theorem step_read {scene : Scene κ} {which : Nat} {id : String} {place : Nat}
    (found : scene.reloads[which]? = some ⟨id, place, .due⟩)
    (answer : Option (Except Fault (Option Nat))) :
    scene.step (.read which answer) = scene.read which ⟨id, place, .due⟩ answer := by
  unfold step
  dsimp only
  rw [found]

/-- An answer of the engine is taken over. -/
theorem step_answer {scene : Scene κ} {which : Nat} {id : String} {place : Nat} {script : Script}
    (found : scene.reloads[which]? = some ⟨id, place, .busy script⟩)
    (answer : Except Fault (Option Nat)) :
    scene.step (.answer which answer) =
      scene.closed which ⟨id, place, .busy script⟩
        (World.ended (World.closing id place script answer) scene.world) := by
  unfold step
  dsimp only
  rw [found]
  rfl

section

variable {scene : Scene κ} {id : String} {place : Nat} {after : World κ}

/-- What was seen once a reload looked at the file of its record. -/
def looked (scene : Scene κ) (id : String) (place : Nat) : List (Sight κ) :=
  if scene.looks id place then .attempted id place scene.world :: scene.past else scene.past

/-- A reload has nothing to ask the engine. -/
theorem read_error {result : World.CheckResult}
    (attempts : World.ended (World.attempt id place) scene.world = (.ok (.error result), after))
    (which : Nat) (answer : Option (Except Fault (Option Nat))) :
    scene.read which ⟨id, place, .due⟩ answer =
      (⟨after, scene.reloads, scene.looked id place⟩ : Scene κ).closed which ⟨id, place, .due⟩
        (World.ended (World.settle id result) after) := by
  unfold read looked
  dsimp only
  rw [attempts]
  cases scene.looks id place <;> rfl

/-- A reload asks the engine, which does not answer at once. -/
theorem read_none {script : Script}
    (attempts : World.ended (World.attempt id place) scene.world = (.ok (.ok script), after))
    (which : Nat) :
    scene.read which ⟨id, place, .due⟩ none =
      ⟨after, scene.reloads.set which ⟨id, place, .busy script⟩, scene.looked id place⟩ := by
  unfold read looked
  dsimp only
  rw [attempts]
  cases scene.looks id place <;> rfl

end

variable {hooks : Hooks κ}

/-- A reload asks the engine if there is a script to ask for, and is settled after the answer. -/
theorem reloadOnce_eq (id : String) (place : Nat) :
    World.reloadOnce hooks id place =
      World.attempt id place >>= fun
        | .error result => World.settle id result
        | .ok script => World.outcomeOf (World.reload hooks script) >>=
            World.closing id place script :=
  rfl

/-- A round of a reload is a run of turns: its file is read, hooks take their turns while the engine
is busy, and its answer is taken over. -/
theorem exists_reloadOnce (plays : hooks.Plays) (id : String) (place : Nat) (world : World κ)
    (reloads others : List Reloading) (past : List (Sight κ)) :
    ∃ turns left seen,
      (⟨world, reloads ++ ⟨id, place, .due⟩ :: others, past⟩ : Scene κ).run turns =
        ⟨(World.ended (World.reloadOnce hooks id place) world).2,
          reloads ++ Reloading.rest ⟨id, place, .due⟩
            (World.ended (World.reloadOnce hooks id place) world).1 ++ left, seen⟩ := by
  obtain ⟨outbox, attempts⟩ : World.Shows (World.attempt id place) world _ :=
    World.Shows.attempt id place
  rw [reloadOnce_eq, World.ended_bind, attempts]
  dsimp only at attempts ⊢
  generalize { world with watch := _, outbox := outbox } = asked at attempts ⊢
  generalize (world.watch.attempt id place world.files).1 = outcome at attempts ⊢
  let scene : Scene κ := ⟨world, reloads ++ ⟨id, place, .due⟩ :: others, past⟩
  have found := getElem?_reloads reloads others ⟨id, place, .due⟩
  cases outcome with
  | error result =>
    refine ⟨[.read reloads.length none], others, scene.looked id place, ?_⟩
    change scene.step (.read _ none) = _
    rw [step_read found, read_error attempts, closed_reloads]
  | ok script =>
    have goes := (World.Within.reload plays.spans script).ends asked
    dsimp only
    rw [World.ended_bind, World.ended_outcomeOf]
    revert goes
    cases World.ended (World.reload hooks script) asked with
    | mk answer answered =>
      intro goes
      obtain ⟨turns, left, seen, reaches⟩ := goes (reloads ++ ⟨id, place, .busy script⟩ :: others)
        (scene.looked id place)
      refine ⟨.read reloads.length none :: (turns ++ [.answer reloads.length answer]),
        others ++ left, seen, ?_⟩
      have asks : scene.step (.read reloads.length none) =
          ⟨asked, reloads ++ ⟨id, place, .busy script⟩ :: others, scene.looked id place⟩ := by
        rw [step_read found, read_none attempts, List.set_append_right _ _ (Nat.le_refl _),
          Nat.sub_self]
        rfl
      change (scene.step (.read reloads.length none)).run (turns ++ _) = _
      rw [asks, run_append, reaches, List.append_assoc, List.cons_append]
      change step _ (.answer _ _) = _
      rw [step_answer (getElem?_reloads ..), closed_reloads]
      rfl

/-- A reload is a run of turns, round after round. -/
theorem exists_runReloads (plays : hooks.Plays) (id : String) (place bound : Nat) (world : World κ)
    (reloads others : List Reloading) (past : List (Sight κ)) :
    ∃ turns left seen,
      (⟨world, reloads ++ ⟨id, place, .due⟩ :: others, past⟩ : Scene κ).run turns =
        ⟨(World.ended (World.runReloads hooks id place bound) world).2, reloads ++ left, seen⟩ := by
  induction bound generalizing world others past with
  | zero => exact ⟨[], _, past, rfl⟩
  | succ bound ih =>
    obtain ⟨turns, left, seen, reaches⟩ :=
      exists_reloadOnce plays id place world reloads others past
    unfold World.runReloads
    rw [World.ended_bind]
    revert reaches
    cases World.ended (World.reloadOnce hooks id place) world with
    | mk outcome after =>
      intro reaches
      match outcome with
      | .ok none =>
        obtain ⟨rounds, others, last, ends⟩ := ih after left seen
        refine ⟨turns ++ rounds, others, last, ?_⟩
        rw [run_append, reaches, List.append_assoc]
        exact ends
      | .ok (some result) => exact ⟨turns, left, seen, by rw [reaches]; simp [Reloading.rest]⟩
      | .error fault => exact ⟨turns, left, seen, by rw [reaches]; simp [Reloading.rest]⟩

end Scene

/-! ## Operations of the watch -/

namespace World

namespace Plays

/-- What one turn does is played. -/
theorem of_turn {before after : World κ} (turn : Turn κ)
    (takes : ∀ reloads past, ∃ seen,
      (⟨before, reloads, past⟩ : Scene κ).step turn = ⟨after, reloads, seen⟩) :
    World.Plays before after := by
  intro reloads past
  obtain ⟨seen, takes⟩ := takes reloads past
  exact ⟨[turn], [], seen, by rw [List.append_nil]; exact takes⟩

/-- A reload that starts in a turn is played. -/
theorem of_start {hooks : Hooks κ} (plays : hooks.Plays) {before after : World κ} {id : String}
    {place : Nat} (turn : Turn κ)
    (takes : ∀ reloads past, ∃ seen,
      (⟨before, reloads, past⟩ : Scene κ).step turn =
        ⟨after, reloads ++ [⟨id, place, .due⟩], seen⟩) (bound : Nat) :
    World.Plays before (ended (runReloads hooks id place bound) after).2 := by
  intro reloads past
  obtain ⟨seen, takes⟩ := takes reloads past
  obtain ⟨turns, left, last, reaches⟩ :=
    Scene.exists_runReloads plays id place bound after reloads [] seen
  refine ⟨turn :: turns, left, last, ?_⟩
  change ((⟨before, reloads, past⟩ : Scene κ).step turn).run turns = _
  rw [takes, reaches]

end Plays

/-- A script is watched in one turn. -/
theorem within_startWatch (script : Script) :
    Within World.Plays (startWatch script : Act κ WatchRecord) :=
  ⟨fun _ => .of_turn (.watch script) fun _ past => ⟨past, rfl⟩⟩

/-- A script is watched no longer after one turn. -/
theorem within_stopWatch (id : String) : Within World.Plays (stopWatch id : Act κ Bool) :=
  ⟨fun _ => .of_turn (.unwatch id) fun _ past => ⟨past, rfl⟩⟩

section

variable {hooks : Hooks κ} (plays : hooks.Plays)
include plays

/-- The turns of a check are one turn, and those of the reload that it starts. -/
theorem within_check (bound : Nat) (script : Script) :
    Within World.Plays (check hooks bound script) := by
  refine ⟨fun world => ?_⟩
  have takes (reloads : List Reloading) (past : List (Sight κ)) :
      (⟨world, reloads, past⟩ : Scene κ).step (.check script) =
        (⟨world, reloads, past⟩ : Scene κ).checked script := rfl
  unfold Scene.checked at takes
  unfold check
  rw [ended_bind]
  revert takes
  dsimp only
  cases ended (notice script) world with
  | mk noticed after =>
    match noticed with
    | .error _ | .ok (.error _) =>
      exact fun takes => .of_turn (.check script) fun reloads past => ⟨past, takes reloads past⟩
    | .ok (.ok place) =>
      dsimp only
      rw [ended_bind]
      cases ended (claim script.id place) after with
      | mk claimed after =>
        match claimed with
        | .error _ | .ok (some _) =>
          exact fun takes => .of_turn (.check script) fun reloads past => ⟨_, takes reloads past⟩
        | .ok none =>
          exact fun takes =>
            .of_start plays (.check script) (fun reloads past => ⟨_, takes reloads past⟩) bound

/-- Scripts are checked in turns. -/
theorem within_checkScripts (bound : Nat) (scripts : List Script) :
    Within World.Plays (checkScripts hooks bound scripts) :=
  .checkScripts_of plays.spans.composes (within_check plays bound) scripts

/-- All scripts are checked in turns. -/
theorem within_checkAll (bound : Nat) : Within World.Plays (checkAll hooks bound) :=
  .look fun _ => within_checkScripts plays bound _

/-- The turns of a reload that waited are its start, and those of the reload. -/
theorem within_runJob (bound : Nat) : Within World.Plays (runJob hooks bound) := by
  refine ⟨fun world => ?_⟩
  have takes (reloads : List Reloading) (past : List (Sight κ)) :
      (⟨world, reloads, past⟩ : Scene κ).step .release =
        (⟨world, reloads, past⟩ : Scene κ).released := rfl
  unfold Scene.released at takes
  unfold runJob
  rw [ended_bind, ended_get]
  revert takes
  dsimp only
  cases world.watch.jobs with
  | nil => exact fun _ => .of_beside ⟨rfl, rfl⟩
  | cons job rest =>
    intro takes
    have runs := World.Plays.of_start plays .release
      (fun reloads past => ⟨past, takes reloads past⟩) bound
    dsimp only
    rw [ended_bind, ← map_eq_pure_bind]
    change World.Plays world (ended (some <$> runReloads hooks job.1 job.2 bound) _).2
    rw [ended_map]
    revert runs
    generalize ended (runReloads hooks job.1 job.2 bound) _ = ending
    obtain ⟨outcome, after⟩ := ending
    cases outcome <;> exact id

end

end World

end Lag
