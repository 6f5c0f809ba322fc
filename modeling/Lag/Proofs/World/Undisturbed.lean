import Lag.Proofs.World.Operations
import Lag.World.Simple

/-!
# Calls that are not disturbed

While a call runs, hooks act whenever it writes a line. As long as they neither activate nor invoke
the module that runs, they leave its variables alone, whatever becomes of it in the engine: it may
be replaced, made inactive or forgotten. So the call returns the same value or raises the same
fault, writes the same lines and leaves the same variables as without hooks.
-/
namespace Lag

/-! ## Lines of a call -/

/-- A port at which the lines that are written are noted. -/
def Run.Port.noting {σ : Type} (port : Run.Port σ) : Run.Port (σ × List String) where
  write line globals world :=
    let (globals, after) := port.write line globals world.1
    (globals, after, world.2 ++ [line])
  shared world := port.shared world.1
  share things world := (port.share things world.1, world.2)

variable {κ : Type}

namespace World

/-- What the function of a call does. -/
def part {σ : Type} (language : HostLanguage) (call : Call) (port : Run.Port σ) : Run.Part σ :=
  language.serve call.module.content (.call call.function call.arguments) port

/-- What the function of a call comes to, and what is left when its lines are noted. -/
def noted (hooks : Hooks κ) (call : Call) (world : World κ) :
    Except Run.Accident Value × Run.Store × World κ × List String :=
  part hooks.language call (port hooks call.module).noting
    (world.engine.globalsOf call.module.version) (world, [])

/-- The lines that a call writes itself, without those that hooks write in between. -/
def callLines (hooks : Hooks κ) (id entry : String) (arguments : List Value) (world : World κ) :
    List String :=
  match world.engine.look id entry arguments with
  | .ok call => (noted hooks call world).2.2.2
  | .error _ => []

/-- A call does not depend on whether its lines are noted. -/
theorem noted_eq (hooks : Hooks κ) (call : Call) (world : World κ) :
    part hooks.language call (port hooks call.module)
        (world.engine.globalsOf call.module.version) world =
      ((noted hooks call world).1, (noted hooks call world).2.1,
        (noted hooks call world).2.2.1) := by
  let same (first : World κ) (second : World κ × List String) : Prop := first = second.1
  have ports : Run.Ports (fun _ => True) same (port hooks call.module)
      (port hooks call.module).noting := by
    refine ⟨?_, ?_, fun _ => trivial, ?_⟩
    · rintro line globals _ ⟨after, lines⟩ rfl
      exact ⟨rfl, rfl⟩
    · rintro _ ⟨after, lines⟩ rfl
      rfl
    · rintro things _ ⟨after, lines⟩ - rfl
      rfl
  obtain ⟨result, globals, left⟩ := hooks.language.agree (hooks.language.holds_true _)
    (.call call.function call.arguments) ports (world.engine.globalsOf call.module.version)
    (show same world (world, []) from rfl)
  exact Prod.ext result (Prod.ext globals left)

end World

/-! ## Variables that are spared -/

namespace Engine

variable {engine after : Engine} {version : Nat}

/-- Marks are no variables. -/
theorem globalsOf_withLoaded (engine : Engine) (version other : Nat) (isLoaded : Bool) :
    (engine.withModule version fun module => { module with isLoaded := isLoaded }).globalsOf other =
      engine.globalsOf other := by
  unfold globalsOf withModule module?
  rw [Array.getElem?_modify]
  split
  · cases engine.modules[other - 1]? with
    | none => rfl
    | some module => rfl
  · rfl

/-- Variables stay when an identifier loses its active module. -/
theorem globalsOf_unmark (engine : Engine) (id : String) (other : Nat) :
    (engine.unmark id).globalsOf other = engine.globalsOf other := by
  unfold unmark
  split
  · exact globalsOf_withLoaded engine _ other false
  · rfl

/-- Variables stay when a module becomes active. -/
theorem globalsOf_publish (engine : Engine) (id : String) (version other : Nat) :
    (engine.publish id version).globalsOf other = engine.globalsOf other :=
  (globalsOf_withLoaded (engine.unmark id) version other true).trans
    (globalsOf_unmark engine id other)

/-- A module is kept if it is there afterwards when it was so before. -/
theorem Changes.isSome {spared : Option Nat} (changes : engine.Changes spared after)
    (positive : 0 < version) (there : (engine.module? version).isSome) :
    (after.module? version).isSome := by
  cases changes with
  | aside modules active =>
    unfold module?
    rw [modules]
    exact there
  | add id content =>
    obtain ⟨module, found⟩ := Option.isSome_iff_exists.1 there
    rw [add_eq, module?_insert (lt_of_module? found) positive]
    exact there
  | write _ _ globals =>
    rw [(keeps_withGlobals globals).isSome]
    exact there
  | publish id other =>
    rw [(keeps_publish ..).isSome]
    exact there
  | retract id =>
    rw [(keeps_retract ..).isSome]
    exact there

/-- The variables of a module that is spared stay. -/
theorem Changes.globalsOf (changes : engine.Changes (some version) after) (positive : 0 < version)
    (there : (engine.module? version).isSome) :
    after.globalsOf version = engine.globalsOf version := by
  cases changes with
  | aside modules active =>
    unfold Engine.globalsOf module?
    rw [modules]
  | add id content =>
    obtain ⟨module, found⟩ := Option.isSome_iff_exists.1 there
    unfold Engine.globalsOf
    rw [add_eq, module?_insert (lt_of_module? found) positive]
  | @write other given apart globals =>
    have different : version ≠ other := fun is => apart (congrArg some is)
    unfold Engine.globalsOf
    rw [module?_withGlobals globals given positive different]
  | publish id other => exact globalsOf_publish engine id other version
  | retract id => exact globalsOf_unmark engine id version

end Engine

namespace Loading

variable {setting : Setting} {loading after : Loading κ} {version : Nat}

/-- A module stays in a run of steps. -/
theorem Steps.isSome {spared : Option Nat} (steps : Steps setting spared loading after)
    (positive : 0 < version) (there : (loading.world.engine.module? version).isSome) :
    (after.world.engine.module? version).isSome := by
  induction steps with
  | refl => exact there
  | tail _ step ih => exact step.changes.isSome positive ih

/-- The variables of a module that is spared stay in a run of steps. -/
theorem Steps.globalsOf (steps : Steps setting (some version) loading after) (positive : 0 < version)
    (there : (loading.world.engine.module? version).isSome) :
    after.world.engine.globalsOf version = loading.world.engine.globalsOf version := by
  induction steps with
  | refl => rfl
  | tail begins step ih =>
    rw [step.changes.globalsOf positive (Steps.isSome begins positive there), ih]

end Loading

/-! ## Calls -/

namespace World

variable {setting : Setting} {origin : Loading κ} {hooks : Hooks κ} {call : Call}

/-- What a call with hooks and one without them have in common at any time: the lines, the shared
things, and that the module is there. With hooks the world is one that is met. -/
structure Alongside (setting : Setting) (origin : Loading κ) (version : Nat)
    (first second : World κ × List String) : Prop where
  /-- The same lines were written. -/
  lines : first.2 = second.2
  /-- The shared things are the same. -/
  shared : first.1.engine.shared = second.1.engine.shared
  /-- The world with hooks is met. -/
  met : origin.Meets setting first.1
  /-- The module is there with hooks. -/
  first : (first.1.engine.module? version).isSome
  /-- The module is there without hooks. -/
  second : (second.1.engine.module? version).isSome

/-- A line is written alike with hooks that keep off the module and without hooks. -/
theorem writes_alongside (sane : origin.IsSane setting)
    (knows : origin.world.engine.Knows (some call.module.version))
    (positive : 0 < call.module.version)
    (apart : ∀ now, origin.Meets setting now →
      Leads setting origin (some call.module.version) now (hooks.afterLine now))
    (keeps : ∀ now, origin.Meets setting now →
      (hooks.afterLine now).engine.shared = now.engine.shared) :
    Run.Writes (Alongside setting origin call.module.version)
      (port hooks call.module).noting.write
      (port (.none setting.language) call.module).noting.write := by
  rintro line globals ⟨world, lines⟩ ⟨other, _⟩
    ⟨rfl, shared, ⟨starting, past, met⟩, first, second⟩
  let version := call.module.version
  let set := world.withEngine (Engine.withGlobals version globals)
  let written := set.addLine call.module.id line
  have there : (set.engine.module? version).isSome :=
    ((Engine.keeps_withGlobals globals).isSome version).trans first
  obtain ⟨place, is⟩ := Nat.exists_eq_succ_of_ne_zero (Nat.ne_of_gt positive)
  have writes : Loading.Steps setting none ⟨world, starting, past⟩ ⟨written, starting, past⟩ := by
    have sets : Loading.Step setting none ⟨world, starting, past⟩ ⟨set, starting, past⟩ := by
      have write : Loading.Step setting none ⟨world, starting, past⟩
          ⟨world.withEngine (Engine.withGlobals (place + 1) globals), starting, past⟩ :=
        .write (Option.some_ne_none _).symm globals
      rw [← Nat.succ_eq_add_one, ← is] at write
      exact write
    exact .tail (.single sets) (.aside ⟨rfl, rfl, rfl⟩)
  have reached : Loading.Steps setting none origin ⟨written, starting, past⟩ := met.trans writes
  have goes : Loads setting origin (some version) written (hooks.afterLine written) :=
    (apart written ⟨starting, past, reached⟩).loads sane knows
  obtain ⟨seen, steps⟩ := goes starting past reached
  have kept : (hooks.afterLine written).engine.globalsOf version = globals := by
    have spared := steps.globalsOf positive there
    exact spared.trans (Engine.globalsOf_withGlobals globals first)
  have same : (other.engine.withGlobals version globals).globalsOf version = globals :=
    Engine.globalsOf_withGlobals globals second
  refine ⟨kept.trans same.symm, rfl, ?_, ⟨starting, seen, reached.trans steps.free⟩, ?_, ?_⟩
  · exact (keeps written ⟨starting, past, reached⟩).trans shared
  · exact steps.isSome positive there
  · exact ((Engine.keeps_withGlobals globals).isSome version).trans second

/-- What the function of a call comes to does not depend on hooks that keep off its module and leave
the shared things as they are. -/
theorem noted_alongside (is : hooks.language = setting.language) (sane : origin.IsSane setting)
    (found : origin.world.engine.module? call.module.version = some call.module)
    (positive : 0 < call.module.version)
    (apart : ∀ now, origin.Meets setting now →
      Leads setting origin (some call.module.version) now (hooks.afterLine now))
    (keeps : ∀ now, origin.Meets setting now →
      (hooks.afterLine now).engine.shared = now.engine.shared) :
    Run.Ends (Alongside setting origin call.module.version) (noted hooks call origin.world)
      (noted (.none setting.language) call origin.world) := by
  have knows : origin.world.engine.Knows (some call.module.version) :=
    fun version same => Option.some.inj same ▸ Engine.lt_of_module? found
  have ports : Run.Ports setting.allowed (Alongside setting origin call.module.version)
      (port hooks call.module).noting (port (.none setting.language) call.module).noting := by
    refine ⟨writes_alongside sane knows positive apart keeps, fun along => along.shared, ?_, ?_⟩
    · intro world after along
      obtain ⟨starting, past, met⟩ := along.met
      exact (sane.steps met).allowed
    · rintro things ⟨world, lines⟩ ⟨other, _⟩ fine ⟨rfl, shared, ⟨starting, past, met⟩, first, second⟩
      exact ⟨rfl, rfl, ⟨starting, past, met.tail (.share fine)⟩, first, second⟩
  have inside : (origin.world.engine.module? call.module.version).isSome :=
    Option.isSome_of_eq_some found
  have begins : Alongside setting origin call.module.version (origin.world, [])
      (origin.world, []) :=
    ⟨rfl, rfl, ⟨_, _, .refl⟩, inside, inside⟩
  unfold noted
  rw [is]
  exact setting.language.agree (sane.holds_module positive found) _ ports _ begins

/-- A call ends with what its function comes to. -/
theorem ended_answer (hooks : Hooks κ) (call : Call) (world : World κ) :
    (ended (answer hooks call) world).1 =
        (noted hooks call world).1.mapError (fun accident =>
          .ofAccident accident (.script call.id call.entry accident)) ∧
      (ended (answer hooks call) world).2.engine =
        (noted hooks call world).2.2.1.engine.withGlobals call.module.version
          (noted hooks call world).2.1 ∧
      (ended (answer hooks call) world).2.outbox.lines =
        (noted hooks call world).2.2.1.outbox.lines := by
  have runs : ended (runModule hooks call.module (.call call.function call.arguments)) world =
      (.ok (noted hooks call world).1, (noted hooks call world).2.2.1.withEngine
        (Engine.withGlobals call.module.version (noted hooks call world).2.1)) := by
    have same := noted_eq hooks call world
    unfold part at same
    unfold runModule
    rw [ended_bind, ended_get]
    dsimp only
    rw [same]
    rfl
  have answers : ended (answer hooks call) world = _ := ended_bind _ _ world
  rw [answers, runs]
  dsimp only
  cases (noted hooks call world).1 with
  | ok value => exact ⟨rfl, rfl, rfl⟩
  | error accident => exact ⟨rfl, rfl, rfl⟩

/-- Without hooks a call writes its own lines only. -/
theorem lines_noted (language : HostLanguage) (call : Call) (world : World κ) :
    (noted (.none language) call world).2.2.1.outbox.lines.toList =
      world.outbox.lines.toList ++
        (noted (.none language) call world).2.2.2.map fun line => (call.module.id, line) := by
  let told (first second : World κ × List String) : Prop :=
    first = second ∧ first.1.outbox.lines.toList =
      world.outbox.lines.toList ++ first.2.map fun line => (call.module.id, line)
  have ports : Run.Ports (fun _ => True) told (port (.none language) call.module).noting
      (port (.none language) call.module).noting := by
    refine ⟨?_, ?_, fun _ => trivial, ?_⟩
    · rintro line globals ⟨after, lines⟩ _ ⟨rfl, sofar⟩
      refine ⟨rfl, rfl, ?_⟩
      change (after.outbox.lines.push (call.module.id, line)).toList = _ ++ (lines ++ [line]).map _
      rw [Array.toList_push, List.map_append, ← List.append_assoc, ← sofar]
      rfl
    · rintro after _ ⟨rfl, -⟩
      rfl
    · rintro things ⟨after, lines⟩ _ - ⟨rfl, sofar⟩
      exact ⟨rfl, sofar⟩
  have begins : told (world, []) (world, []) := ⟨rfl, (List.append_nil _).symm⟩
  obtain ⟨-, -, -, ends⟩ := language.agree (language.holds_true _)
    (.call call.function call.arguments) ports (world.engine.globalsOf call.module.version) begins
  exact ends

end World

/-- A call of a function of a script gives the same value or fault, writes the same lines and leaves
the same variables of its module, whether hooks act when lines are written or not: whatever
operations hooks carry out, at any depth, as long as they neither activate nor invoke the module
that runs, and leave the things that all scripts share as they find them. -/
theorem calls_isolated {setting : Setting} {first : World κ} {limit : Nat}
    (fresh : first.engine = { limit := limit }) {origin : Loading κ}
    (reached : Loading.Steps setting none ⟨first, [], []⟩ origin) {hooks : Hooks κ}
    (is : hooks.language = setting.language) {id : String}
    (apart : ∀ now, origin.Meets setting now →
      World.Leads setting origin (origin.world.engine.active? id) now (hooks.afterLine now))
    (keeps : ∀ now, origin.Meets setting now →
      (hooks.afterLine now).engine.shared = now.engine.shared)
    (entry : String) (arguments : List Value) :
    let alone : Hooks κ := .none setting.language
    let disturbed := World.ended (World.invoke hooks id entry arguments) origin.world
    let quiet := World.ended (World.invoke alone id entry arguments) origin.world
    let lines := World.callLines hooks id entry arguments origin.world
    disturbed.1 = quiet.1 ∧
      quiet.2.outbox.lines.toList =
        origin.world.outbox.lines.toList ++ lines.map (fun line => (id, line)) ∧
      ∀ version, origin.world.engine.active? id = some version →
        disturbed.2.engine.globalsOf version = quiet.2.engine.globalsOf version := by
  intro alone disturbed quiet lines
  have sane : origin.IsSane setting := (Loading.isSane_fresh fresh setting.start).steps reached
  cases finds : origin.world.engine.look id entry arguments with
  | error fault =>
    have first : disturbed = (.error fault, origin.world) :=
      (World.ended_invoke ..).trans (by rw [finds])
    have second : quiet = (.error fault, origin.world) :=
      (World.ended_invoke ..).trans (by rw [finds])
    have none : lines = [] := by
      change World.callLines hooks id entry arguments origin.world = []
      rw [World.callLines, finds]
    rw [first, second, none, List.map_nil, List.append_nil]
    exact ⟨rfl, rfl, fun _ _ => rfl⟩
  | ok call =>
    obtain ⟨active, positive, found, own⟩ := sane.marked.of_look finds
    rw [active] at apart
    obtain ⟨results, globals, along⟩ :=
      World.noted_alongside is sane found positive apart keeps
    have first : disturbed = World.ended (World.answer hooks call) origin.world :=
      (World.ended_invoke ..).trans (by rw [finds])
    have second : quiet = World.ended (World.answer alone call) origin.world :=
      (World.ended_invoke ..).trans (by rw [finds])
    obtain ⟨outcome, left, -⟩ := World.ended_answer hooks call origin.world
    obtain ⟨result, stays, told⟩ := World.ended_answer alone call origin.world
    have written : lines = (World.noted alone call origin.world).2.2.2 := by
      rw [← along.lines]
      change World.callLines hooks id entry arguments origin.world = _
      rw [World.callLines, finds]
    refine ⟨?_, ?_, fun version same => ?_⟩
    · rw [first, second, outcome, result, results]
    · rw [second, told, World.lines_noted, written, own]
    · obtain rfl : call.module.version = version := Option.some.inj (active.symm.trans same)
      rw [first, second, left, stays, Engine.globalsOf_withGlobals _ along.first,
        Engine.globalsOf_withGlobals _ along.second, globals]

/-- If all scripts are in Lag, operations leave the shared things as they are. -/
theorem World.Leads.shared_eq {origin : Loading κ} {spared : Option Nat} {world after : World κ}
    (leads : World.Leads .plain origin spared world after) (sane : origin.IsSane .plain)
    (knows : origin.world.engine.Knows spared) (met : origin.Meets .plain world) :
    after.engine.shared = world.engine.shared := by
  obtain ⟨starting, past, steps⟩ := met
  obtain ⟨seen, others⟩ := leads.loads sane knows starting past steps
  have first : world.engine.shared = [] := (sane.steps steps).allowed
  have last : after.engine.shared = [] := (sane.steps (steps.trans others.free)).allowed
  exact last.trans first.symm

/-- A script that counts its calls. -/
def callCounter : Script :=
  ⟨"a", .lag, "let n = 0; fn f() -> int \x7b print(n); n = n + 1; return n; \x7d", none⟩

/-- A world with the script, whose hooks are about to act. -/
def counterWorld : World Bool :=
  [Operation.load callCounter].foldl (World.carry .none) (World.initial true)

/-- Hooks that load another script in place of the one that writes a line, and then delete it. -/
def replacer : Hooks Bool where
  afterCompile := id
  afterLine world :=
    if world.own then
      [Operation.load ⟨"a", .lag, "let n = 7;", none⟩, .delete "a"].foldl (World.carry .none)
        { world with own := false }
    else world
  language := .none

/-- The script goes on counting while it is replaced and deleted. -/
theorem calls_isolated_replaced :
    (World.initial true).engine = { limit := 20 } ∧
      (∃ past, Loading.Steps .plain none ⟨World.initial true, [], []⟩ ⟨counterWorld, [], past⟩ ∧
        ∀ now, (⟨counterWorld, [], past⟩ : Loading Bool).Meets .plain now →
          World.Leads .plain ⟨counterWorld, [], past⟩ (counterWorld.engine.active? "a") now
              (replacer.afterLine now) ∧
            (replacer.afterLine now).engine.shared = now.engine.shared) ∧
      (World.ended (World.invoke replacer "a" "f" []) counterWorld).1 =
        (World.ended (World.invoke .none "a" "f" []) counterWorld).1 ∧
      ((World.ended (World.invoke .none "a" "f" []) counterWorld).2.outbox.lines,
        (World.ended (World.invoke replacer "a" "f" []) counterWorld).2.engine.modules.map
          (·.isLoaded)) = (#[("a", "0")], #[false, false]) := by
  have fresh : (World.initial true).engine = { limit := 20 } := rfl
  have begins : Loading.IsSane .plain ⟨World.initial true, [], []⟩ := Loading.isSane_fresh fresh rfl
  have loads : World.Leads .plain ⟨World.initial true, [], []⟩ none (World.initial true)
      counterWorld :=
    World.leads_quietly (List.forall_mem_singleton.2 fun engine =>
      World.spares_none engine (.load callCounter)) (World.initial true)
  obtain ⟨past, steps⟩ := loads.loads begins (Engine.knows_none _) [] [] .refl
  have apart (now : World Bool) : World.Leads .plain ⟨counterWorld, [], past⟩
      (counterWorld.engine.active? "a") now (replacer.afterLine now) := by
    unfold replacer
    dsimp only
    split
    · have disarmed : World.Leads .plain ⟨counterWorld, [], past⟩
          (counterWorld.engine.active? "a") now { now with own := false } := .aside ⟨rfl, rfl, rfl⟩
      refine disarmed.trans (World.leads_quietly ?_ _)
      exact List.forall_mem_cons.2 ⟨fun _ => trivial, List.forall_mem_singleton.2 fun _ => trivial⟩
    · exact .aside (.refl now)
  have sane : Loading.IsSane .plain ⟨counterWorld, [], past⟩ := begins.steps steps
  have keeps (now : World Bool) (met : (⟨counterWorld, [], past⟩ : Loading Bool).Meets .plain now) :
      (replacer.afterLine now).engine.shared = now.engine.shared :=
    (apart now).shared_eq sane (fun _ active => (sane.marked.owner active).version_lt) met
  have isolated := calls_isolated fresh steps rfl (fun now _ => apart now) keeps "f" []
  exact ⟨fresh, ⟨past, steps, fun now met => ⟨apart now, keeps now met⟩⟩, isolated.1,
    by decide +kernel⟩

/-- A script of the host language that sets a level, which all scripts share. -/
def levelSetter (id value : String) : Script :=
  ⟨id, .host, "import math\nmath.lag_level = " ++ value ++ "\n", none⟩

/-- A script of the host language that writes a line and gives the level. -/
def levelReader : Script :=
  ⟨"b", .host, "import logging\nimport math\ndef f():\n" ++
    "    logging.getLogger('lagscript.scripts.b').info('%s', 'x')\n    return math.lag_level\n", none⟩

/-- A world with a level and the script that gives it, whose hooks are about to act. -/
def levelWorld : World Bool :=
  [Operation.load (levelSetter "a" "1"), .load levelReader].foldl (World.carry (.none .simple))
    (World.initial true)

/-- Hooks that load a script which sets another level. -/
def levelChanger : Hooks Bool where
  afterCompile := id
  afterLine world :=
    if world.own then
      [Operation.load (levelSetter "c" "2")].foldl (World.carry (.none .simple))
        { world with own := false }
    else world
  language := .simple

/-- The integer that a call gives. -/
def givenInteger : Except Fault Value → Option Int
  | .ok (.int value) => some value
  | _ => none

/-- The script gives another level if one is set while it writes its line, although nothing happens
to its module. -/
theorem calls_disturbed_level :
    (World.initial true).engine = { limit := 20 } ∧
      (∃ past, Loading.Steps (.free .simple) none ⟨World.initial true, [], []⟩
          ⟨levelWorld, [], past⟩ ∧
        ∀ now, World.Leads (.free .simple) ⟨levelWorld, [], past⟩ (levelWorld.engine.active? "b") now
          (levelChanger.afterLine now)) ∧
      givenInteger (World.ended (World.invoke levelChanger "b" "f" []) levelWorld).1 = some 2 ∧
      givenInteger (World.ended (World.invoke (.none .simple) "b" "f" []) levelWorld).1 = some 1 := by
  have fresh : (World.initial true).engine = { limit := 20 } := rfl
  have begins : Loading.IsSane (.free .simple) ⟨World.initial true, [], []⟩ :=
    Loading.isSane_fresh fresh trivial
  have loads : World.Leads (.free .simple) ⟨World.initial true, [], []⟩ none (World.initial true)
      levelWorld :=
    World.leads_quietly (List.forall_mem_cons.2 ⟨fun engine => World.spares_none engine _,
      List.forall_mem_singleton.2 fun engine => World.spares_none engine _⟩) (World.initial true)
  obtain ⟨past, steps⟩ := loads.loads begins (Engine.knows_none _) [] [] .refl
  refine ⟨fresh, ⟨past, steps, fun now => ?_⟩, by decide +kernel, by decide +kernel⟩
  unfold levelChanger
  dsimp only
  split
  · have disarmed : World.Leads (.free .simple) ⟨levelWorld, [], past⟩
        (levelWorld.engine.active? "b") now { now with own := false } := .aside ⟨rfl, rfl, rfl⟩
    refine disarmed.trans (World.leads_quietly ?_ _)
    exact List.forall_mem_singleton.2 fun _ => trivial
  · exact .aside (.refl now)

end Lag
