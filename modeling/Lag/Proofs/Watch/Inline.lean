import Lag.Proofs.Watch.Registered
import Lag.Proofs.World.Verdict
import Lag.Proofs.World.Within

/-!
# Checks that nobody disturbs

With hooks that leave the engine, the watch and the files alone, and reloads that do not wait, a check
of a script without a reload reads its file at most once, and asks the engine at most once. What it
can do is said here. It is a function of what the world holds of the identifier of the script: of the
script to check, its record, the stored script, the active module, and whether it was deleted.
-/
namespace Lag

/-- Hooks that leave the engine, the watch and the files alone. -/
structure Hooks.Still {κ : Type} (hooks : Hooks κ) : Prop extends hooks.Quiet where
  /-- Nothing happens to the watch and the files after a module was compiled. -/
  compileBeside : ∀ world, World.Beside world (hooks.afterCompile world)
  /-- Nothing happens to the watch and the files after a script wrote a line. -/
  lineBeside : ∀ world, World.Beside world (hooks.afterLine world)

/-- Hooks that do nothing are still. -/
theorem Hooks.still_none {κ : Type} (language : HostLanguage) :
    (Hooks.none language : Hooks κ).Still :=
  ⟨Hooks.quiet_none language, fun _ => ⟨rfl, rfl⟩, fun _ => ⟨rfl, rfl⟩⟩

/-- With still hooks the engine works beside the watch and the files. -/
theorem Hooks.Still.spans {κ : Type} {hooks : Hooks κ} (still : hooks.Still) :
    World.Spans hooks World.Beside where
  beside := id
  compile := still.compileBeside
  line := still.lineBeside
  trans begins goes := ⟨goes.watch.trans begins.watch, goes.files.trans begins.files⟩

namespace World

variable {κ α β : Type} {hooks : Hooks κ} {world : World κ}

/-- An operation ends with an outcome, an engine and a watch, and leaves the files alone. -/
def Goes (act : Act κ α) (world : World κ) (ending : Except Fault α × Engine × Watch) : Prop :=
  ∃ outbox own,
    ended act world = (ending.1, ⟨ending.2.1, world.files, ending.2.2, outbox, own⟩)

namespace Goes

/-- A result. -/
theorem pure (result : α) :
    Goes (Pure.pure result : Act κ α) world (.ok result, world.engine, world.watch) :=
  ⟨_, _, rfl⟩

/-- An operation that leaves the engine alone. -/
theorem of_shows {act : Act κ α} {ending : Except Fault α × Watch} (shows : Shows act world ending) :
    Goes act world (ending.1, world.engine, ending.2) := by
  obtain ⟨outbox, shows⟩ := shows
  exact ⟨outbox, world.own, shows⟩

/-- An operation goes on from where its first step ends. -/
theorem bind {act : Act κ α} {next : α → Act κ β} {result : α} {engine : Engine} {watch : Watch}
    {ending : Except Fault β × Engine × Watch} (first : Goes act world (.ok result, engine, watch))
    (goes : ∀ outbox own, Goes (next result) ⟨engine, world.files, watch, outbox, own⟩ ending) :
    Goes (act >>= next) world ending := by
  obtain ⟨outbox, own, first⟩ := first
  obtain ⟨last, left, goes⟩ := goes outbox own
  exact ⟨last, left, by rw [ended_bind, first]; exact goes⟩

/-- An operation ends if its first step fails. -/
theorem bind_error {act : Act κ α} {next : α → Act κ β} {fault : Fault} {engine : Engine}
    {watch : Watch} (first : Goes act world (.error fault, engine, watch)) :
    Goes (act >>= next) world (.error fault, engine, watch) := by
  obtain ⟨outbox, own, first⟩ := first
  exact ⟨outbox, own, by rw [ended_bind, first]⟩

/-- A script is reloaded as the engine says. -/
theorem reload (still : hooks.Still) (script : Script) :
    Goes (outcomeOf (World.reload hooks script)) world
      (.ok (world.engine.perform hooks.language true script).1,
        (world.engine.perform hooks.language true script).2,
        world.watch) := by
  have ends : Ends (World.reload hooks script) world _ := Ends.reload still.toQuiet script
  have beside : Beside world (ended (World.reload hooks script) world).2 :=
    (Within.reload still.spans script).ends world
  obtain ⟨gives, leaves⟩ := ends
  obtain ⟨watch, files⟩ := beside
  rw [← gives, ← leaves, ← watch]
  refine ⟨(ended (World.reload hooks script) world).2.outbox,
    (ended (World.reload hooks script) world).2.own, ?_⟩
  unfold outcomeOf
  rw [ended_tryCatch, ended_map, ← files]
  cases ended (World.reload hooks script) world with
  | mk outcome after => cases outcome <;> rfl

end Goes

end World

/-! ## One reload -/

/-- The result of a reload, by the answer of the engine. -/
def World.CheckResult.ofAnswer (id : String) :
    Except Fault (Option Nat) → Except Fault World.CheckResult
  | .error fault =>
    if fault.isScriptFault then .ok ⟨id, .failed, none, some fault⟩ else .error fault
  | .ok none => .ok ⟨id, .discarded, none, none⟩
  | .ok (some version) => .ok ⟨id, .reloaded, some version, none⟩

/-- The script to check after a reload: the text that was read takes the place of the one before if
its module became active. -/
def Script.after (script next : Script) : Except Fault (Option Nat) → Script
  | .ok (some _) => next
  | _ => script

/-- The watch after the reload of a script. -/
def Watch.reworked (id : String) (place : Nat) (change : WatchRecord → WatchRecord) (script : Script)
    (watch : Watch) : Watch :=
  (((watch.tell place change).withScript id script).withSlot id ⟨true, false⟩).withSlot id
    ⟨false, false⟩

/-- A script that is to be checked stays so after an answer of the engine, perhaps with another
text. -/
theorem Watch.told_withScript (watch : Watch) (id : String) (place : Nat) (script next : Script)
    (answer : Except Fault (Option Nat)) :
    (watch.withScript id script).told id place next answer =
      (watch.tell place (·.answered answer)).withScript id (script.after next answer) := by
  have same : watch.tell place (fun record => record) = watch := by
    unfold Watch.tell
    rw [modify_same]
  match answer with
  | .error fault =>
    unfold Watch.told WatchRecord.answered
    dsimp only
    split
    · rfl
    · rw [same]
      rfl
  | .ok none => exact congrArg (Watch.withScript id script) same.symm
  | .ok (some version) =>
    have there : (Table.put id script watch.scripts).has id = true := by
      rw [Table.has, Table.find?_put]
      rfl
    unfold Watch.told
    dsimp only
    rw [if_pos (show ((watch.withScript id script).tell place _).scripts.has id = true from there)]
    unfold Watch.withScript Watch.tell
    dsimp only
    rw [Table.put_put]
    rfl

/-- What the watch makes of an answer of the engine. -/
theorem Watch.conclude_eq (id : String) (place : Nat) (script : Script)
    (answer : Except Fault (Option Nat)) (watch : Watch) :
    watch.conclude id place script answer = (World.CheckResult.ofAnswer id answer,
      if isOutside answer then (watch.told id place script answer).withSlot id ⟨false, false⟩
      else watch.told id place script answer) := by
  match answer with
  | .error fault =>
    by_cases ours : fault.isScriptFault = true
    · simp [Watch.conclude, Watch.told, World.CheckResult.ofAnswer, isOutside, ours]
    · simp [Watch.conclude, Watch.told, World.CheckResult.ofAnswer, isOutside, ours]
  | .ok none => rfl
  | .ok (some version) => rfl

/-- A result ends the reloads of a script, unless a fault outside the script has done so. -/
theorem World.CheckResult.ofAnswer_cases (id : String) (answer : Except Fault (Option Nat)) :
    (isOutside answer = true ∧ ∃ fault, CheckResult.ofAnswer id answer = .error fault) ∨
      (isOutside answer = false ∧
        ∃ result, CheckResult.ofAnswer id answer = .ok result ∧ result.id = id) := by
  match answer with
  | .error fault =>
    by_cases ours : fault.isScriptFault = true
    · exact .inr ⟨by simp [isOutside, ours], _, if_pos ours, rfl⟩
    · exact .inl ⟨by simp [isOutside, ours], _, if_neg ours⟩
  | .ok none => exact .inr ⟨rfl, _, rfl, rfl⟩
  | .ok (some version) => exact .inr ⟨rfl, _, rfl, rfl⟩

/-- A check that finds a file changed, and fails to read it, leaves the script reworked. -/
theorem Watch.tell_reworked (id : String) (place : Nat) (observe fail : WatchRecord → WatchRecord)
    (script : Script) (watch : Watch) :
    ((((watch.tell place observe).withScript id script).withSlot id ⟨true, false⟩).tell place
        fail).withSlot id ⟨false, false⟩ =
      watch.reworked id place (fun record => fail (observe record)) script := by
  unfold Watch.reworked Watch.tell Watch.withScript Watch.withSlot
  dsimp only
  rw [modify_modify]

/-- A check that finds a file changed, and takes over an answer of the engine, leaves the script
reworked. -/
theorem Watch.told_reworked (id : String) (place : Nat) (observe see : WatchRecord → WatchRecord)
    (script next : Script) (answer : Except Fault (Option Nat)) (watch : Watch) :
    (((((watch.tell place observe).withScript id script).withSlot id ⟨true, false⟩).tell place
        see).told id place next answer).withSlot id ⟨false, false⟩ =
      watch.reworked id place (fun record => (see (observe record)).answered answer)
        (script.after next answer) := by
  have told := Watch.told_withScript
    (((watch.tell place observe).withSlot id ⟨true, false⟩).tell place see) id place script next
    answer
  refine (congrArg (Watch.withSlot id ⟨false, false⟩) told).trans ?_
  unfold Watch.reworked Watch.tell Watch.withScript Watch.withSlot
  dsimp only
  rw [modify_modify, modify_modify]

/-- A reload that is not under way starts at once, unless reloads wait. -/
theorem Watch.claim_idle {watch : Watch} {id : String} {place : Nat}
    (inline : watch.deferred = false) (idle : watch.slot id = ⟨false, false⟩) :
    watch.claim id place = (none, watch.withSlot id ⟨true, false⟩) := by
  unfold Watch.claim
  rw [idle, inline]
  rfl

namespace World

variable {κ : Type} {hooks : Hooks κ} {world : World κ}

/-- A reload that is not due again is over. -/
theorem Goes.settle {id : String} (once : (world.watch.slot id).again = false)
    (result : CheckResult) :
    Goes (World.settle id result) world
      (.ok (some result), world.engine, world.watch.withSlot id ⟨false, false⟩) := by
  have settles := Goes.of_shows (Shows.settle id result : Shows _ world _)
  unfold Watch.settle at settles
  rw [if_neg (by rw [once]; exact Bool.false_ne_true)] at settles
  exact settles

/-- A script is reloaded once, and its file can be read. -/
theorem Goes.reloadOnce (still : hooks.Still) {id : String} {place : Nat} {script : Script}
    {record : WatchRecord} {time : Int} {code : String}
    (scripted : world.watch.scripts.find? id = some script)
    (recorded : world.watch.records[place]? = some record)
    (once : (world.watch.slot id).again = false)
    (reading : world.files.reading id record.path = .ok (time, code)) :
    Goes (World.reloadOnce hooks id place) world
      ((CheckResult.ofAnswer id
          (world.engine.perform hooks.language true (script.withSource script.language code)).1).map some,
        (world.engine.perform hooks.language true (script.withSource script.language code)).2,
        ((world.watch.tell place (·.seen time)).told id place
          (script.withSource script.language code)
          (world.engine.perform hooks.language true (script.withSource script.language code)).1).withSlot id
            ⟨false, false⟩) := by
  have attempts := Goes.of_shows (Shows.attempt id place : Shows _ world _)
  rw [Watch.attempt_read scripted recorded reading] at attempts
  refine attempts.bind fun outbox own => ?_
  refine (Goes.reload still _).bind fun later left => ?_
  dsimp only
  generalize world.engine.perform hooks.language true (script.withSource script.language code) = ending
  obtain ⟨answer, engine⟩ := ending
  have concludes := Goes.of_shows (Shows.conclude id place (script.withSource script.language code)
    answer : Shows _ ⟨engine, world.files, world.watch.tell place (·.seen time), later, left⟩ _)
  rw [Watch.conclude_eq] at concludes
  rcases CheckResult.ofAnswer_cases id answer with
    ⟨outside, fault, is⟩ | ⟨inside, result, is, -⟩
  · rw [is, if_pos outside] at concludes
    rw [is]
    exact concludes.bind_error
  · rw [is, if_neg (by rw [inside]; exact Bool.false_ne_true)] at concludes
    rw [is]
    refine concludes.bind fun last rest => ?_
    refine Goes.settle ?_ result
    -- An answer writes to no slot.
    have same : ((world.watch.tell place (·.seen time)).told id place
        (script.withSource script.language code) answer).slots = world.watch.slots := by
      match answer with
      | .error fault => unfold Watch.told; dsimp only; split <;> rfl
      | .ok none => rfl
      | .ok (some version) => unfold Watch.told; dsimp only; split <;> rfl
    rw [← once]
    unfold Watch.slot
    dsimp only
    rw [same]

/-- A script is to be reloaded, and its file cannot be read. -/
theorem Goes.reloadOnce_unread {id : String} {place : Nat} {script : Script}
    {record : WatchRecord} {fault : Fault}
    (scripted : world.watch.scripts.find? id = some script)
    (recorded : world.watch.records[place]? = some record)
    (once : (world.watch.slot id).again = false)
    (reading : world.files.reading id record.path = .error fault) :
    Goes (World.reloadOnce hooks id place) world
      (.ok (some ⟨id, .failed, none, some fault⟩), world.engine,
        (world.watch.tell place (·.failed fault)).withSlot id ⟨false, false⟩) := by
  have attempts := Goes.of_shows (Shows.attempt id place : Shows _ world _)
  rw [Watch.attempt_unread scripted recorded reading] at attempts
  refine attempts.bind fun outbox own => Goes.settle ?_ _
  exact once

/-- Reloads are over after one that is not due again. -/
theorem Goes.runReloads {id : String} {place : Nat} {outcome : Except Fault CheckResult}
    {engine : Engine} {watch : Watch}
    (once : Goes (World.reloadOnce hooks id place) world (outcome.map some, engine, watch))
    (bound : Nat) :
    Goes (World.runReloads hooks id place (bound + 1)) world (outcome, engine, watch) := by
  cases outcome with
  | error fault => exact once.bind_error
  | ok result => exact once.bind fun outbox own => Goes.pure result

/-- A script whose file has changed is reloaded at once. -/
theorem Goes.noticed {script : Script} {place : Nat} {middle : Watch}
    {outcome : Except Fault CheckResult} {engine : Engine} {watch : Watch}
    (notices : Goes (notice script) world (.ok (.ok place), world.engine, middle))
    (inline : middle.deferred = false) (idle : middle.slot script.id = ⟨false, false⟩)
    (once : ∀ outbox own, Goes (World.reloadOnce hooks script.id place)
      ⟨world.engine, world.files, middle.withSlot script.id ⟨true, false⟩, outbox, own⟩
      (outcome.map some, engine, watch))
    (bound : Nat) : Goes (check hooks (bound + 1) script) world (outcome, engine, watch) := by
  refine notices.bind fun outbox own => ?_
  have claims := Goes.of_shows (Shows.claim script.id place :
    Shows _ ⟨world.engine, world.files, middle, outbox, own⟩ _)
  rw [Watch.claim_idle inline idle] at claims
  exact claims.bind fun later left => Goes.runReloads (once later left) bound

end World

/-! ## What a check can do -/

/-- What a check of a script without a reload can do, if reloads do not wait. -/
inductive Checked (language : HostLanguage) (files : Files) (script : Script) (engine : Engine)
    (watch : Watch) :
    Except Fault World.CheckResult × Engine × Watch → Prop where
  /-- The script is not watched. -/
  | unwatched (missing : watch.record? script.id = none) :
    Checked language files script engine watch (.ok ⟨script.id, .notWatched, none, none⟩, engine, watch)
  /-- The file was not found. -/
  | lost {record : WatchRecord} {fault : Fault} (recorded : watch.record? script.id = some record)
    (found : files.timeOf script.id record.path = .error fault) :
    Checked language files script engine watch (.error fault, engine, watch)
  /-- The file has not changed. -/
  | unchanged {record : WatchRecord} {time : Int}
    (recorded : watch.record? script.id = some record)
    (found : files.timeOf script.id record.path = .ok time) (earlier : time ≤ record.time) :
    Checked language files script engine watch (.ok ⟨script.id, .unchanged, none, none⟩, engine, watch)
  /-- The file has changed, and cannot be read. -/
  | unread {place : Nat} {record : WatchRecord} {time : Int} {fault : Fault}
    (inForce : watch.watched.find? script.id = some place)
    (recorded : watch.records[place]? = some record)
    (found : files.timeOf script.id record.path = .ok time) (later : ¬ time ≤ record.time)
    (reading : files.reading script.id record.path = .error fault) :
    Checked language files script engine watch (.ok ⟨script.id, .failed, none, some fault⟩, engine,
      watch.reworked script.id place (fun record => (record.observed time).failed fault) script)
  /-- The file has changed, and the engine has reloaded the script or failed to. -/
  | read {place : Nat} {record : WatchRecord} {time last : Int} {code : String}
    (inForce : watch.watched.find? script.id = some place)
    (recorded : watch.records[place]? = some record)
    (found : files.timeOf script.id record.path = .ok time) (later : ¬ time ≤ record.time)
    (reading : files.reading script.id record.path = .ok (last, code))
    {answer : Except Fault (Option Nat)} {left : Engine}
    (performs : engine.perform language true (script.withSource script.language code) = (answer, left)) :
    Checked language files script engine watch (World.CheckResult.ofAnswer script.id answer, left,
      watch.reworked script.id place
        (fun record => ((record.observed time).seen last).answered answer)
        (script.after (script.withSource script.language code) answer))

/-- Undisturbed, a check of a script without a reload does one of these things. -/
theorem World.checked {κ : Type} {hooks : Hooks κ} (still : hooks.Still) {world : World κ}
    {script : Script} (inline : world.watch.deferred = false)
    (idle : world.watch.slot script.id = ⟨false, false⟩) (bound : Nat) :
    ∃ ending, Goes (check hooks (bound + 1) script) world ending ∧
      Checked hooks.language world.files script world.engine world.watch ending := by
  have notices := Goes.of_shows (Shows.notice script : Shows _ world _)
  unfold Watch.notice at notices
  cases inForce : world.watch.watched.find? script.id with
  | none =>
    rw [inForce] at notices
    refine ⟨_, notices.bind fun outbox own => Goes.pure _, .unwatched ?_⟩
    rw [Watch.record?, inForce]
    rfl
  | some place =>
    rw [inForce] at notices
    dsimp only at notices
    have looks : world.watch.record? script.id = world.watch.records[place]? := by
      rw [Watch.record?, inForce]
      rfl
    cases recorded : world.watch.records[place]? with
    | none =>
      rw [recorded] at notices
      exact ⟨_, notices.bind fun outbox own => Goes.pure _, .unwatched (looks.trans recorded)⟩
    | some record =>
      rw [recorded] at notices
      dsimp only at notices
      cases found : world.files.timeOf script.id record.path with
      | error fault =>
        rw [found] at notices
        exact ⟨_, notices.bind_error, .lost (looks.trans recorded) found⟩
      | ok time =>
        rw [found] at notices
        dsimp only at notices
        by_cases earlier : time ≤ record.time
        · rw [if_pos earlier] at notices
          exact ⟨_, notices.bind fun outbox own => Goes.pure _,
            .unchanged (looks.trans recorded) found earlier⟩
        · rw [if_neg earlier] at notices
          dsimp only at notices
          have scripted : (Table.put script.id script world.watch.scripts).find? script.id =
              some script := Table.find?_put ..
          have observed : (world.watch.records.modify place (·.observed time))[place]? =
              some (record.observed time) := by
            rw [Array.getElem?_modify, if_pos rfl, recorded]
            rfl
          have once : (((world.watch.tell place (·.observed time)).withScript script.id
              script).withSlot script.id ⟨true, false⟩).slot script.id = ⟨true, false⟩ :=
            Watch.slot_withSlot ..
          cases reading : world.files.reading script.id record.path with
          | error fault =>
            refine ⟨_, Goes.noticed notices inline idle (fun outbox own => ?_) bound,
              .unread inForce recorded found earlier reading⟩
            rw [← Watch.tell_reworked]
            exact Goes.reloadOnce_unread scripted observed (congrArg Slot.again once) reading
          | ok change =>
            obtain ⟨last, code⟩ := change
            refine ⟨_, Goes.noticed notices inline idle (fun outbox own => ?_) bound,
              .read inForce recorded found earlier reading rfl⟩
            rw [← Watch.told_reworked]
            exact Goes.reloadOnce still scripted observed (congrArg Slot.again once) reading

/-- The result of a check that is one of many, by how it ends: a file that is missing is a failed
check. -/
def World.CheckResult.ofOutcome (id : String) :
    Except Fault World.CheckResult → Except Fault World.CheckResult
  | .error (.missingFile other path) =>
    .ok ⟨id, .failed, none, some (.missingFile other path)⟩
  | outcome => outcome

namespace World

variable {κ : Type} {hooks : Hooks κ} {world : World κ}

/-- Check a script as one of many. -/
def checkOne (hooks : Hooks κ) (bound : Nat) (script : Script) : Act κ CheckResult :=
  tryCatch (World.check hooks bound script) fun fault => do
    match fault with
    | .missingFile _ _ =>
      say "runtime.watcher" .warning fault.display
      return ⟨script.id, .failed, none, some fault⟩
    | _ => throw fault

/-- Scripts are checked one by one. -/
theorem checkScripts_cons (bound : Nat) (script : Script) (rest : List Script) :
    checkScripts hooks bound (script :: rest) = checkOne hooks bound script >>= fun result =>
      checkScripts hooks bound rest >>= fun others => pure (result :: others) := rfl

/-- One of many checks does what the check does alone. -/
theorem Goes.checkOne {bound : Nat} {script : Script} {outcome : Except Fault CheckResult}
    {engine : Engine} {watch : Watch}
    (goes : Goes (World.check hooks bound script) world (outcome, engine, watch)) :
    Goes (World.checkOne hooks bound script) world
      (CheckResult.ofOutcome script.id outcome, engine, watch) := by
  obtain ⟨outbox, own, goes⟩ := goes
  unfold World.checkOne Goes
  rw [ended_tryCatch, goes]
  cases outcome with
  | ok result => exact ⟨_, _, rfl⟩
  | error fault => cases fault <;> exact ⟨_, _, rfl⟩

end World

/-! ## What a check comes to -/

/-- What the engine and the watch hold of an identifier. -/
structure View where
  /-- The script to check. -/
  script : Option Script
  /-- The record in force. -/
  record : Option WatchRecord
  /-- What the engine holds. -/
  part : Engine.Part

/-- What an engine and a watch hold of an identifier. -/
def Watch.view (watch : Watch) (engine : Engine) (id : String) : View :=
  ⟨watch.scripts.find? id, watch.record? id, engine.part id⟩

/-- What a world holds of an identifier. -/
def World.view {κ : Type} (world : World κ) (id : String) : View := world.watch.view world.engine id

/-- What checks find alike, whatever script they are of. -/
structure Ground where
  /-- The host language. -/
  language : HostLanguage
  /-- The files. -/
  files : Files
  /-- The greatest number of failures of a check. -/
  limit : Nat
  /-- The things that scripts share. -/
  shared : Run.Store

/-- What a reload of a script comes to. -/
def Ground.verdict (ground : Ground) (isDeleted : Bool) (script : Script) : Verdict :=
  script.verdict ground.language ground.limit isDeleted ground.shared

/-- What checks find alike in a world. -/
def World.ground {κ : Type} (language : HostLanguage) (world : World κ) : Ground :=
  ⟨language, world.files, world.engine.limit, world.engine.shared⟩

namespace View

/-- What the reload of a script comes to whose file has changed, if its module gets a version. -/
def reload (ground : Ground) (version : Nat) (script : Script) (record : WatchRecord)
    (part : Engine.Part) : Except Fault World.CheckResult × View :=
  match ground.files.reading script.id record.path with
  | .error fault =>
    (.ok ⟨script.id, .failed, none, some fault⟩, ⟨some script, some (record.failed fault), part⟩)
  | .ok (time, code) =>
    let next := script.withSource script.language code
    let verdict := ground.verdict part.isDeleted next
    let answer := verdict.outcome script.id version
    (World.CheckResult.ofAnswer script.id answer,
      ⟨some (script.after next answer), some ((record.seen time).answered answer),
        verdict.part next version part⟩)

/-- What the check of a script comes to, if a module that it builds gets a version. -/
def check (ground : Ground) (version : Nat) (script : Script) (view : View) :
    Except Fault World.CheckResult × View :=
  match view.record with
  | none => (.ok ⟨script.id, .notWatched, none, none⟩, view)
  | some record =>
    match ground.files.timeOf script.id record.path with
    | .error fault => (.error fault, view)
    | .ok time =>
      if time ≤ record.time then (.ok ⟨script.id, .unchanged, none, none⟩, view)
      else reload ground version script (record.observed time) view.part

/-- A check of a script whose file has changed is a reload. -/
theorem check_of_later {ground : Ground} {script : Script} {record : WatchRecord} {time : Int}
    {view : View} (recorded : view.record = some record)
    (found : ground.files.timeOf script.id record.path = .ok time) (later : ¬ time ≤ record.time)
    (version : Nat) :
    view.check ground version script =
      reload ground version script (record.observed time) view.part := by
  rw [check, recorded]
  dsimp only
  rw [found]
  exact if_neg later

end View

/-- A change that was observed is one of the same file. -/
@[simp] theorem WatchRecord.path_observed (record : WatchRecord) (time : Int) :
    (record.observed time).path = record.path := rfl

namespace Watch

variable {watch : Watch} {id : String} {place : Nat} {change : WatchRecord → WatchRecord}
  {script : Script}

/-- The record of the script that is reworked. -/
theorem record?_reworked {record : WatchRecord} (inForce : watch.watched.find? id = some place)
    (recorded : watch.records[place]? = some record) :
    (watch.reworked id place change script).record? id = some (change record) := by
  change (watch.watched.find? id).bind (fun spot => (watch.records.modify place change)[spot]?) = _
  rw [inForce, Option.bind_some, Array.getElem?_modify, if_pos rfl, recorded]
  rfl

/-- The records of other scripts stay. -/
theorem record?_reworked_ne {other : String}
    (apart : ∀ spot, watch.watched.find? other = some spot → spot ≠ place) :
    (watch.reworked id place change script).record? other = watch.record? other := by
  change (watch.watched.find? other).bind
    (fun spot => (watch.records.modify place change)[spot]?) = _
  unfold record?
  cases found : watch.watched.find? other with
  | none => rfl
  | some spot =>
    rw [Option.bind_some, Option.bind_some, Array.getElem?_modify, if_neg (apart spot found).symm]

end Watch

namespace Checked

variable {language : HostLanguage} {files : Files} {script : Script} {engine : Engine}
  {watch : Watch} {ending : Except Fault World.CheckResult × Engine × Watch}

/-- A check comes to what the engine and the watch hold of its script. -/
theorem view (checked : Checked language files script engine watch ending)
    (sane : engine.IsSane language) (valid : script.isValid = true) :
    (ending.1, ending.2.2.view ending.2.1 script.id) =
      (watch.view engine script.id).check ⟨language, files, engine.limit, engine.shared⟩
        engine.nextVersion script := by
  let ground : Ground := ⟨language, files, engine.limit, engine.shared⟩
  have inForce? {place : Nat} {record : WatchRecord}
      (inForce : watch.watched.find? script.id = some place)
      (recorded : watch.records[place]? = some record) : watch.record? script.id = some record := by
    rw [Watch.record?, inForce, Option.bind_some, recorded]
  have scripted {place : Nat} {change : WatchRecord → WatchRecord} (next : Script) :
      (watch.reworked script.id place change next).scripts.find? script.id = some next :=
    Table.find?_put ..
  cases checked with
  | unwatched missing =>
    rw [View.check, Watch.view, missing]
  | lost recorded found =>
    rw [View.check, Watch.view, recorded]
    dsimp only
    rw [found]
  | unchanged recorded found earlier =>
    rw [View.check, Watch.view, recorded]
    dsimp only
    rw [found]
    dsimp only
    rw [if_pos earlier]
  | unread inForce recorded found later reading =>
    have found : ground.files.timeOf script.id _ = .ok _ := found
    have reading : ground.files.reading script.id _ = _ := reading
    rw [View.check_of_later (inForce? inForce recorded) found later, View.reload,
      WatchRecord.path_observed, reading, Watch.view, Watch.record?_reworked inForce recorded,
      scripted]
    rfl
  | @read place record time last code inForce recorded found later reading answer left performs =>
    have known : (script.withSource script.language code).isValid = true := valid
    obtain ⟨rfl, rfl⟩ := Engine.of_performs sane known performs
    have found : ground.files.timeOf script.id _ = .ok _ := found
    have reading : ground.files.reading script.id _ = _ := reading
    rw [View.check_of_later (inForce? inForce recorded) found later, View.reload,
      WatchRecord.path_observed, reading, Watch.view, Watch.record?_reworked inForce recorded,
      scripted]
    dsimp only
    congr 2
    exact Verdict.part_leave sane _

/-- A check changes nothing that the engine and the watch hold of other identifiers. -/
theorem view_ne (checked : Checked language files script engine watch ending)
    (sane : engine.IsSane language) (valid : script.isValid = true) {other : String}
    (different : other ≠ script.id)
    (apart : watch.watched.find? other = watch.watched.find? script.id →
      watch.watched.find? other = none) :
    ending.2.2.view ending.2.1 other = watch.view engine other := by
  have scripted {place : Nat} {change : WatchRecord → WatchRecord} (next : Script) :
      (watch.reworked script.id place change next).scripts.find? other =
        watch.scripts.find? other := Table.find?_put_ne _ _ different
  have recorded? {place : Nat} {change : WatchRecord → WatchRecord} {next : Script}
      (inForce : watch.watched.find? script.id = some place) :
      (watch.reworked script.id place change next).record? other = watch.record? other := by
    refine Watch.record?_reworked_ne fun spot found => ?_
    rintro rfl
    have gone := apart (found.trans inForce.symm)
    rw [found] at gone
    cases gone
  cases checked with
  | unwatched | lost | unchanged => rfl
  | unread inForce => rw [Watch.view, Watch.view, scripted, recorded? inForce]
  | @read place record time last code inForce recorded found later reading answer left performs =>
    have known : (script.withSource script.language code).isValid = true := valid
    obtain ⟨rfl, rfl⟩ := Engine.of_performs sane known performs
    rw [Watch.view, Watch.view, scripted, recorded? inForce]
    congr 1
    exact Verdict.part_leave_ne sane _ different

end Checked

end Lag
