import Lag.Proofs.World.Current
import Lag.Proofs.World.Undisturbed

/-!
# A load is a fresh start

What the calls of a script come to after it was loaded or reloaded depends on its text alone: not on
what ran under its identifier before, not on reloads that failed since, and not on other
identifiers. A run of requests and a short run, which only loads the script and makes the same
calls, have active modules with the same program and the same variables at any time.
-/
namespace Lag

variable {κ : Type}

/-! ## Calls of a module -/

/-- A port at which lines are noted, with the shared things. -/
def telling : Run.Port (List String × Run.Store) where
  write line globals world := (globals, world.1 ++ [line], world.2)
  shared world := world.2
  share things world := (world.1, things)

/-- What a call comes to: its outcome, the variables after it, its lines, and the shared things. -/
abbrev Coming := Except Fault Value × Run.Store × List String × Run.Store

/-- What the call of a function of a module comes to, with the shared things. -/
def Module.calls (language : HostLanguage) (id entry : String) (arguments : List Value)
    (shared : Run.Store) (module : Module) : Coming :=
  match module.content.find? module.globals entry with
  | none =>
    (.error (.noEntry id entry (World.sortTexts (module.content.exports module.globals))),
      module.globals, [], shared)
  | some function =>
    let ending :=
      language.serve module.content (.call function arguments) telling module.globals ([], shared)
    (ending.1.mapError fun accident => .ofAccident accident (.script id entry accident), ending.2)

/-- Modules that hold the same, with the same variables. -/
structure Module.Mirrors (module other : Module) : Prop where
  /-- They hold the same. -/
  content : other.content = module.content
  /-- The variables are the same. -/
  globals : other.globals = module.globals

/-- What a call comes to is decided by what the module holds, its variables and the shared things. -/
theorem Module.Mirrors.calls {module other : Module} (mirrors : module.Mirrors other)
    (language : HostLanguage) (id entry : String) (arguments : List Value) (shared : Run.Store) :
    other.calls language id entry arguments shared =
      module.calls language id entry arguments shared := by
  unfold Module.calls
  rw [mirrors.content, mirrors.globals]

/-! ## Requests -/

/-- A request to an engine. -/
inductive Request where
  /-- Load a script, or reload it. -/
  | load (again : Bool) (script : Script)
  /-- Forget a script. -/
  | delete (id : String)
  /-- Call a function of a script. -/
  | invoke (id entry : String) (arguments : List Value)

/-- The operation that is requested. -/
def Request.operation : Request → Operation
  | .load true script => .reload script
  | .load false script => .load script
  | .delete id => .delete id
  | .invoke id entry arguments => .invoke id entry arguments

/-- Whether a request is a call of a script. -/
def Request.isCall (id : String) : Request → Bool
  | .invoke other _ _ => other == id
  | _ => false

/-- What a call came to. -/
structure Invocation where
  /-- The value or the fault. -/
  outcome : Except Fault Value
  /-- The lines that were written, with their identifiers. -/
  lines : List (String × String)
  /-- The variables of the active module afterwards, if there is one. -/
  globals : Option Run.Store

namespace World

/-- Load a script, or reload it: the version, if it became active. -/
def renew (language : HostLanguage) (again : Bool) (script : Script) : Act κ (Option Nat) :=
  if again then reload (.none language) script else load (.none language) script

/-- Meet a request. -/
def serve (language : HostLanguage) (world : World κ) (request : Request) : World κ :=
  carry (.none language) world request.operation

/-- What a call of a script in a world comes to. -/
def invocation (language : HostLanguage) (id entry : String) (arguments : List Value)
    (world : World κ) : Invocation :=
  let ending := ended (invoke (.none language) id entry arguments) world
  ⟨ending.1, ending.2.outbox.lines.toList.drop world.outbox.lines.size,
    (ending.2.engine.current id).map (·.globals)⟩

/-- What the calls of a script come to in a run of requests. -/
def invocations (language : HostLanguage) (id : String) :
    List Request → World κ → List Invocation
  | [], _ => []
  | .invoke other entry arguments :: rest, world =>
    let later := invocations language id rest (world.serve language (.invoke other entry arguments))
    if other = id then world.invocation language id entry arguments :: later else later
  | request :: rest, world => invocations language id rest (world.serve language request)

/-- A request neither puts another module in the place of the active one of an identifier nor
forgets its script. Unless it is a call of the script, it leaves the shared things as they are. -/
def Spares (language : HostLanguage) (id : String) (world : World κ) : Request → Prop
  | .load again script =>
    (script.id = id → ∀ version,
      (ended (renew language again script) world).1 ≠ .ok (some version)) ∧
      (world.serve language (.load again script)).engine.shared = world.engine.shared
  | .delete other => other ≠ id
  | .invoke other entry arguments =>
    other = id ∨
      (world.serve language (.invoke other entry arguments)).engine.shared = world.engine.shared

/-- No request of a run puts another module in the place of the active one of an identifier or
forgets its script, and none but calls of the script changes the shared things. -/
def SpareAll (language : HostLanguage) (id : String) : List Request → World κ → Prop
  | [], _ => True
  | request :: rest, world =>
    Spares language id world request ∧ SpareAll language id rest (world.serve language request)

/-! ## What requests do -/

variable {world other : World κ} {id : String}

/-- The result of an operation is forgotten. -/
theorem ended_discard {α : Type} (act : Act κ α) (world : World κ) :
    (ended (Operation.act.discard act) world).2 = (ended act world).2 := by
  change (ended ((fun _ => ()) <$> act) world).2 = _
  rw [ended_map]
  cases ended act world with
  | mk outcome after => cases outcome <;> rfl

/-- A load or a reload ends as the engine says. -/
theorem ends_renew (language : HostLanguage) (again : Bool) (script : Script) :
    Ends (renew language again script) world (world.engine.perform language again script) := by
  cases again with
  | true => exact .reload (Hooks.quiet_none language) script
  | false => exact .load (Hooks.quiet_none language) script

/-- A load or a reload is served. -/
theorem serve_load (language : HostLanguage) (again : Bool) (script : Script) (world : World κ) :
    world.serve language (.load again script) = (ended (renew language again script) world).2 := by
  cases again with
  | true => exact ended_discard _ world
  | false => exact ended_discard _ world

/-- The engine after a load or a reload. -/
theorem engine_load (language : HostLanguage) (again : Bool) (script : Script) (world : World κ) :
    (world.serve language (.load again script)).engine =
      (world.engine.perform language again script).2 := by
  rw [serve_load]
  exact (ends_renew language again script).leaves

/-- The engine after a script was forgotten. -/
theorem engine_delete (language : HostLanguage) (id : String) (world : World κ) :
    (world.serve language (.delete id)).engine = (world.engine.delete id).2 := by
  have ends : Ends (delete id : Act κ Bool) world _ := .delete id
  change (ended (Operation.act.discard (delete id)) world).2.engine = _
  rw [ended_discard]
  exact ends.leaves

/-- A call is served. -/
theorem serve_invoke (language : HostLanguage) (id entry : String) (arguments : List Value)
    (world : World κ) :
    world.serve language (.invoke id entry arguments) =
      (ended (invoke (.none language) id entry arguments) world).2 :=
  ended_discard _ world

/-- A call without hooks gives what its module gives, writes its lines, and changes nothing in the
engine but the variables of the module and the shared things. -/
theorem noted_none (language : HostLanguage) {call : Call}
    (there : (world.engine.module? call.module.version).isSome) :
    let version := call.module.version
    let noted := noted (.none language) call world
    let ending := part language call telling (world.engine.globalsOf version)
      ([], world.engine.shared)
    noted.1 = ending.1 ∧ noted.2.1 = ending.2.1 ∧ noted.2.2.2 = ending.2.2.1 ∧
      ∀ globals, noted.2.2.1.engine.withGlobals version globals =
        world.engine.settle version globals ending.2.2.2 := by
  let version := call.module.version
  let related (after : World κ × List String) (told : List String × Run.Store) : Prop :=
    after.2 = told.1 ∧ (after.1.engine.module? version).isSome ∧
      after.1.engine.shared = told.2 ∧ ∀ globals things,
        after.1.engine.settle version globals things = world.engine.settle version globals things
  have begins : related (world, []) ([], world.engine.shared) :=
    ⟨rfl, there, rfl, fun _ _ => rfl⟩
  have ports : Run.Ports (fun _ => True) related (port (.none language) call.module).noting
      telling := by
    refine ⟨?_, fun given => given.2.2.1, fun _ => trivial, ?_⟩
    · rintro line globals ⟨after, lines⟩ ⟨_, _⟩ ⟨rfl, found, rfl, same⟩
      refine ⟨Engine.globalsOf_withGlobals globals found, rfl, ?_, rfl, fun others things => ?_⟩
      · exact ((Engine.keeps_withGlobals globals).isSome version).trans found
      · change ((after.engine.withGlobals version globals).withGlobals version others).share
          things = _
        rw [Engine.withGlobals_withGlobals]
        exact same others things
    · rintro things ⟨after, lines⟩ ⟨_, _⟩ - ⟨rfl, found, -, same⟩
      exact ⟨rfl, found, rfl, same⟩
  obtain ⟨outcome, globals, lines, -, shared, same⟩ := language.agree (language.holds_true _)
    (.call call.function call.arguments) ports (world.engine.globalsOf version) begins
  refine ⟨outcome, globals, lines, fun others => ?_⟩
  exact (same others _).trans (congrArg (world.engine.settle version others) shared)

/-- What a call that finds its function leaves behind. -/
theorem engine_answer (language : HostLanguage) {call : Call}
    (there : (world.engine.module? call.module.version).isSome) :
    let ending := part language call telling (world.engine.globalsOf call.module.version)
      ([], world.engine.shared)
    (ended (answer (.none language) call) world).2.engine =
      world.engine.settle call.module.version ending.2.1 ending.2.2.2 := by
  obtain ⟨-, left, -⟩ := ended_answer (.none language) call world
  obtain ⟨-, leaves, -, same⟩ := noted_none language there
  rw [left, same, leaves]

/-- A call changes nothing in the engine but the variables of the active module and the shared
things. -/
theorem engine_invoke (language : HostLanguage) (marked : world.engine.IsMarked) (entry : String)
    (arguments : List Value) :
    (world.serve language (.invoke id entry arguments)).engine = world.engine ∨
      ∃ module globals shared, world.engine.current id = some module ∧
        (world.serve language (.invoke id entry arguments)).engine =
          world.engine.settle module.version globals shared := by
  rw [serve_invoke, ended_invoke]
  cases finds : world.engine.look id entry arguments with
  | error fault => exact .inl rfl
  | ok call =>
    obtain ⟨active, -, found, -⟩ := marked.of_look finds
    have current : world.engine.current id = some call.module :=
      Option.bind_eq_some_iff.2 ⟨_, active, found⟩
    have there : (world.engine.module? call.module.version).isSome :=
      Option.isSome_of_eq_some found
    exact .inr ⟨call.module, _, _, current, engine_answer language there⟩

/-- A call of the active module comes to what the module gives, and changes its variables and the
shared things. -/
theorem invoke_current (language : HostLanguage) (marked : world.engine.IsMarked) {module : Module}
    (current : world.engine.current id = some module) (entry : String) (arguments : List Value) :
    let ending := ended (invoke (.none language) id entry arguments) world
    let calls := module.calls language id entry arguments world.engine.shared
    ending.1 = calls.1 ∧
      ending.2.outbox.lines.toList =
        world.outbox.lines.toList ++ calls.2.2.1.map (fun line => (id, line)) ∧
      ending.2.engine.current id = some { module with globals := calls.2.1 } ∧
      ending.2.engine.shared = calls.2.2.2 := by
  obtain ⟨active, positive, found, owner⟩ := Engine.exists_of_current marked current
  dsimp only
  unfold Module.calls
  cases exported : module.content.find? module.globals entry with
  | none =>
    have looks : world.engine.look id entry arguments =
        .error (.noEntry id entry (sortTexts (module.content.exports module.globals))) := by
      rw [Engine.look_eq, current]
      dsimp only
      rw [exported]
    rw [ended_invoke, looks, List.map_nil, List.append_nil]
    exact ⟨rfl, rfl, current, rfl⟩
  | some function =>
    let call : Call := ⟨id, entry, module, function, arguments⟩
    have looks : world.engine.look id entry arguments = .ok call := by
      rw [Engine.look_eq, current]
      dsimp only
      rw [exported]
    have there : (world.engine.module? call.module.version).isSome :=
      Option.isSome_of_eq_some found
    have globals : world.engine.globalsOf module.version = module.globals := by
      rw [Engine.globalsOf, found]
      rfl
    obtain ⟨outcome, -, told⟩ := ended_answer (.none language) call world
    obtain ⟨gives, -, writes, -⟩ := noted_none language there
    have lines := lines_noted language call world
    have leaves := engine_answer language there
    have starts : part language call telling (world.engine.globalsOf call.module.version)
        ([], world.engine.shared) = language.serve module.content (.call function arguments) telling
          module.globals ([], world.engine.shared) := by
      rw [← globals]
      rfl
    rw [starts] at gives writes leaves
    rw [ended_invoke, looks]
    dsimp only
    refine ⟨?_, ?_, ?_, ?_⟩
    · rw [outcome, gives]
    · have is : call.module.id = id := owner
      rw [told, lines, writes, is]
    · rw [leaves]
      exact Engine.current_withGlobals marked current _
    · rw [leaves]
      rfl

/-- What a call of the active module comes to. -/
theorem invocation_eq (language : HostLanguage) (marked : world.engine.IsMarked) {module : Module}
    (current : world.engine.current id = some module) (entry : String) (arguments : List Value) :
    world.invocation language id entry arguments =
      let calls := module.calls language id entry arguments world.engine.shared
      ⟨calls.1, calls.2.2.1.map (fun line => (id, line)), some calls.2.1⟩ := by
  obtain ⟨outcome, lines, left, -⟩ := invoke_current language marked current entry arguments
  unfold invocation
  dsimp only
  rw [outcome, lines, left, Array.size_eq_length_toList, List.drop_left]
  rfl

/-- The module is still there after a call of it, and the shared things are as the call leaves
them. -/
theorem current_invoke (language : HostLanguage) (marked : world.engine.IsMarked) {module : Module}
    (current : world.engine.current id = some module) (entry : String) (arguments : List Value) :
    let calls := module.calls language id entry arguments world.engine.shared
    let after := world.serve language (.invoke id entry arguments)
    after.engine.current id = some { module with globals := calls.2.1 } ∧
      after.engine.shared = calls.2.2.2 := by
  dsimp only
  rw [serve_invoke]
  exact (invoke_current language marked current entry arguments).2.2

/-- The active module of an identifier stays, unless it is called, replaced or forgotten, and so do
the shared things. -/
theorem current_serve (language : HostLanguage) (marked : world.engine.IsMarked) (named : id ≠ "")
    {request : Request} (spares : Spares language id world request)
    (apart : request.isCall id = false) :
    (world.serve language request).engine.current id = world.engine.current id ∧
      (world.serve language request).engine.shared = world.engine.shared := by
  cases request with
  | load again script =>
    obtain ⟨fails, keeps⟩ := spares
    refine ⟨?_, keeps⟩
    have performs := Engine.performs language marked again script
    rw [engine_load]
    by_cases same : script.id = id
    · subst same
      have valid : script.isValid = true := by simpa [Script.isValid] using named
      refine performs.current_failed marked valid fun version works => ?_
      exact fails rfl version ((ends_renew language again script).gives.trans works)
    · exact performs.current_ne marked (Ne.symm same)
  | delete other =>
    rw [engine_delete]
    exact ⟨Engine.current_delete_ne marked (Ne.symm spares), Engine.shared_delete world.engine other⟩
  | invoke other entry arguments =>
    have different : other ≠ id := by simpa [Request.isCall] using apart
    refine ⟨?_, spares.resolve_left different⟩
    rcases engine_invoke language marked entry arguments with
      same | ⟨module, globals, shared, current, leaves⟩
    · rw [same]
    · obtain ⟨-, positive, found, owner⟩ := Engine.exists_of_current marked current
      rw [leaves]
      refine Engine.current_withGlobals_ne marked positive (fun active => ?_) globals
      obtain ⟨-, mine, there, own⟩ := marked.owner active
      rw [found] at there
      exact different (owner.symm.trans (Option.some.inj there ▸ own))

/-- The limit stays the same. -/
theorem limit_serve (language : HostLanguage) (marked : world.engine.IsMarked) (request : Request) :
    (world.serve language request).engine.limit = world.engine.limit := by
  cases request with
  | load again script =>
    rw [engine_load]
    exact (Engine.performs language marked again script).limit
  | delete other =>
    rw [engine_delete]
    exact Engine.limit_delete world.engine other
  | invoke other entry arguments =>
    rcases engine_invoke language marked entry arguments with
      same | ⟨module, globals, shared, -, leaves⟩
    · rw [same]
    · rw [leaves]
      rfl

/-! ## Runs of requests -/

variable {setting : Setting}

/-- In a world that is met marks agree. -/
theorem marked_of_meets {origin : Loading κ} (sane : origin.IsSane setting)
    (met : origin.Meets setting world) :
    world.engine.IsMarked := by
  obtain ⟨starting, past, steps⟩ := met
  exact (sane.steps steps).marked

/-- A world that is met is so after a request. -/
theorem meets_serve {origin : Loading κ} (sane : origin.IsSane setting)
    (met : origin.Meets setting world) (request : Request) :
    origin.Meets setting (world.serve setting.language request) := by
  obtain ⟨starting, past, steps⟩ := met
  have leads : Leads setting origin none world (world.serve setting.language request) :=
    leads_quietly (List.forall_mem_singleton.2 fun engine => spares_none engine request.operation)
      world
  obtain ⟨seen, others⟩ := leads.loads sane (Engine.knows_none _) starting past steps
  exact ⟨starting, seen, steps.trans others⟩

/-- What the calls of a script come to does not depend on anything else, as long as its module is
not replaced, its script not forgotten, and the shared things left to it. -/
theorem invocations_eq {origin second : Loading κ} (sane : origin.IsSane setting)
    (healthy : second.IsSane setting) (named : id ≠ "") {requests : List Request}
    (met : origin.Meets setting world) (seen : second.Meets setting other)
    (spares : SpareAll setting.language id requests world) {module last : Module}
    (current : world.engine.current id = some module)
    (present : other.engine.current id = some last) (mirrors : module.Mirrors last)
    (shared : other.engine.shared = world.engine.shared) :
    invocations setting.language id requests world =
      invocations setting.language id (requests.filter (·.isCall id)) other := by
  induction requests generalizing world other module last with
  | nil => rfl
  | cons request rest ih =>
    obtain ⟨first, later⟩ := spares
    have marked := marked_of_meets sane met
    have goes := meets_serve sane met request
    cases called : request.isCall id with
    | false =>
      obtain ⟨stays, same⟩ := current_serve setting.language marked named first called
      have skips : invocations setting.language id (request :: rest) world =
          invocations setting.language id rest (world.serve setting.language request) := by
        cases request with
        | invoke name entry arguments =>
          have different : name ≠ id := by simpa [Request.isCall] using called
          rw [invocations, if_neg different]
        | load | delete => rfl
      rw [skips, List.filter_cons_of_neg (by rw [called]; exact Bool.false_ne_true)]
      exact ih goes seen later (stays.trans current) present mirrors (shared.trans same.symm)
    | true =>
      cases request with
      | load | delete => cases called
      | invoke name entry arguments =>
        obtain rfl : name = id := by simpa [Request.isCall] using called
        have others := marked_of_meets healthy seen
        have calls := mirrors.calls setting.language name entry arguments world.engine.shared
        obtain ⟨kept, left⟩ := current_invoke setting.language marked current entry arguments
        obtain ⟨stays, leaves⟩ := current_invoke setting.language others present entry arguments
        rw [shared, calls] at stays leaves
        rw [List.filter_cons_of_pos called, invocations, invocations, if_pos rfl, if_pos rfl,
          invocation_eq setting.language marked current,
          invocation_eq setting.language others present, shared, calls]
        exact congrArg (List.cons _) (ih goes (meets_serve healthy seen _) later kept stays
          ⟨mirrors.content, rfl⟩ (leaves.trans left.symm))

/-- A run of requests meets its last world, and keeps the limit. -/
theorem meets_requests {origin : Loading κ} (sane : origin.IsSane setting)
    (met : origin.Meets setting world) (requests : List Request) :
    origin.Meets setting (requests.foldl (serve setting.language) world) ∧
      (requests.foldl (serve setting.language) world).engine.limit = world.engine.limit := by
  induction requests generalizing world with
  | nil => exact ⟨met, rfl⟩
  | cons request rest ih =>
    obtain ⟨last, kept⟩ := ih (meets_serve sane met request)
    exact ⟨last, kept.trans (limit_serve setting.language (marked_of_meets sane met) request)⟩

end World

/-- What the calls of a script come to after it was loaded or reloaded is what they come to in a
world without modules, with the same shared things, where the script is only loaded and called. That
holds whatever was requested before, and whatever else is requested in between, as long as the
script is not deleted, no other load or reload of its identifier works, and other requests leave the
shared things alone. -/
theorem load_fresh {language : HostLanguage} {first other : World κ} {limit : Nat}
    (empty : first.engine = { limit := limit }) (before : List Request) {again : Bool}
    {script : Script} {version : Nat}
    (works : (World.ended (World.renew language again script)
      (before.foldl (World.serve language) first)).1 = .ok (some version))
    (anew : other.engine =
      { limit := limit, shared := (before.foldl (World.serve language) first).engine.shared })
    {after : List Request}
    (spares : World.SpareAll language script.id after
      ((before.foldl (World.serve language) first).serve language (.load again script))) :
    (∃ version, (World.ended (World.renew language false script) other).1 = .ok (some version)) ∧
      World.invocations language script.id after
          ((before.foldl (World.serve language) first).serve language (.load again script)) =
        World.invocations language script.id (after.filter (·.isCall script.id))
          (other.serve language (.load false script)) := by
  let setting : Setting := .free language
  have sane : Loading.IsSane setting ⟨first, [], []⟩ := Loading.isSane_fresh empty trivial
  have healthy : Loading.IsSane setting ⟨other, [], []⟩ := Loading.isSane_fresh anew trivial
  have alone : (⟨other, [], []⟩ : Loading κ).Meets setting other := ⟨[], [], .refl⟩
  obtain ⟨met, kept⟩ := World.meets_requests sane ⟨[], [], .refl⟩ before
  change Loading.Meets setting _ (before.foldl (World.serve language) first) at met
  change (before.foldl (World.serve language) first).engine.limit = _ at kept
  have marked := World.marked_of_meets sane met
  have others := World.marked_of_meets healthy alone
  have limits : (before.foldl (World.serve language) first).engine.limit = other.engine.limit := by
    rw [kept, empty, anew]
  have things : (before.foldl (World.serve language) first).engine.shared = other.engine.shared := by
    rw [anew]
  obtain ⟨draft, value, globals, shared, built, valid, firsts, current, leaves⟩ :=
    (Engine.performs language marked again script).current_renewed marked
      ((World.ends_renew language again script).gives.symm.trans works)
  rw [limits, things, ← Script.draft?_load language valid again] at built
  have loads := Engine.perform_works others built firsts
  obtain ⟨same, result, values, left, builds, -, given, present, last⟩ :=
    (Engine.performs language others false script).current_renewed others loads
  obtain rfl : same = draft := Option.some.inj (builds.symm.trans built)
  have results := given.symm.trans firsts
  obtain ⟨rfl, rfl⟩ : values = globals ∧ left = shared :=
    ⟨congrArg (·.2.1) results, congrArg (·.2.2) results⟩
  have named : script.id ≠ "" := by simpa [Script.isValid] using valid
  refine ⟨⟨_, (World.ends_renew language false script).gives.trans loads⟩, ?_⟩
  rw [← World.engine_load] at current present leaves last
  exact World.invocations_eq sane healthy named (World.meets_serve sane met _)
    (World.meets_serve healthy alone _) spares current present ⟨rfl, rfl⟩ (last.trans leaves.symm)

/-- Another script that counts its calls. -/
def recounting : Script :=
  ⟨"a", .lag, "let n = 5; fn f() -> int \x7b n = n + 1; return n; \x7d", none⟩

/-- Whether a script became active. -/
def isRenewed : Except Fault (Option Nat) → Bool
  | .ok (some _) => true
  | _ => false

/-- A script that counts is loaded and called. -/
def counted : World Unit :=
  [Request.load false callCounter, .invoke "a" "f" []].foldl (World.serve .none) (World.initial ())

/-- Two calls, and a reload that fails in between. -/
def recounted : List Request :=
  [.invoke "a" "f" [], .load true World.unready, .invoke "a" "f" []]

/-- After a reload with another text the calls count from the start. -/
theorem load_fresh_recounting :
    let reloaded := counted.serve .none (.load true recounting)
    (∃ version, (World.ended (World.renew .none true recounting) counted).1 = .ok (some version)) ∧
      counted.engine.shared = [] ∧ World.SpareAll .none "a" recounted reloaded ∧
      World.invocations .none "a" recounted reloaded =
        World.invocations .none "a" (recounted.filter (·.isCall "a"))
          ((World.initial ()).serve .none (.load false recounting)) := by
  intro reloaded
  have fresh : (World.initial ()).engine = { limit := 20 } := rfl
  have plain : Loading.IsSane .plain ⟨World.initial (), [], []⟩ := Loading.isSane_fresh fresh rfl
  -- Scripts in Lag share nothing, so nothing is ever shared here.
  have nothing (requests : List Request) :
      (requests.foldl (World.serve .none) (World.initial ())).engine.shared = [] := by
    obtain ⟨⟨starting, past, steps⟩, -⟩ := World.meets_requests plain ⟨[], [], .refl⟩ requests
    exact (plain.steps steps).allowed
  obtain ⟨renewed, failed⟩ :
      isRenewed (World.ended (World.renew .none true recounting) counted).1 = true ∧
        isRenewed (World.ended (World.renew .none true World.unready)
          (reloaded.serve .none (.invoke "a" "f" []))).1 = false := by
    decide +kernel
  have spares : World.SpareAll .none "a" recounted reloaded := by
    refine ⟨.inl rfl, ⟨fun _ version works => ?_, ?_⟩, .inl rfl, trivial⟩
    · rw [works] at failed
      cases failed
    · let begun : List Request := [.load false callCounter, .invoke "a" "f" [],
        .load true recounting, .invoke "a" "f" []]
      exact (nothing (begun ++ [.load true World.unready])).trans (nothing begun).symm
  have unshared : counted.engine.shared = [] :=
    nothing [.load false callCounter, .invoke "a" "f" []]
  have anew : (World.initial ()).engine = { limit := 20, shared := counted.engine.shared } := by
    rw [unshared]
    rfl
  cases works : (World.ended (World.renew .none true recounting) counted).1 with
  | error fault =>
    rw [works] at renewed
    cases renewed
  | ok result =>
    cases result with
    | none =>
      rw [works] at renewed
      cases renewed
    | some version =>
      have counts := load_fresh fresh [.load false callCounter, .invoke "a" "f" []] works anew spares
      exact ⟨⟨version, rfl⟩, unshared, spares, counts.2⟩

/-- A script is loaded that sets the level, and the script that gives it is called. -/
def leveled : List Request := [.load false (levelSetter "a" "7"), .invoke "b" "f" []]

/-- The script that gives the level gives another one than by itself if another script, which was
loaded after it, has set it. -/
theorem load_unfresh_level :
    let loaded := (World.initial ()).serve .simple (.load false levelReader)
    isRenewed (World.ended (World.renew .simple false levelReader) (World.initial ())).1 = true ∧
      (World.invocations .simple "b" leveled loaded).map (givenInteger ·.outcome) = [some 7] ∧
      (World.invocations .simple "b" (leveled.filter (·.isCall "b")) loaded).map
        (givenInteger ·.outcome) = [none] := by
  decide +kernel

end Lag
