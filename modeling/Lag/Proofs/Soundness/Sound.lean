import Lag.Proofs.Soundness.Reached

/-!
# Well typed programs are sound

A session with an accepted program that is called with arguments of the declared types meets no
trouble of types: every call that returns gives a value of the type of its function, and the
variables of the module hold values of their types at every written line and at the end. While the
first values are given a variable may be read that has none yet. It is not where no first value
needs a variable that is declared at it or after it.
-/
namespace Lag

open Host (symbolsOf)
open Run (Lands Limits Store Trouble endOf)

variable {σ : Type} {program : Program Mark}

/-- A call of a function of a program with arguments of exactly the declared types. -/
def Program.Invites (program : Program Mark) (call : String × List Value) : Prop :=
  ∃ function ∈ program.functions, function.name = call.1 ∧
    call.2.map Value.type = function.params.map (·.type.type)

/-- An outcome of a call of a function of a program: a value of the declared type, or a trouble
that no check can foresee. -/
def Program.Answers (program : Program Mark) (call : String × List Value)
    (outcome : Except Trouble Value) : Prop :=
  ∃ function ∈ program.functions, function.name = call.1 ∧
    Run.Yields function.signature.result outcome

/-- What a session with a well typed program shows, and what the expressions of the program yield
while the first values are given. The first argument says whether a variable may be read early. -/
structure Sound (program : Program Mark) (early : Prop) (record : Scoped.Recorder σ)
    (limits : Limits) (calls : List (String × List Value)) (world : σ) (shown : Shown σ) :
    Prop where
  /-- The first values are given, or stop in a trouble that no check can foresee, or where a
  variable is read early. -/
  start : ∀ trouble, shown.start = .error trouble →
    trouble.Unforeseen ∨ early ∧ trouble.className = "NameError"
  /-- Calls have results of their types, or meet troubles that no check can foresee. -/
  answers : shown.start = .ok () → List.Forall₂ program.Answers calls shown.calls
  /-- Once the first values are given all variables have values. -/
  given : shown.start = .ok () → ∀ value ∈ shown.values, value.isSome = true
  /-- The variables have values of their types. -/
  typed : HaveTypes program shown.values
  /-- While the first values are given every expression that yields a value yields one of the type
  that is noted for it. -/
  yields : ∀ depth expr state value after,
    Scoped.Initially program record limits world ⟨depth, .expr expr, state⟩ →
      endOf (Scoped.evaluate (Scoped.frameAt program record limits.rounds depth) expr) state =
        (.ok value, after) →
      expr.noted? = some value.type

/-- The same outcome has a trouble of the same class. -/
theorem SameOutcome.className {α : Type} {before after : Except Trouble α}
    (same : SameOutcome program before after) {trouble : Trouble} (is : after = .error trouble) :
    ∃ other, before = .error other ∧ trouble.className = other.className := by
  cases same with
  | result _ => cases is
  | trouble same =>
    cases is
    exact ⟨_, rfl, same.className⟩

/-- The same outcome is a value of the same type, or a trouble that no check can foresee. -/
theorem SameOutcome.yields {before after : Except Trouble Value}
    (same : SameOutcome program before after) {type : Ty} (yields : Run.Yields type before) :
    Run.Yields type after := by
  cases same with
  | result _ => exact yields
  | trouble same => exact fun foreseen => yields (same.className ▸ foreseen)

/-- Calls that end alike answer alike. -/
theorem Program.Answers.of_same {calls : List (String × List Value)}
    {before after : List (Except Trouble Value)}
    (answers : List.Forall₂ program.Answers calls before)
    (same : List.Forall₂ (SameOutcome program) before after) :
    List.Forall₂ program.Answers calls after := by
  induction answers generalizing after with
  | nil =>
    cases same
    exact .nil
  | cons answer _ ih =>
    cases same with
    | cons first others =>
      obtain ⟨function, inside, named, yields⟩ := answer
      exact .cons ⟨function, inside, named, first.yields yields⟩ (ih others)

/-- A session that shows the same is sound too. -/
theorem Sound.of_same {early : Prop} {record : Scoped.Recorder σ} {limits : Limits}
    {calls : List (String × List Value)} {world : σ} {first second : Shown σ}
    (sound : Sound program early record limits calls world first)
    (same : SameShown program first second) :
    Sound program early record limits calls world second := by
  have begins (given : second.start = .ok ()) : first.start = .ok () := by
    have start := same.start
    rw [given] at start
    generalize first.start = before at start
    cases start
    rfl
  refine ⟨fun trouble is => ?_,
    fun given => Program.Answers.of_same (sound.answers (begins given)) same.calls,
    fun given => same.values ▸ sound.given (begins given), same.values ▸ sound.typed,
    sound.yields⟩
  obtain ⟨other, before, className⟩ := same.start.className is
  have allowed := sound.start other before
  rwa [Run.Trouble.Unforeseen, ← className] at allowed

/-- Values of the declared types fit parameters that hold values. -/
theorem suit_declared {params : List (Param Mark)}
    (isValue : ∀ param ∈ params, param.type.type.isValue = true) {values : List Value}
    (typed : values.map Value.type = params.map (·.type.type)) :
    SuitAll (params.map fun param => (param.name, param.type.type)) values := by
  induction params generalizing values with
  | nil =>
    obtain rfl := List.map_eq_nil_iff.1 typed
    exact .nil
  | cons param rest ih =>
    obtain ⟨value, values, rfl, is, others⟩ := List.map_eq_cons_iff.1 typed
    exact .cons ⟨is ▸ isValue _ List.mem_cons_self, .inl is⟩
      (ih (fun param member => isValue param (List.mem_cons_of_mem _ member)) others)

namespace Scoped

/-- Calls with arguments of the declared types answer, and leave the variables of the module with
values of their types. -/
theorem answers_all (laid : Laid program) {record : Recorder σ} (limits : Limits)
    {holds : σ → Prop} (keeps : record.Keeps program holds) :
    ∀ {calls : List (String × List Value)}, (∀ call ∈ calls, program.Invites call) →
      ∀ {globals : Store} {world : σ},
      Settled program (Contract.settled holds) [] (⟨globals, [], world⟩ : State σ) →
      let ended := callAll (fun name arguments =>
        (invoke program record limits name arguments).runOn) calls globals world
      List.Forall₂ program.Answers calls ended.1 ∧
        Settled program (Contract.settled holds) [] (⟨ended.2.1, [], ended.2.2⟩ : State σ)
  | [], _, _, _, settled => ⟨.nil, settled⟩
  | (name, arguments) :: rest, invited, globals, world, settled => by
    obtain ⟨function, inside, rfl, typed⟩ := invited _ List.mem_cons_self
    obtain ⟨_, _, defines⟩ := laid.typed.defines inside
    obtain ⟨_, _, takes, _, _⟩ := defines
    have suit := suit_declared takes.isValue typed
    have lands := gives_invoke laid limits keeps inside suit _ settled
    have others := fun call member => invited call (List.mem_cons_of_mem _ member)
    unfold callAll Eval.runOn
    revert lands
    generalize endOf _ _ = ending
    rintro (⟨is, after⟩ | fault)
    · obtain ⟨others, left⟩ := answers_all laid limits keeps others ⟨after.steady.scopes [], rfl⟩
      exact ⟨.cons ⟨function, inside, rfl, is⟩ others, left⟩
    · obtain ⟨others, left⟩ := answers_all laid limits keeps others ⟨fault.steady.scopes [], rfl⟩
      have unforeseen := fault.allowed.resolve_right fun ⟨_, impossible, _⟩ => impossible
      exact ⟨.cons ⟨function, inside, rfl, unforeseen⟩ others, left⟩

/-- A session with calls of functions with arguments of the declared types is sound. -/
theorem sound_session (laid : Laid program) {record : Recorder σ} (limits : Limits)
    {early : String → Prop} (ordered : Ordered program early program.bindings) {holds : σ → Prop}
    (keeps : record.Keeps program holds) {calls : List (String × List Value)}
    (invited : ∀ call ∈ calls, program.Invites call) {world : σ} (before : holds world) :
    Sound program (∃ name, early name) record limits calls world
        (sessionOf program record limits calls world) ∧
      holds (sessionOf program record limits calls world).world := by
  have yields := fun depth expr state value after =>
    @Initially.yields σ program laid record holds keeps limits world before depth expr state after
      value
  have lands := gives_initialise laid limits keeps ordered _ (settled_start laid early before)
  unfold sessionOf session
  have parts : (initialise program record limits).runOn [] world =
      ((endOf (initialise program record limits) ⟨[], [], world⟩).1,
        (endOf (initialise program record limits) ⟨[], [], world⟩).2.globals,
        (endOf (initialise program record limits) ⟨[], [], world⟩).2.world) := rfl
  rw [parts]
  revert lands
  generalize endOf (initialise program record limits) _ = ending
  rintro (settled | fault)
  · obtain ⟨answers, after⟩ := answers_all laid limits keeps invited
      (⟨settled.steady.scopes [], rfl⟩ : Settled program _ [] ⟨_, [], _⟩)
    refine ⟨⟨fun _ impossible => (nomatch impossible), fun _ => answers,
      fun _ value member => ?_, after.steady.haveTypes laid, yields⟩, after.steady.world⟩
    obtain ⟨binding, inside, rfl⟩ := List.mem_map.1 member
    obtain ⟨type, _, known⟩ := laid.noted inside
    by_contra missing
    exact after.steady.given _ known (Option.not_isSome_iff_eq_none.1 missing)
  · refine ⟨⟨fun trouble is => ?_, fun impossible => (nomatch impossible),
      fun impossible => (nomatch impossible), fault.steady.haveTypes laid, yields⟩, fault.steady.world⟩
    cases is
    rcases fault.allowed with unforeseen | ⟨name, may, rfl⟩
    · exact .inl unforeseen
    · exact .inr ⟨⟨name, may⟩, rfl⟩

end Scoped

/-- What a program is lowered to, as it runs. -/
theorem link_of_lower? {title : String} {lowered : Host.Module}
    (lowers : program.lower? title = some lowered) : lowered.link = hostModule title program := by
  rw [Program.eq_lowerAs lowers]
  rfl

/-- Types are sound. In a session with an accepted program, run as the module of the host that it
is lowered to, whose functions are called with arguments of exactly the declared types, no trouble
is one of types or of a local variable without a value; a call that returns gives a value of the
declared type, which is nothing exactly for a function without a result; and the variables of the
module hold values of their types, at every written line, whatever is taken down there, and at the
end. While the first values are given every expression that yields a value yields one of its type;
the expressions are looked at as they are evaluated by the names of the source, which shows the
same as the module of the host. The identifiers are of ASCII characters, and the search for a host
name of each of them ends. -/
theorem types_sound {source : String} {file : Option String} {limit : Nat}
    (accepts : Accepts source file limit program)
    (ascii : ∀ symbol ∈ symbolsOf program, Host.IsAscii symbol.name)
    (settles : Host.Names.Settle [] (symbolsOf program)) {title : String} {lowered : Host.Module}
    (lowers : program.lower? title = some lowered) {record : Scoped.Recorder σ} (limits : Limits)
    {holds : σ → Prop} (keeps : record.Keeps program holds)
    {calls : List (String × List Value)} (invited : ∀ call ∈ calls, program.Invites call)
    {world : σ} (before : holds world) :
    Sound program True record limits calls world
        (Run.sessionOf lowered.link record limits calls world) ∧
      holds (Run.sessionOf lowered.link record limits calls world).world ∧
      SameShown program (Scoped.sessionOf program record limits calls world)
        (Run.sessionOf lowered.link record limits calls world) := by
  have laid := accepts.laid ascii settles
  have ordered : Ordered program (fun _ => True) program.bindings := fun _ _ _ _ _ _ _ => trivial
  obtain ⟨sound, after⟩ := Scoped.sound_session laid limits ordered keeps invited before
  have same := Scoped.same_session laid title record limits calls world
  have early : Sound program True record limits calls world
      (Scoped.sessionOf program record limits calls world) :=
    ⟨fun trouble is => (sound.start trouble is).imp_right fun given => ⟨trivial, given.2⟩,
      sound.answers, sound.given, sound.typed, sound.yields⟩
  rw [link_of_lower? lowers]
  exact ⟨early.of_same same, same.world ▸ after, same⟩

/-- A program that converts integers where floats stand, changes a variable of the module, and has
a function that calls itself and one without a result. -/
def summing : String :=
  "let total: float = 1; fn add(n: int) { total = total + n; print(total); } " ++
  "fn sum(n: int) -> float { if n < 1 { return total; } else { add(n); return sum(n - 1); } }"

/-- A session with the summing program meets no trouble of types. -/
theorem types_sound_summing : ∃ program lowered,
    Accepts summing none 1 program ∧
      (∀ symbol ∈ symbolsOf program, Host.IsAscii symbol.name) ∧
      Host.Names.Settle [] (symbolsOf program) ∧ program.lower? "demo" = some lowered ∧
      program.Invites ("sum", [.int 3]) ∧
      Sound program True (fun line _ lines => line :: lines) {} [("sum", [.int 3])]
        ([] : List String)
        (Run.sessionOf lowered.link (fun line _ lines => line :: lines) {} [("sum", [.int 3])]
          []) := by
  obtain ⟨program, accepts, holds⟩ : ∃ program, Accepts summing none 1 program ∧
      (decide (∀ symbol ∈ symbolsOf program, Host.IsAscii symbol.name) &&
        decide (Host.Names.Settle [] (symbolsOf program)) && (program.lower? "demo").isSome &&
        program.functions.any fun function => function.name == "sum" &&
          [Value.int 3].map Value.type == function.params.map (·.type.type)) = true :=
    exists_accepts (spelled_append rfl rfl) Nat.one_pos (by decide +kernel)
  simp only [Bool.and_eq_true, decide_eq_true_eq, List.any_eq_true, beq_iff_eq] at holds
  obtain ⟨⟨⟨ascii, settles⟩, some⟩, function, inside, named, params⟩ := holds
  obtain ⟨lowered, lowers⟩ := Option.isSome_iff_exists.1 some
  have invites : program.Invites ("sum", [.int 3]) := ⟨function, inside, named, params⟩
  have keeps : Scoped.Recorder.Keeps (fun line _ (lines : List String) => line :: lines) program
      fun _ => True := fun _ _ _ _ _ => trivial
  have invited : ∀ call ∈ [("sum", [Value.int 3])], program.Invites call :=
    fun call member => List.mem_singleton.1 member ▸ invites
  exact ⟨program, lowered, accepts, ascii, settles, lowers, invites,
    (types_sound accepts ascii settles lowers {} keeps invited trivial).1⟩

/-- A program with two variables of one function whose names have one compatibility form. -/
def confusing : String := "fn f(a: int) -> int \x7b let ª = \"x\"; return a; \x7d"

/-- Whether a session has one call, which is answered with a text. -/
def answersText : Shown Unit → Bool
  | ⟨.ok (), [.ok (.string _)], _, _⟩ => true
  | _ => false

/-- Names beyond ASCII may be confused: the confusing program is accepted by the check and by the
host, and its function, which has an integer as its result, returns a text. -/
theorem types_sound_confusing : ∃ program lowered,
    Accepts confusing none 1 program ∧ Host.Names.Settle [] (symbolsOf program) ∧
      program.lower? "demo" = some lowered ∧ lowered.refused? = none ∧
      program.Invites ("f", [.int 1]) ∧
      ¬Sound program True (fun _ _ world => world) {} [("f", [.int 1])] ()
        (Run.sessionOf lowered.link (fun _ _ world => world) {} [("f", [.int 1])] ()) := by
  obtain ⟨program, accepts, holds⟩ : ∃ program, Accepts confusing none 1 program ∧
      (decide (Host.Names.Settle [] (symbolsOf program)) &&
        (program.functions.any fun function => function.name == "f" &&
          [Value.int 1].map Value.type == function.params.map (·.type.type)) &&
        (program.functions.all fun function => function.signature.result == .int) &&
        (program.lower? "demo").any fun lowered => lowered.refused?.isNone &&
          answersText (Run.sessionOf lowered.link (fun _ _ world => world) {}
            [("f", [.int 1])] ())) = true :=
    exists_accepts rfl Nat.one_pos (by decide +kernel)
  simp only [Bool.and_eq_true, decide_eq_true_eq, List.any_eq_true, List.all_eq_true,
    beq_iff_eq] at holds
  obtain ⟨⟨⟨settles, function, inside, named, params⟩, results⟩, runs⟩ := holds
  obtain ⟨lowered, lowers, ends⟩ := (Option.any_eq_true _ _).1 runs
  obtain ⟨accepted, ends⟩ := Bool.and_eq_true_iff.1 ends
  refine ⟨program, lowered, accepts, settles, lowers,
    Option.isNone_iff_eq_none.1 accepted, ⟨function, inside, named, params⟩, fun sound => ?_⟩
  revert ends sound
  generalize Run.sessionOf lowered.link _ {} _ () = shown
  intro ends sound
  unfold answersText at ends
  split at ends
  · cases sound.answers rfl with
    | cons answer _ =>
      obtain ⟨other, member, _, is⟩ := answer
      rw [results other member] at is
      cases is
  · cases ends

end Lag
