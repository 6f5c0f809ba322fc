import Lag.Proofs.Soundness.Sound

/-!
# No variable is read before it has a value

The first values of the variables of a module are computed in order, and they may call functions
that are declared later, whose bodies know variables that are declared in between. So whether a
variable is read before it has a value depends on what the first values need, directly or through
the functions that they reach. In an orderly program no first value needs a variable that is
declared with it or after it, and then the first values never stop for a variable without one.
-/
namespace Lag

open Host (symbolsOf)
open Run (Limits Trouble endOf)

variable {σ : Type} {program : Program Mark}

/-- No first value needs a variable that is declared with it or after it. -/
def Program.Orderly (program : Program Mark) : Prop :=
  ∀ before binding after, program.bindings = before ++ binding :: after →
    ∀ later ∈ binding :: after, ¬Needs program binding.value.parts later.name

/-- The functions that are reached from functions in a number of steps. -/
def Program.reachedFrom (program : Program Mark) : Nat → List String → List String
  | 0, names => names
  | steps + 1, names =>
    program.reachedFrom steps (names ∪ (program.functions.filter (names.contains ·.name)).flatMap
      fun function => callsOf (Stmt.allExprs function.body))

/-- Whether the functions in a list call no others. -/
def Program.isClosed (program : Program Mark) (names : List String) : Bool :=
  program.functions.all fun function => !names.contains function.name ||
    (callsOf (Stmt.allExprs function.body)).all names.contains

/-- The variables that expressions and functions read. -/
def Program.readBy (program : Program Mark) (names : List String) (exprs : List (Expr Mark)) :
    List String :=
  readsOf exprs ++ (program.functions.filter (names.contains ·.name)).flatMap
    fun function => readsOf (Stmt.allExprs function.body)

/-- Whether no first value of some variables needs a variable that is declared with it or after
it. -/
def Program.areOrderly (program : Program Mark) : List (Binding Mark) → Bool
  | [] => true
  | binding :: after =>
    let calls := callsOf binding.value.parts
    let names := program.reachedFrom program.functions.length calls
    program.isClosed names && calls.all names.contains &&
      (binding :: after).all (fun later =>
        !(program.readBy names binding.value.parts).contains later.name) &&
      program.areOrderly after

/-- What is needed is read by the functions of a closed list that holds what is called. -/
theorem Needs.mem_readBy {exprs : List (Expr Mark)} {names : List String}
    (closed : program.isClosed names = true) (calls : (callsOf exprs).all names.contains = true)
    {name : String} (needs : Needs program exprs name) : name ∈ program.readBy names exprs := by
  rcases needs with reads | ⟨function, inside, reached, reads⟩
  · exact List.mem_append_left _ reads
  · have known : function.name ∈ names := by
      refine reached.mem (fun name called => ?_) fun other member known name called => ?_
      · simpa using List.all_eq_true.1 calls name called
      · have all := List.all_eq_true.1 closed other member
        simp only [Bool.or_eq_true, Bool.not_eq_true', List.all_eq_true] at all
        rcases all with missing | all
        · simp [known] at missing
        · simpa using all name called
    refine List.mem_append_right _ (List.mem_flatMap.2 ⟨function, ?_, reads⟩)
    exact List.mem_filter.2 ⟨inside, by simpa using known⟩

/-- A program whose first values are found to be orderly is orderly. -/
theorem Program.orderly_of_areOrderly (found : program.areOrderly program.bindings = true) :
    program.Orderly := by
  intro before binding after split
  rw [split] at found
  clear split
  induction before with
  | nil =>
    simp only [List.nil_append, areOrderly, Bool.and_eq_true] at found
    obtain ⟨⟨⟨closed, calls⟩, none⟩, _⟩ := found
    intro later member needs
    have read := needs.mem_readBy closed calls
    have missing := List.all_eq_true.1 none later member
    simp [read] at missing
  | cons first rest ih =>
    simp only [List.cons_append, areOrderly, Bool.and_eq_true] at found
    exact ih found.2

/-- In an orderly program no variable is read early. -/
theorem Program.Orderly.ordered (orderly : program.Orderly) :
    Ordered program (fun _ => False) program.bindings := by
  intro before binding after split name needs member
  obtain ⟨later, inside, rfl⟩ := List.mem_map.1 member
  exact orderly before binding after split later inside needs

/-- No variable of the module is read before it has a value. In an accepted program that is
orderly the first values, computed as the module of the host computes them, never stop for a name
without a value. The identifiers are of ASCII characters, and the search for a host name of each of
them ends. -/
theorem firsts_read_given {source : String} {file : Option String} {limit : Nat}
    (accepts : Accepts source file limit program)
    (ascii : ∀ symbol ∈ symbolsOf program, Host.IsAscii symbol.name)
    (settles : Host.Names.Settle [] (symbolsOf program)) {title : String} {lowered : Host.Module}
    (lowers : program.lower? title = some lowered) (orderly : program.Orderly)
    (record : Scoped.Recorder σ) (limits : Limits) (world : σ) {trouble : Trouble}
    (stops : ((Run.initialise lowered.link (Run.observing lowered.link record) limits).runOn
      [] world).1 = .error trouble) :
    trouble.className ∉ ["NameError", "UnboundLocalError"] := by
  have laid := accepts.laid ascii settles
  have keeps : record.Keeps program fun _ => True := fun _ _ _ _ _ => trivial
  have sound : Sound program (∃ _ : String, False) record limits [] world
      (Scoped.sessionOf program record limits [] world) :=
    (Scoped.sound_session laid limits orderly.ordered keeps (by simp) trivial).1
  have hosts := sound.of_same (Scoped.same_session laid title record limits [] world)
  rw [← link_of_lower? lowers] at hosts
  have start : (Run.sessionOf lowered.link record limits [] world).start = .error trouble := by
    unfold Run.sessionOf session
    revert stops
    generalize Run.Eval.runOn _ [] world = ended
    obtain ⟨outcome, globals, after⟩ := ended
    intro stops
    cases stops
    rfl
  have unforeseen := (hosts.start trouble start).resolve_right
    fun ⟨⟨_, impossible⟩, _⟩ => impossible
  intro member
  refine unforeseen ?_
  simp only [Run.foreseen, List.mem_cons, List.not_mem_nil, or_false] at member ⊢
  tauto

/-- A program whose first values call functions before they are declared, in both directions. -/
def foresighted : String :=
  "fn twice() -> int { return once() * 2; } let base = 3; let sum = twice() + base; " ++
  "fn once() -> int { return base; }"

/-- The first values of the foresighted program never stop for a name without a value. -/
theorem firsts_read_given_foresighted : ∃ program lowered,
    Accepts foresighted none 1 program ∧
      (∀ symbol ∈ symbolsOf program, Host.IsAscii symbol.name) ∧
      Host.Names.Settle [] (symbolsOf program) ∧ program.lower? "demo" = some lowered ∧
      program.Orderly ∧
      ∀ trouble, ((Run.initialise lowered.link (Run.observing lowered.link
          fun line _ lines => line :: lines) {}).runOn [] ([] : List String)).1 = .error trouble →
        trouble.className ∉ ["NameError", "UnboundLocalError"] := by
  obtain ⟨program, accepts, holds⟩ : ∃ program, Accepts foresighted none 1 program ∧
      (decide (∀ symbol ∈ symbolsOf program, Host.IsAscii symbol.name) &&
        decide (Host.Names.Settle [] (symbolsOf program)) && (program.lower? "demo").isSome &&
        program.areOrderly program.bindings) = true :=
    exists_accepts (spelled_append rfl rfl) Nat.one_pos (by decide +kernel)
  simp only [Bool.and_eq_true, decide_eq_true_eq] at holds
  obtain ⟨⟨⟨ascii, settles⟩, some⟩, orderly⟩ := holds
  obtain ⟨lowered, lowers⟩ := Option.isSome_iff_exists.1 some
  have ordered := Program.orderly_of_areOrderly orderly
  exact ⟨program, lowered, accepts, ascii, settles, lowers, ordered,
    fun _ stops => firsts_read_given accepts ascii settles lowers ordered _ _ _ stops⟩

/-- A program whose first value calls a function that knows a later variable. -/
def hasty : String := "let a = f(); let b = 1; fn f() -> int { return b; }"

/-- The hasty program is accepted, and its first value stops for a variable without one. -/
theorem firsts_read_missing_hasty : ∃ program lowered,
    Accepts hasty none 1 program ∧ (∀ symbol ∈ symbolsOf program, Host.IsAscii symbol.name) ∧
      Host.Names.Settle [] (symbolsOf program) ∧ program.lower? "demo" = some lowered ∧
      ((Run.initialise lowered.link (fun _ globals world => (globals, world)) {}).runOn []
        ()).1 = .error (.unboundGlobal "b") := by
  obtain ⟨program, accepts, holds⟩ : ∃ program, Accepts hasty none 1 program ∧
      (decide (∀ symbol ∈ symbolsOf program, Host.IsAscii symbol.name) &&
        decide (Host.Names.Settle [] (symbolsOf program)) &&
        (program.lower? "demo").any fun lowered =>
          match ((Run.initialise lowered.link (fun _ globals world => (globals, world)) {}).runOn []
            ()).1 with
          | .error (.unboundGlobal name) => name == "b"
          | _ => false) = true :=
    exists_accepts rfl Nat.one_pos (by decide +kernel)
  simp only [Bool.and_eq_true, decide_eq_true_eq] at holds
  obtain ⟨⟨ascii, settles⟩, runs⟩ := holds
  obtain ⟨lowered, lowers, stops⟩ := (Option.any_eq_true _ _).1 runs
  refine ⟨program, lowered, accepts, ascii, settles, lowers, ?_⟩
  split at stops
  · rename_i name missing
    rw [missing, beq_iff_eq.1 stops]
  · cases stops

end Lag
