import Lag.Proofs.Typing.Added

/-!
# Checks with two limits

A check with a low limit and one with a high limit do the same until the low limit is reached. From
there on the first one passes over statements and declarations that the second one still checks, so
the tables of the two may differ. But the first one uses its table only for what it has begun while
the two were alike, and so everything that it still finds is found by the second one, too.
-/
namespace Lag.Check

variable {α β γ : Type}

/-! ## Journals with two limits -/

/-- The failures of a journal come before those that are added. -/
theorem Journal.toList_add (journal : Journal) (added : Array Failure) :
    (journal.add added).failures.toList = journal.failures.toList ++ added.toList :=
  Array.toList_append

/-- A journal that is not full after an addition was not full before. -/
theorem Journal.free_of_add {journal : Journal} {added : Array Failure}
    (free : (journal.add added).full = false) : journal.full = false := by
  rw [full_eq_false_iff] at free ⊢
  have size : (journal.add added).failures.size = journal.failures.size + added.size :=
    Array.size_append
  have below : (journal.add added).failures.size < journal.limit := free
  omega

/-- What is added after a limit is reached changes nothing up to that limit. -/
theorem Journal.take_add {journal : Journal} {limit : Nat} (added : Array Failure)
    (reached : limit ≤ journal.failures.size) :
    (journal.add added).failures.toList.take limit = journal.failures.toList.take limit := by
  rw [Journal.toList_add]
  exact List.take_append_of_le_length reached

/-- Two journals, the first of which has the lower limit: below that limit they agree, and the first
one has only failures that the second one has. -/
structure Trails (few many : Journal) : Prop where
  /-- The first limit is the lower one. -/
  limits : few.limit ≤ many.limit
  /-- Until the first journal is full they have the same failures. -/
  same : few.full = false → few.failures = many.failures
  /-- Up to the lower limit they have the same failures. -/
  front : few.failures.toList.take few.limit = many.failures.toList.take few.limit
  /-- The failures of the first journal are among those of the second one, in order. -/
  inside : few.failures.toList.Sublist many.failures.toList

namespace Trails

variable {few many : Journal}

/-- A journal agrees with itself. -/
theorem refl (journal : Journal) : Trails journal journal :=
  ⟨Nat.le_refl _, fun _ => rfl, rfl, List.Sublist.refl _⟩

/-- Until the first journal is full the second one is not full, either. -/
theorem free (trails : Trails few many) (free : few.full = false) : many.full = false := by
  rw [full_eq_false_iff] at free ⊢
  rw [← trails.same (full_eq_false_iff.2 free)]
  exact Nat.lt_of_lt_of_le free trails.limits

/-- When the first journal is full, the second one has reached the lower limit, too. -/
theorem reached (trails : Trails few many) (full : few.full = true) :
    few.limit ≤ many.failures.size :=
  Nat.le_trans (full_eq_true_iff.1 full) trails.inside.length_le

/-- The same failures are added to both journals. -/
theorem add (trails : Trails few many) (added : Array Failure) :
    Trails (few.add added) (many.add added) := by
  have same : few.full = false → (few.add added).failures = (many.add added).failures := by
    intro free
    rw [Journal.add, Journal.add, trails.same free]
  refine ⟨trails.limits, fun free => same (Journal.free_of_add free), ?_, ?_⟩
  · show (few.add added).failures.toList.take few.limit = _
    cases full : few.full with
    | false =>
      rw [same full]
      rfl
    | true =>
      rw [Journal.take_add added (full_eq_true_iff.1 full), trails.front]
      exact (Journal.take_add added (trails.reached full)).symm
  · rw [Journal.toList_add, Journal.toList_add]
    exact trails.inside.append (List.Sublist.refl _)

/-- When the first journal is full, failures may be added to the second one. -/
theorem goOn (trails : Trails few many) (full : few.full = true) (added : Array Failure) :
    Trails few (many.add added) := by
  refine ⟨trails.limits, fun free => ?_, ?_, ?_⟩
  · rw [full] at free
    cases free
  · rw [trails.front, Journal.take_add added (trails.reached full)]
  · rw [Journal.toList_add]
    exact trails.inside.trans (List.sublist_append_left _ _)

end Trails

/-! ## Checks with two limits -/

/-- Two checks that are run from two journals: both give a result and only add failures, they keep
to the order of the journals, and they give the same result unless the first journal gets full. -/
def Tracks (few many : Journal) (check other : Checker α) : Prop :=
  ∃ short long fewer more, check.run few = (some short, few.add fewer) ∧
    other.run many = (some long, many.add more) ∧ Trails (few.add fewer) (many.add more) ∧
    ((few.add fewer).full = false → short = long)

/-- Two checks that are run with a low and a high limit, from journals with which they agree in some
respect until the first journal is full. -/
def Accords (agree : Prop) (check other : Checker α) : Prop :=
  ∀ few many : Journal, Trails few many → (few.full = false → agree) → Tracks few many check other

/-- Two checks that give results go on from there, each in its way. -/
theorem Tracks.bind {few many : Journal} {check other : Checker α} {next otherNext : α → Checker β}
    {short long : α} {fewer more : Array Failure}
    (runs : check.run few = (some short, few.add fewer))
    (otherRuns : other.run many = (some long, many.add more))
    (rest : Tracks (few.add fewer) (many.add more) (next short) (otherNext long)) :
    Tracks few many (check >>= next) (other >>= otherNext) := by
  obtain ⟨shortAfter, longAfter, fewerAfter, moreAfter, runsOn, otherRunsOn, after, same⟩ := rest
  rw [Journal.add_add] at runsOn otherRunsOn
  rw [Journal.add_add, Journal.add_add] at after
  rw [Journal.add_add] at same
  refine ⟨shortAfter, longAfter, fewer ++ fewerAfter, more ++ moreAfter, ?_, ?_, after, same⟩
  · rw [run_bind, runs]
    exact runsOn
  · rw [run_bind, otherRuns]
    exact otherRunsOn

/-- A check that gives a result. -/
def Ends (check : Checker α) : Prop :=
  ∀ journal, ∃ result added, check.run journal = (some result, journal.add added)

/-- A check that adds nothing to a full journal. -/
def Passes (check : Checker α) : Prop :=
  ∀ journal : Journal, journal.full = true → ∃ result, check.run journal = (some result, journal)

namespace Passes

/-- A result adds nothing. -/
theorem pure {result : α} : Passes (Pure.pure result) := fun _ _ => ⟨result, rfl⟩

/-- Two checks one after the other add nothing if neither does. -/
theorem bind {check : Checker α} {next : α → Checker β} (first : Passes check)
    (rest : ∀ found, Passes (next found)) : Passes (check >>= next) := by
  intro journal full
  obtain ⟨found, runs⟩ := first journal full
  obtain ⟨result, runsOn⟩ := rest found journal full
  exact ⟨result, by rw [run_bind, runs]; exact runsOn⟩

/-- What is passed over when the journal is full adds nothing. -/
theorem unlessFull {passed rest : Checker α} (skips : Passes passed) :
    Passes (Check.full >>= fun passes => if passes then passed else rest) := by
  intro journal full
  obtain ⟨result, runs⟩ := skips journal full
  refine ⟨result, ?_⟩
  rw [run_unlessFull, full]
  exact runs

/-- A statement adds nothing to a full journal. -/
theorem statement {steps : Nat} {passed : α} {rest : Depth → Checker α} :
    Passes (descend steps none >>= fun inner =>
      Check.full >>= fun passes => if passes then Pure.pure passed else rest inner) := by
  rw [descend, pure_bind]
  exact unlessFull pure

end Passes

namespace Accords

variable {agree : Prop} {check other : Checker α} {next otherNext : α → Checker β}

/-- Journals that agree in more agree in less. -/
theorem weaken {more : Prop} (accords : Accords agree check other) (implies : more → agree) :
    Accords more check other :=
  fun few many trails agrees => accords few many trails fun free => implies (agrees free)

/-- A check that is run with two limits gives a result. -/
theorem ends (accords : Accords True check check) : Ends check := by
  intro journal
  obtain ⟨result, -, added, -, runs, -⟩ := accords journal journal (.refl journal) fun _ => trivial
  exact ⟨result, added, runs⟩

/-- Results add nothing. -/
theorem pure {short long : α} (same : agree → short = long) :
    Accords agree (Pure.pure short) (Pure.pure long) := by
  intro few many trails agrees
  refine ⟨short, long, #[], #[], ?_, ?_, trails.add #[], fun free => ?_⟩
  · rw [Journal.add_empty]
    rfl
  · rw [Journal.add_empty]
    rfl
  · exact same (agrees (Journal.free_of_add free))

/-- Checks one after the other. The second ones may use that the first ones gave the same, as long
as the first journal is not full. -/
theorem bind (first : Accords agree check other)
    (rest : ∀ short long, Accords (agree ∧ short = long) (next short) (otherNext long)) :
    Accords agree (check >>= next) (other >>= otherNext) := by
  intro few many trails agrees
  obtain ⟨short, long, fewer, more, runs, otherRuns, between, same⟩ :=
    first few many trails agrees
  exact .bind runs otherRuns <| rest short long _ _ between fun free =>
    ⟨agrees (Journal.free_of_add free), same free⟩

/-- What is first adds the same to every journal and gives the same. -/
theorem after {most : Nat} (first : Adds false most check)
    (rest : ∀ found, Accords agree (next found) (otherNext found)) :
    Accords agree (check >>= next) (check >>= otherNext) := by
  obtain ⟨result, added, ends, -, runs⟩ := first
  obtain ⟨found, rfl⟩ := Option.isSome_iff_exists.1 (ends rfl)
  intro few many trails agrees
  exact .bind (runs few) (runs many) <| rest found _ _ (trails.add added) fun free =>
    agrees (Journal.free_of_add free)

/-- Of two branches the same one is taken. -/
theorem branch {condition : Prop} [Decidable condition] {elseCheck elseOther : Checker α}
    (taken : Accords agree check other) (passed : Accords agree elseCheck elseOther) :
    Accords agree (if condition then check else elseCheck)
      (if condition then other else elseOther) := by
  split
  · exact taken
  · exact passed

/-- When the first journal is full and nothing is added to it, the second check may do anything. -/
theorem tracks_of_full {few many : Journal} (trails : Trails few many) (full : few.full = true)
    (passes : Passes check)
    (ends : ∃ long more, other.run many = (some long, many.add more)) :
    Tracks few many check other := by
  obtain ⟨short, runs⟩ := passes few full
  obtain ⟨long, more, otherRuns⟩ := ends
  refine ⟨short, long, #[], more, ?_, otherRuns, ?_, fun free => ?_⟩
  · rw [Journal.add_empty]
    exact runs
  · rw [Journal.add_empty]
    exact trails.goOn full more
  · rw [Journal.add_empty, full] at free
    cases free

/-- Where the two checks may differ, the first journal is full, and nothing is added to it. -/
theorem apart (passes : Passes check) (ends : Ends other)
    (alike : agree → Accords True check other) : Accords agree check other := by
  intro few many trails agrees
  cases full : few.full with
  | false => exact alike (agrees full) few many trails fun _ => trivial
  | true => exact tracks_of_full trails full passes (ends many)

/-- What is passed over from the limit on. With the high limit it may be checked still. -/
theorem unlessFull {passed rest : Checker α} (skips : Passes passed)
    (goes : Accords True rest rest) :
    Accords True (Check.full >>= fun passes => if passes then passed else rest)
      (Check.full >>= fun passes => if passes then passed else rest) := by
  intro few many trails _
  unfold Tracks
  rw [run_unlessFull, run_unlessFull]
  cases full : few.full with
  | false =>
    rw [trails.free full]
    exact goes few many trails fun _ => trivial
  | true =>
    have long : ∃ result more, (if many.full then passed else rest).run many =
        (some result, many.add more) := by
      cases fullToo : many.full with
      | false => exact goes.ends many
      | true =>
        obtain ⟨result, runs⟩ := skips many fullToo
        exact ⟨result, #[], by rw [Journal.add_empty]; exact runs⟩
    exact tracks_of_full trails full skips long

/-- Without a limit on the steps going down changes nothing. -/
theorem descend {steps : Nat} {next otherNext : Depth → Checker β}
    (rest : Accords agree (next none) (otherNext none)) :
    Accords agree (Check.descend steps none >>= next) (Check.descend steps none >>= otherNext) := by
  rw [Check.descend, pure_bind, pure_bind]
  exact rest

/-- A statement is passed over from the limit on. -/
theorem statement {steps : Nat} {passed : α} {rest : Depth → Checker α}
    (goes : Accords True (rest none) (rest none)) :
    Accords True
      (Check.descend steps none >>= fun inner =>
        Check.full >>= fun passes => if passes then Pure.pure passed else rest inner)
      (Check.descend steps none >>= fun inner =>
        Check.full >>= fun passes => if passes then Pure.pure passed else rest inner) :=
  descend (unlessFull .pure goes)

end Accords

/-- Here the steps are not limited. -/
theorem unlimited : Option.isSome (none : Depth) = false := rfl

/-! ## Statements -/

/-- From the limit on a statement is passed over. -/
theorem passes_stmt (result : Ty) (table : SymbolTable) (stmt : Stmt Node) :
    Passes (Check.stmt result none table stmt) := by
  cases stmt <;> exact .statement

/-- From the limit on statements are passed over. -/
theorem passes_stmts (result : Ty) : ∀ (table : SymbolTable) (body : List (Stmt Node)),
    Passes (stmts result none table body)
  | _, [] => .pure
  | table, stmt :: rest =>
    .bind (passes_stmt result table stmt) fun found =>
      .bind (passes_stmts result found.2 rest) fun _ => .pure

mutual

/-- A statement is checked with two limits. -/
theorem accords_stmt (result : Ty) : ∀ (table : SymbolTable) (stmt : Stmt Node),
    Accords True (Check.stmt result none table stmt) (Check.stmt result none table stmt)
  | table, .declare declared =>
    .statement <| .after (adds_binding false table unlimited declared) fun _ => .pure fun _ => rfl
  | table, .assign node target value =>
    .statement <| .after (adds_assignment table unlimited node target value) fun _ =>
      .pure fun _ => rfl
  | table, .leave node value =>
    .statement <| .after (adds_leaving result table unlimited node value) fun _ =>
      .pure fun _ => rfl
  | table, .evaluate node value =>
    .statement <| .after (adds_expr table unlimited value) fun _ => .pure fun _ => rfl
  | table, .block node body => by
    refine .statement (.descend (.bind (accords_stmts result (table.push "block") body) ?_))
    intro short long
    exact .pure fun ⟨_, same⟩ => by rw [same]
  | table, .ifThen node condition bodyNode body => by
    have tests := adds_test "if" table unlimited condition
    refine .statement (.descend (.after tests fun condition => ?_))
    refine .descend (.bind (accords_stmts result (table.push "block") body) fun short long => ?_)
    exact .pure fun ⟨_, same⟩ => by rw [same]
  | table, .ifElse node condition bodyNode body otherwise => by
    have tests := adds_test "if" table unlimited condition
    refine .statement (.descend (.after tests fun condition => ?_))
    refine .descend (.bind (accords_stmts result (table.push "block") body) fun short long => ?_)
    have others := accords_alternative result table otherwise
    refine .bind (others.weaken fun _ => trivial) fun other longOther => ?_
    exact .pure fun ⟨⟨_, same⟩, sameOther⟩ => by rw [same, sameOther]
  | table, .whileLoop node condition bodyNode body => by
    refine .statement (.after (adds_test "while" table unlimited condition) fun condition => ?_)
    refine .descend (.bind (accords_stmts result (table.push "block") body) fun short long => ?_)
    exact .pure fun ⟨_, same⟩ => by rw [same]
  | table, .forLoop node counter first last bodyNode body => by
    refine .statement (.descend (.after (adds_bound table unlimited first) fun first => ?_))
    refine .after (adds_bound table unlimited last) fun last => ?_
    refine .descend (.bind (accords_stmts result _ body) fun short long => ?_)
    exact .pure fun ⟨_, same⟩ => by rw [same]

/-- What a conditional does when its test fails is checked with two limits, always with the same
table. -/
theorem accords_alternative (result : Ty) : ∀ (table : SymbolTable) (stmt : Stmt Node),
    Accords True (alternative result none table stmt) (alternative result none table stmt)
  | table, .ifThen node condition bodyNode body => by
    unfold alternative
    have tests := adds_test "if" table unlimited condition
    refine .descend (.after tests fun condition => ?_)
    refine .descend (.bind (accords_stmts result (table.push "block") body) fun short long => ?_)
    exact .pure fun ⟨_, same⟩ => by rw [same]
  | table, .ifElse node condition bodyNode body otherwise => by
    unfold alternative
    have tests := adds_test "if" table unlimited condition
    refine .descend (.after tests fun condition => ?_)
    refine .descend (.bind (accords_stmts result (table.push "block") body) fun short long => ?_)
    have others := accords_alternative result table otherwise
    refine .bind (others.weaken fun _ => trivial) fun other longOther => ?_
    exact .pure fun ⟨⟨_, same⟩, sameOther⟩ => by rw [same, sameOther]
  | table, .block node body => by
    unfold alternative
    refine .descend (.bind (accords_stmts result (table.push "block") body) fun short long => ?_)
    exact .pure fun ⟨_, same⟩ => by rw [same]
  | _, .declare _ | _, .assign _ _ _ | _, .leave _ _ | _, .evaluate _ _ | _, .whileLoop _ _ _ _
  | _, .forLoop _ _ _ _ _ _ => .pure fun _ => rfl

/-- Statements are checked with two limits. The tables may differ only where the first check passes
over the rest. -/
theorem accords_stmts (result : Ty) : ∀ (table : SymbolTable) (body : List (Stmt Node)),
    Accords True (stmts result none table body) (stmts result none table body)
  | _, [] => .pure fun _ => rfl
  | table, stmt :: rest => by
    refine .bind (accords_stmt result table stmt) fun short long => ?_
    have others := fun table => accords_stmts result table rest
    have later : Accords (True ∧ short = long) (stmts result none short.2 rest)
        (stmts result none long.2 rest) := by
      refine .apart (passes_stmts result short.2 rest) (others long.2).ends ?_
      rintro ⟨-, rfl⟩
      exact others short.2
    refine .bind later fun checked longChecked => ?_
    exact .pure fun ⟨⟨_, same⟩, sameChecked⟩ => by rw [same, sameChecked]

end

/-! ## Declarations -/

/-- A function is checked with two limits. -/
theorem accords_function (table : SymbolTable) (declared : Function Node) (symbol : Symbol) :
    Accords True (function table none declared symbol) (function table none declared symbol) := by
  unfold function
  generalize symbol.signature.getD ⟨[], .void⟩ = signature
  refine .descend (.after (adds_declareParams _ _) fun scope => .descend ?_)
  refine .bind (accords_stmts signature.result _ declared.body) fun short long => ?_
  -- the question for a missing return does not look at the checked body
  refine .branch (.descend (.after (adds_someLeaves unlimited _) fun leaves => ?_)) ?_
  · refine .branch ?_ (.after (.report _ _ _ _) fun _ => ?_)
    · exact .pure fun ⟨_, same⟩ => by rw [same]
    · exact .pure fun ⟨_, same⟩ => by rw [same]
  · exact .pure fun ⟨_, same⟩ => by rw [same]

/-- From the limit on declarations are passed over. -/
theorem passes_declarations : ∀ (table : SymbolTable)
    (list : List (Declaration Node × Option Symbol)), Passes (declarations none table list)
  | _, [] => .pure
  | table, _ :: rest => .unlessFull (.bind (passes_declarations table rest) fun _ => .pure)

/-- Declarations are checked with two limits. -/
theorem accords_declarations : ∀ (table : SymbolTable)
    (list : List (Declaration Node × Option Symbol)),
    Accords True (declarations none table list) (declarations none table list)
  | _, [] => .pure fun _ => rfl
  | table, (declaration, symbol) :: rest => by
    have others := fun table => accords_declarations table rest
    have passing : ∀ passed : Declaration Mark, Passes (do
        let checked ← declarations none table rest
        pure (passed :: checked)) :=
      fun passed => .bind (passes_declarations table rest) fun _ => .pure
    cases declaration with
    | binding declared =>
      refine .unlessFull (passing _) (.after (adds_binding true table unlimited declared) ?_)
      refine fun found => .bind (others found.2) fun short long => ?_
      exact .pure fun ⟨_, same⟩ => by rw [same]
    | function declared =>
      cases symbol with
      | none =>
        refine .unlessFull (passing _) (.bind (others table) fun short long => ?_)
        exact .pure fun ⟨_, same⟩ => by rw [same]
      | some symbol =>
        refine .unlessFull (passing _) (.bind (accords_function table declared symbol) ?_)
        refine fun function longFunction => .bind ((others table).weaken fun _ => trivial) ?_
        intro short long
        exact .pure fun ⟨⟨_, sameFunction⟩, same⟩ => by rw [sameFunction, same]

/-- A program is checked with two limits. -/
theorem accords_program (tree : Program Node) :
    Accords True (program none tree) (program none tree) := by
  refine .after (adds_registerAll _ _) fun registered => ?_
  refine .bind (accords_declarations registered.1 _) fun short long => ?_
  exact .pure fun ⟨_, same⟩ => by rw [same]

/-! ## Programs -/

/-- What is added to the first journal. -/
theorem Journal.add_start (limit : Nat) (added : Array Failure) :
    (⟨limit, #[]⟩ : Journal).add added = ⟨limit, added⟩ := by
  rw [Journal.add, Array.empty_append]

/-- Journals with two limits before anything is checked. -/
theorem trails_start {m n : Nat} (le : m ≤ n) : Trails ⟨m, #[]⟩ ⟨n, #[]⟩ :=
  ⟨le, fun _ => rfl, rfl, List.Sublist.refl _⟩

/-- A check that gives a tree finds what is in its journal. -/
theorem run_eq {depth : Depth} {limit : Nat} {tree : Program Node} {checked : Program Mark}
    {added : Array Failure}
    (runs : (program depth tree).run ⟨limit, #[]⟩ = (some checked, ⟨limit, added⟩)) :
    run depth limit tree =
      ⟨added.toList, if added.toList.isEmpty then some checked else none⟩ := by
  rw [run, runs]

/-- Up to a positive number of them, lists that agree are both empty or start with the same. -/
theorem head?_eq_of_take_eq {few many : List α} {m : Nat} (positive : 1 ≤ m)
    (front : few.take m = many.take m) : few.head? = many.head? := by
  have nonzero : m ≠ 0 := Nat.ne_of_gt positive
  calc few.head? = (few.take m).head? := by rw [List.head?_take, if_neg nonzero]
    _ = (many.take m).head? := by rw [front]
    _ = many.head? := by rw [List.head?_take, if_neg nonzero]

/-- A limit on the failures changes no verdict. With a low limit and with a high one a check finds a
failure or none, and then the same first one; if it finds none it gives the same tree. Up to the low
limit the failures and their diagnostics are the same, and those found with the low limit are among
those found with the high one, in the same order. -/
theorem limits_agree (tree : Program Node) (lines : Array String) {m n : Nat} (positive : 1 ≤ m)
    (le : m ≤ n) :
    ((run none m tree).failures = [] ↔ (run none n tree).failures = []) ∧
      (run none m tree).failures.head? = (run none n tree).failures.head? ∧
      (run none m tree).program = (run none n tree).program ∧
      (run none m tree).failures.take m = (run none n tree).failures.take m ∧
      (run none m tree).failures.Sublist (run none n tree).failures ∧
      (((run none m tree).failures.map (Failure.diagnostic lines)).take m =
        ((run none n tree).failures.map (Failure.diagnostic lines)).take m) ∧
      ((run none m tree).failures.map (Failure.diagnostic lines)).Sublist
        ((run none n tree).failures.map (Failure.diagnostic lines)) := by
  obtain ⟨short, long, fewer, more, runs, otherRuns, trails, same⟩ :=
    accords_program tree _ _ (trails_start le) fun _ => trivial
  rw [Journal.add_start] at runs otherRuns same
  rw [Journal.add_start, Journal.add_start] at trails
  rw [run_eq runs, run_eq otherRuns]
  have front : fewer.toList.take m = more.toList.take m := trails.front
  have inside : fewer.toList.Sublist more.toList := trails.inside
  have head : fewer.toList.head? = more.toList.head? := head?_eq_of_take_eq positive front
  have empty : fewer.toList = [] ↔ more.toList = [] := by
    rw [← List.head?_eq_none_iff, head, List.head?_eq_none_iff]
  refine ⟨empty, head, ?_, front, inside, ?_, inside.map _⟩
  · dsimp only
    by_cases clean : fewer.toList = []
    · have free : (⟨m, fewer⟩ : Journal).full = false := by
        rw [full_eq_false_iff]
        have none : fewer.size = 0 := congrArg List.length clean
        show fewer.size < m
        omega
      rw [clean, empty.1 clean, same free]
    · have otherwise : more.toList ≠ [] := fun given => clean (empty.2 given)
      rw [if_neg (by rwa [List.isEmpty_iff]), if_neg (by rwa [List.isEmpty_iff])]
  · rw [← List.map_take, ← List.map_take, front]

/-- A text with two names that stand for nothing in one declaration, and one in another. -/
def careless : String := "let x = a + b; let y = c;"

/-- With the limit one the two failures of the first declaration are found, with the limit three
also that of the second one. -/
theorem limits_agree_careless : ∃ tree, (Program.ofText careless none).toOption = some tree ∧
    (1 ≤ 1 ∧ 1 ≤ 3) ∧ (run none 1 tree).failures.length = 2 ∧
    (run none 3 tree).failures.length = 3 ∧
    (run none 1 tree).failures.head? = (run none 3 tree).failures.head? ∧
    (run none 1 tree).failures.Sublist (run none 3 tree).failures := by
  have checks : (Program.ofText careless none).toOption.any (fun tree =>
      decide ((run none 1 tree).failures.length = 2) &&
        decide ((run none 3 tree).failures.length = 3)) = true := by
    decide +kernel
  obtain ⟨tree, found, holds⟩ := (Option.any_eq_true _ _).1 checks
  obtain ⟨low, high⟩ := Bool.and_eq_true_iff.1 holds
  have agree := limits_agree tree (Text.linesOf careless) (by decide : 1 ≤ 1) (by decide : 1 ≤ 3)
  exact ⟨tree, found, by decide, of_decide_eq_true low, of_decide_eq_true high, agree.2.1,
    agree.2.2.2.2.1⟩

end Lag.Check
