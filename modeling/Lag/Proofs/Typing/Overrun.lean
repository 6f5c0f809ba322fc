import Lag.Proofs.Typing.Limited

/-!
# How far a check runs over its limit

A check looks at the limit only before a statement of a body and before a declaration. What it has
begun by then it ends: an expression to its last name, the tests of all further conditionals, the
question for a missing return. And the functions are declared before the limit is looked at for the
first time. So there may be more failures than the limit. How many more is bounded by the program,
whatever the limit: by what one statement adds at most before the limit is looked at again, and by
what the signatures of the functions add.
-/
namespace Lag

variable {α : Type}

/-! ## Bounds of constructs -/

/-- The failures that a conditional after a failed test adds at most when the limit is reached: its
test and those of all conditionals after it are checked nevertheless. -/
def Stmt.further : Stmt α → Nat
  | .ifThen _ test _ _ => test.weight + 1
  | .ifElse _ test _ _ otherwise => test.weight + 1 + otherwise.further
  | _ => 0

mutual

/-- The failures that a statement adds at most after the last one below the limit. -/
def Stmt.overrun : Stmt α → Nat
  | .declare binding => binding.value.weight + 3
  | .assign _ _ value => value.weight + 1
  | .leave _ value => value.elim 0 Expr.weight + 1
  | .evaluate _ value => value.weight
  | .block _ body => Stmt.overrunAll body
  | .ifThen _ test _ body | .whileLoop _ test _ body => max (test.weight + 1) (Stmt.overrunAll body)
  | .ifElse _ test _ body otherwise =>
    max (max (test.weight + 1) (Stmt.overrunAll body) + otherwise.further) otherwise.overrun
  | .forLoop _ _ first bound _ body =>
    max (first.weight + 1 + (bound.weight + 1)) (Stmt.overrunAll body)

/-- The failures that statements add at most after the last one below the limit. -/
def Stmt.overrunAll : List (Stmt α) → Nat
  | [] => 0
  | stmt :: rest => max stmt.overrun (Stmt.overrunAll rest)

end

/-- The failures that a declaration adds at most after the last one below the limit; for a function
one of them is that of a missing return. -/
def Declaration.overrun : Declaration α → Nat
  | .function declared => max declared.params.length (Stmt.overrunAll declared.body) + 1
  | .binding declared => declared.value.weight + 3

/-- The failures that declarations add at most after the last one below the limit. -/
def Declaration.overrunAll : List (Declaration α) → Nat
  | [] => 0
  | declaration :: rest => max declaration.overrun (Declaration.overrunAll rest)

/-- The failures that the check of a program adds at most after the last one below the limit. -/
def Program.overrun (program : Program α) : Nat := Declaration.overrunAll program.declarations

/-- The failures that declaring the functions of a program adds at most. -/
def Program.signatureWeight (program : Program α) : Nat :=
  (program.declarations.map Declaration.signatureWeight).sum

namespace Check

/-! ## Runs over the limit -/

/-- How a journal grows: by at most `late` failures if it is full, and otherwise to less than
`excess` failures beyond the limit. -/
structure Overrun (late excess : Nat) (before after : Journal) : Prop where
  /-- The limit stays. -/
  limit : after.limit = before.limit
  /-- No failure is taken back. -/
  grows : before.failures.size ≤ after.failures.size
  /-- To a full journal few failures are added. -/
  late : before.full = true → after.failures.size ≤ before.failures.size + late
  /-- From a journal that is not full the limit is passed by few failures. -/
  excess : before.full = false → after.failures.size < before.limit + excess

/-- A check that runs over the limit by so many failures at most. -/
def Exceeds (late excess : Nat) (check : Checker β) : Prop :=
  ∀ journal : Journal, Overrun late excess journal (check.run journal).2

variable {β γ : Type} {late excess lateAfter excessAfter : Nat}

namespace Overrun

variable {before middle after : Journal}

/-- A journal that stays does not grow. -/
theorem refl (journal : Journal) : Overrun 0 0 journal journal :=
  ⟨rfl, Nat.le_refl _, fun _ => Nat.le_refl _, full_eq_false_iff.1⟩

/-- A bound may be weakened. -/
theorem mono (runs : Overrun late excess before after) (lateLe : late ≤ lateAfter)
    (excessLe : excess ≤ excessAfter) : Overrun lateAfter excessAfter before after := by
  obtain ⟨limit, grows, quiet, beyond⟩ := runs
  refine ⟨limit, grows, fun full => ?_, fun free => ?_⟩
  · have added := quiet full
    omega
  · have passed := beyond free
    omega

/-- Journals grow one after the other. Where the first growth reaches the limit, the second one
adds what it adds to a full journal. -/
theorem trans (first : Overrun late excess before middle)
    (second : Overrun lateAfter excessAfter middle after) :
    Overrun (late + lateAfter) (max excessAfter (excess + lateAfter)) before after := by
  have limits : middle.limit = before.limit := first.limit
  have grown : before.failures.size ≤ middle.failures.size := first.grows
  refine ⟨second.limit.trans limits, Nat.le_trans grown second.grows, fun full => ?_,
    fun free => ?_⟩
  · have reached : middle.full = true := by
      rw [full_eq_true_iff] at full ⊢
      omega
    have added := first.late full
    have addedAfter := second.late reached
    omega
  · have passed := first.excess free
    cases reached : middle.full with
    | true =>
      have addedAfter := second.late reached
      omega
    | false =>
      have passedAfter := second.excess reached
      omega

end Overrun

namespace Exceeds

variable {check : Checker β} {next : β → Checker γ}

/-- A bound may be weakened. -/
theorem mono (exceeds : Exceeds late excess check) (lateLe : late ≤ lateAfter)
    (excessLe : excess ≤ excessAfter) : Exceeds lateAfter excessAfter check :=
  fun journal => (exceeds journal).mono lateLe excessLe

/-- What adds the same to every journal may add all of it beyond the limit. -/
theorem of_adds {limited : Bool} {most : Nat} (adds : Adds limited most check) :
    Exceeds most most check := by
  obtain ⟨result, added, -, bounded, runs⟩ := adds
  intro journal
  rw [runs]
  have size : (journal.add added).failures.size = journal.failures.size + added.size :=
    Array.size_append
  refine ⟨rfl, ?_, fun _ => ?_, fun free => ?_⟩
  · rw [size]
    exact Nat.le_add_right _ _
  · rw [size]
    exact Nat.add_le_add_left bounded _
  · rw [full_eq_false_iff] at free
    rw [size]
    omega

/-- A result adds nothing. -/
theorem pure {result : β} : Exceeds 0 0 (Pure.pure result) :=
  fun journal => .refl journal

/-- Checks one after the other. -/
theorem bind (first : Exceeds late excess check)
    (rest : ∀ found, Exceeds lateAfter excessAfter (next found)) :
    Exceeds (late + lateAfter) (max excessAfter (excess + lateAfter)) (check >>= next) := by
  intro journal
  rw [run_bind]
  have begun := first journal
  generalize check.run journal = reached at begun ⊢
  obtain ⟨found, middle⟩ := reached
  cases found with
  | none => exact begun.mono (by omega) (by omega)
  | some found => exact begun.trans (rest found middle)

/-- What follows adds nothing. -/
theorem last (first : Exceeds late excess check) (rest : ∀ found, Exceeds 0 0 (next found)) :
    Exceeds late excess (check >>= next) :=
  (bind first rest).mono (Nat.le_refl _) (Nat.max_le.2 ⟨Nat.zero_le _, Nat.le_refl _⟩)

/-- Going down adds nothing. -/
theorem descend {steps : Nat} {depth : Depth} {next : Depth → Checker γ}
    (rest : ∀ inner, Exceeds late excess (next inner)) :
    Exceeds late excess (Check.descend steps depth >>= next) := by
  cases depth with
  | none => exact rest none
  | some left =>
    intro journal
    by_cases enough : steps ≤ left
    · rw [Check.descend, if_pos enough]
      exact rest _ journal
    · rw [Check.descend, if_neg enough]
      exact (Overrun.refl journal).mono (Nat.zero_le _) (Nat.zero_le _)

/-- What is passed over from the limit on adds nothing to a full journal. -/
theorem unlessFull {passed rest : Checker β} (skips : Exceeds 0 excessAfter passed)
    (goes : Exceeds late excess rest) :
    Exceeds 0 excess (Check.full >>= fun passes => if passes then passed else rest) := by
  intro journal
  rw [run_unlessFull]
  cases reached : journal.full with
  | true =>
    have skipped : Overrun 0 excessAfter journal (passed.run journal).2 := skips journal
    exact ⟨skipped.limit, skipped.grows, skipped.late, fun free => by
      rw [reached] at free
      cases free⟩
  | false =>
    have gone : Overrun late excess journal (rest.run journal).2 := goes journal
    exact ⟨gone.limit, gone.grows, (fun full => by
      rw [reached] at full
      cases full), gone.excess⟩

/-- A statement passes over what it would add to a full journal. -/
theorem statement {steps : Nat} {depth : Depth} {passed : β} {rest : Depth → Checker β}
    (goes : ∀ inner, Exceeds late excess (rest inner)) :
    Exceeds 0 excess (Check.descend steps depth >>= fun inner =>
      Check.full >>= fun passes => if passes then Pure.pure passed else rest inner) :=
  descend fun inner => unlessFull pure (goes inner)

end Exceeds

/-! ## Statements -/

/-- A test may be reported beyond the limit. -/
theorem exceeds_test (word : String) (table : SymbolTable) (depth : Depth) (value : Expr Node) :
    Exceeds (value.weight + 1) (value.weight + 1) (test word table depth value) :=
  .of_adds (adds_test word table rfl value)

/-- A bound of a loop may be reported beyond the limit. -/
theorem exceeds_bound (table : SymbolTable) (depth : Depth) (value : Expr Node) :
    Exceeds (value.weight + 1) (value.weight + 1) (bound table depth value) :=
  .of_adds (adds_bound table rfl value)

/-- A test and then a body, which is passed over from the limit on. -/
theorem exceeds_tested {word : String} {table : SymbolTable} {depth : Depth} {value : Expr Node}
    {most : Nat} {body : Depth → Checker β} {next : Expr Mark → β → Checker γ}
    (inside : ∀ inner, Exceeds 0 most (body inner))
    (rest : ∀ condition checked, Exceeds late excess (next condition checked)) :
    Exceeds (value.weight + 1 + late) (max excess (max (value.weight + 1) most + late)) (do
      let condition ← test word table depth value
      let innermost ← descend 1 depth
      let checked ← body innermost
      next condition checked) := by
  refine (Exceeds.bind (exceeds_test word table depth value) fun condition =>
    .descend fun innermost => .bind (inside innermost) (rest condition)).mono ?_ ?_
  · omega
  · omega

mutual

/-- A statement runs over the limit by no more than its bound, and is passed over from there on. -/
theorem exceeds_stmt (result : Ty) : ∀ (depth : Depth) (table : SymbolTable) (stmt : Stmt Node),
    Exceeds 0 stmt.overrun (Check.stmt result depth table stmt)
  | depth, table, .declare declared =>
    .statement fun inner => .last (.of_adds (adds_binding false table rfl declared)) fun _ => .pure
  | depth, table, .assign node target value =>
    .statement fun inner =>
      .last (.of_adds (adds_assignment table rfl node target value)) fun _ => .pure
  | depth, table, .leave node value =>
    .statement fun inner =>
      .last (.of_adds (adds_leaving result table rfl node value)) fun _ => .pure
  | depth, table, .evaluate node value =>
    .statement fun inner => .last (.of_adds (adds_expr table rfl value)) fun _ => .pure
  | depth, table, .block node body =>
    .statement fun inner => .descend fun innermost =>
      .last (exceeds_stmts result innermost (table.push "block") body) fun _ => .pure
  | depth, table, .ifThen node condition bodyNode body => by
    have bodies := fun inner => exceeds_stmts result inner (table.push "block") body
    refine .statement fun inner => .descend fun inside =>
      .mono (exceeds_tested bodies fun _ _ => .pure) (Nat.le_refl _) ?_
    rw [Stmt.overrun]
    omega
  | depth, table, .ifElse node condition bodyNode body otherwise => by
    have bodies := fun inner => exceeds_stmts result inner (table.push "block") body
    have others := fun inner => exceeds_alternative result inner table otherwise
    refine .statement fun inner => .descend fun inside =>
      .mono (exceeds_tested bodies fun _ _ => .last (others inside) fun _ => .pure)
        (Nat.le_refl _) ?_
    rw [Stmt.overrun]
    omega
  | depth, table, .whileLoop node condition bodyNode body => by
    have bodies := fun inner => exceeds_stmts result inner (table.push "block") body
    refine .statement fun inner =>
      .mono (exceeds_tested bodies fun _ _ => .pure) (Nat.le_refl _) ?_
    rw [Stmt.overrun]
    omega
  | depth, table, .forLoop node counter first last bodyNode body => by
    have bodies := fun inner table => exceeds_stmts result inner table body
    refine .statement fun inner => .descend fun inside =>
      .mono (.bind (exceeds_bound table inside first) fun _ =>
        .bind (exceeds_bound table inside last) fun _ =>
          .descend fun innermost => .last (bodies innermost _) fun _ => .pure) (Nat.le_refl _) ?_
    rw [Stmt.overrun]
    omega

/-- A conditional after a failed test checks its test whatever the number of failures. -/
theorem exceeds_alternative (result : Ty) :
    ∀ (depth : Depth) (table : SymbolTable) (stmt : Stmt Node),
      Exceeds stmt.further stmt.overrun (alternative result depth table stmt)
  | depth, table, .ifThen node condition bodyNode body => by
    have bodies := fun inner => exceeds_stmts result inner (table.push "block") body
    unfold alternative
    refine .descend fun inside =>
      .mono (exceeds_tested bodies fun _ _ => .pure) (Nat.le_refl _) ?_
    rw [Stmt.overrun]
    omega
  | depth, table, .ifElse node condition bodyNode body otherwise => by
    have bodies := fun inner => exceeds_stmts result inner (table.push "block") body
    have others := fun inner => exceeds_alternative result inner table otherwise
    unfold alternative
    refine .descend fun inside =>
      .mono (exceeds_tested bodies fun _ _ => .last (others inside) fun _ => .pure)
        (Nat.le_refl _) ?_
    rw [Stmt.overrun]
    omega
  | depth, table, .block node body => by
    unfold alternative
    exact .descend fun innermost =>
      .last (exceeds_stmts result innermost (table.push "block") body) fun _ => .pure
  | _, _, .declare _ | _, _, .assign _ _ _ | _, _, .leave _ _ | _, _, .evaluate _ _
  | _, _, .whileLoop _ _ _ _ | _, _, .forLoop _ _ _ _ _ _ =>
    Exceeds.pure.mono (Nat.zero_le _) (Nat.zero_le _)

/-- Statements run over the limit by no more than one of them does. -/
theorem exceeds_stmts (result : Ty) :
    ∀ (depth : Depth) (table : SymbolTable) (body : List (Stmt Node)),
      Exceeds 0 (Stmt.overrunAll body) (stmts result depth table body)
  | _, _, [] => .pure
  | depth, table, stmt :: rest => by
    have first := exceeds_stmt result depth table stmt
    have others := fun table => exceeds_stmts result depth table rest
    refine (first.bind fun found => (others found.2).last fun _ => .pure).mono (Nat.le_refl _) ?_
    rw [Stmt.overrunAll]
    omega

end

/-! ## Declarations -/

/-- A function runs over the limit by no more than its parameters or one of its statements, and a
missing return. -/
theorem exceeds_function (table : SymbolTable) (depth : Depth) (declared : Function Node)
    (symbol : Symbol) :
    Exceeds (declared.params.length + 1)
      (max declared.params.length (Stmt.overrunAll declared.body) + 1)
      (function table depth declared symbol) := by
  unfold function
  generalize symbol.signature.getD ⟨[], .void⟩ = signature
  have params : ∀ table, Exceeds declared.params.length declared.params.length
      (declareParams table (declared.params.zip (signature.params.map (·.2)))) := by
    intro table
    have fewer : (declared.params.zip (signature.params.map (·.2))).length ≤
        declared.params.length := by
      rw [List.length_zip]
      exact Nat.min_le_left _ _
    exact .of_adds ((adds_declareParams table _ : Adds true _ _).mono fewer)
  have body := fun inner table => exceeds_stmts signature.result inner table declared.body
  refine .descend fun inner => .mono (.bind (params _) fun scope => .descend fun innermost =>
    .bind (body innermost _) fun checked => .of_adds (?_ : Adds inner.isSome 1 _)) ?_ ?_
  · refine .branch (.descend rfl fun below kind => ?_) .pure
    exact .after (adds_someLeaves kind declared.body) fun leaves => .reportUnless fun _ => .pure
  · omega
  · omega

/-- Declarations run over the limit by no more than one of them does. -/
theorem exceeds_declarations (depth : Depth) : ∀ (table : SymbolTable)
    (list : List (Declaration Node)) (symbols : List (Option Symbol)),
    Exceeds 0 (Declaration.overrunAll list) (declarations depth table (list.zip symbols))
  | _, [], _ => .pure
  | _, _ :: _, [] => Exceeds.pure.mono (Nat.zero_le _) (Nat.zero_le _)
  | table, declaration :: rest, symbol :: symbols => by
    have others := fun table => exceeds_declarations depth table rest symbols
    have passing : ∀ passed : Declaration Mark, Exceeds 0 (Declaration.overrunAll rest) (do
        let checked ← declarations depth table (rest.zip symbols)
        pure (passed :: checked)) := fun passed => .last (others table) fun _ => .pure
    rw [Declaration.overrunAll]
    cases declaration with
    | binding declared =>
      refine .unlessFull (passing _) (.mono (.bind (.of_adds (adds_binding true table rfl declared))
        fun found => .last (others found.2) fun _ => .pure) (Nat.le_refl _) ?_)
      rw [Declaration.overrun]
      omega
    | function declared =>
      cases symbol with
      | none => exact .unlessFull (passing _) ((passing _).mono (Nat.le_refl _) (by omega))
      | some symbol =>
        refine .unlessFull (passing _) (.mono (.bind (exceeds_function table depth declared symbol)
          fun found => .last (others table) fun _ => .pure) (Nat.le_refl _) ?_)
        rw [Declaration.overrun]
        omega

/-! ## Programs -/

/-- The failures that are found before the steps run out, if they do. -/
theorem program_size_le (depth : Depth) {limit : Nat} (positive : 1 ≤ limit)
    (tree : Program Node) : ((program depth tree).run ⟨limit, #[]⟩).2.failures.size ≤
      max tree.signatureWeight (limit - 1 + tree.overrun) := by
  obtain ⟨registered, added, -, bounded, runs⟩ :=
    (adds_registerAll (SymbolTable.initial.push "module") tree.declarations :
      Adds true _ _)
  have signatures : added.size ≤ tree.signatureWeight := bounded
  rw [program, run_bind, runs, Journal.add_start]
  cases registered with
  | none => exact Nat.le_trans signatures (Nat.le_max_left _ _)
  | some registered =>
    have later : Exceeds 0 tree.overrun (do
        let checked ← declarations depth registered.1 (tree.declarations.zip registered.2)
        pure (⟨.bare tree.note, checked, tree.file⟩ : Program Mark)) :=
      .last (exceeds_declarations depth registered.1 tree.declarations registered.2) fun _ => .pure
    have goes : ∀ after : Journal, Overrun 0 tree.overrun ⟨limit, added⟩ after →
        after.failures.size ≤ max tree.signatureWeight (limit - 1 + tree.overrun) := by
      intro after runs
      cases full : (⟨limit, added⟩ : Journal).full with
      | true =>
        have added : after.failures.size ≤ added.size + 0 := runs.late full
        omega
      | false =>
        have passed : after.failures.size < limit + tree.overrun := runs.excess full
        omega
    exact goes _ (later ⟨limit, added⟩)

/-- The failures of a check are at most those of the signatures, or those that a limit and the bound
of the program allow, and one more where the steps run out. -/
theorem run_failures_le (depth : Depth) {limit : Nat} (positive : 1 ≤ limit) (tree : Program Node) :
    (run depth limit tree).failures.length ≤
      max tree.signatureWeight (limit - 1 + tree.overrun) + depth.isSome.toNat := by
  have found := program_size_le depth positive tree
  unfold run
  generalize reached : (program depth tree).run ⟨limit, #[]⟩ = outcome at found ⊢
  obtain ⟨checked, journal⟩ := outcome
  have size : journal.failures.toList.length = journal.failures.size := Array.length_toList
  cases checked with
  | some checked =>
    show journal.failures.toList.length ≤ _
    dsimp only at found
    omega
  | none =>
    -- without a limit on the steps there is a tree
    have limited : depth.isSome = true := by
      cases depth with
      | some left => rfl
      | none =>
        obtain ⟨checked, added, runs⟩ := (accords_program tree).ends ⟨limit, #[]⟩
        rw [runs] at reached
        cases reached
    show (journal.failures.toList ++ [_]).length ≤ _
    rw [List.length_append, limited, List.length_singleton, Bool.toNat_true]
    dsimp only at found
    omega

/-- The careless text has one declaration with two failures, which the limit one does not part. -/
theorem run_failures_le_careless : ∃ tree, (Program.ofText careless none).toOption = some tree ∧
    1 ≤ 1 ∧ (run (some depthLimit) 1 tree).failures.length = 2 ∧ tree.overrun = 6 ∧
    (run (some depthLimit) 1 tree).failures.length ≤
      max tree.signatureWeight (1 - 1 + tree.overrun) + 1 := by
  have checks : (Program.ofText careless none).toOption.any (fun tree =>
      decide ((run (some depthLimit) 1 tree).failures.length = 2) &&
        decide (tree.overrun = 6)) = true := by
    decide +kernel
  obtain ⟨tree, found, holds⟩ := (Option.any_eq_true _ _).1 checks
  obtain ⟨two, six⟩ := Bool.and_eq_true_iff.1 holds
  exact ⟨tree, found, by decide, of_decide_eq_true two, of_decide_eq_true six,
    run_failures_le (some depthLimit) (by decide : 1 ≤ 1) tree⟩

/-- The failures may be more than the limit. -/
theorem failures_exceed_limit : ¬∀ (tree : Program Node) (limit : Nat), 1 ≤ limit →
    (tree.check limit).failures.length ≤ limit := by
  intro bounded
  have checks : (Program.ofText careless none).toOption.any (fun tree =>
      decide (1 < (tree.check 1).failures.length)) = true := by
    decide +kernel
  obtain ⟨tree, -, more⟩ := (Option.any_eq_true _ _).1 checks
  exact Nat.not_lt.2 (bounded tree 1 (Nat.le_refl 1)) (of_decide_eq_true more)

end Check

end Lag
