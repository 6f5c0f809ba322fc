import Lag.Proofs.Typing.Journal
import Mathlib.Algebra.GroupWithZero.Nat

/-!
# How many failures parts of a check add

Between two looks at the limit a check does the same whatever is in the journal: it adds the same
failures and gives the same result. `Adds` says so, and how many failures these are at most. An
expression adds no more than its weight: one failure for each of its names, operators and calls, and
for a call with more arguments one for each of them.
-/
namespace Lag.Check

variable {α β : Type}

/-- A journal after more failures. -/
def Journal.add (journal : Journal) (added : Array Failure) : Journal :=
  { journal with failures := journal.failures ++ added }

/-- Nothing is added. -/
theorem Journal.add_empty (journal : Journal) : journal.add #[] = journal := by
  rw [Journal.add, Array.append_empty]

/-- Failures are added one after the other. -/
theorem Journal.add_add (journal : Journal) (first second : Array Failure) :
    (journal.add first).add second = journal.add (first ++ second) := by
  rw [Journal.add, Journal.add, Journal.add, Array.append_assoc]

/-- A journal is full from its limit on. -/
theorem full_eq_true_iff {journal : Journal} :
    journal.full = true ↔ journal.limit ≤ journal.failures.size :=
  decide_eq_true_iff

/-- A journal is not full below its limit. -/
theorem full_eq_false_iff {journal : Journal} :
    journal.full = false ↔ journal.failures.size < journal.limit := by
  rw [Journal.full, decide_eq_false_iff_not, Nat.not_le]

/-- The journal decides on what is passed over from the limit on. -/
theorem run_unlessFull (passed rest : Checker α) (journal : Journal) :
    (full >>= fun passes => if passes then passed else rest).run journal =
      (if journal.full then passed else rest).run journal := by
  rw [run_bind]
  rfl

/-- A check that does the same from every journal: it adds the same failures, at most so many, and
gives the same result. Only where the steps are limited there may be none. -/
def Adds (limited : Bool) (most : Nat) (check : Checker α) : Prop :=
  ∃ (result : Option α) (added : Array Failure), (limited = false → result.isSome) ∧
    added.size ≤ most ∧ ∀ journal, check.run journal = (result, journal.add added)

namespace Adds

variable {limited : Bool} {most more : Nat} {check : Checker α} {next : α → Checker β}

/-- A check that adds less may add more. -/
theorem mono (adds : Adds limited most check) (le : most ≤ more) : Adds limited more check := by
  obtain ⟨result, added, ends, bounded, runs⟩ := adds
  exact ⟨result, added, ends, Nat.le_trans bounded le, runs⟩

/-- A result adds nothing. -/
theorem pure {result : α} : Adds limited most (Pure.pure result) :=
  ⟨some result, #[], fun _ => rfl, Nat.zero_le _, fun journal => by
    rw [journal.add_empty]
    rfl⟩

/-- Two checks add what both of them add. -/
theorem bind (first : Adds limited most check) (rest : ∀ found, Adds limited more (next found)) :
    Adds limited (most + more) (check >>= next) := by
  obtain ⟨result, added, ends, bounded, runs⟩ := first
  cases result with
  | none =>
    refine ⟨none, added, ends, Nat.le_add_right_of_le bounded, fun journal => ?_⟩
    rw [run_bind, runs]
  | some found =>
    obtain ⟨last, others, endsToo, boundedToo, runsToo⟩ := rest found
    refine ⟨last, added ++ others, endsToo, ?_, fun journal => ?_⟩
    · rw [Array.size_append]
      exact Nat.add_le_add bounded boundedToo
    · rw [run_bind, runs]
      show (next found).run _ = _
      rw [runsToo, Journal.add_add]

/-- What follows adds nothing. -/
theorem last (first : Adds limited most check) (rest : ∀ found, Adds limited 0 (next found)) :
    Adds limited most (check >>= next) :=
  bind first rest

/-- What is first adds nothing. -/
theorem after (first : Adds limited 0 check) (rest : ∀ found, Adds limited more (next found)) :
    Adds limited more (check >>= next) :=
  (bind first rest).mono (Nat.le_of_eq (Nat.zero_add _))

/-- A report adds one failure. -/
theorem report (cause : Cause) (span : Source.Span) (kind : Kind) (place : Source.Span) :
    Adds limited 1 (report cause span kind place) :=
  ⟨some (), #[⟨cause, span, kind, place⟩], fun _ => rfl, Nat.le_refl _, fun _ => rfl⟩

/-- What adds nothing after a report. -/
theorem reported {cause : Cause} {span place : Source.Span} {kind : Kind} {next : Unit → Checker β}
    (rest : ∀ done, Adds limited 0 (next done)) :
    Adds limited (most + 1) (Check.report cause span kind place >>= next) :=
  (last (report cause span kind place) rest).mono (Nat.le_add_left _ _)

/-- Of two branches one is taken. -/
theorem branch {condition : Prop} [Decidable condition] {check other : Checker α}
    (taken : Adds limited most check) (passed : Adds limited most other) :
    Adds limited most (if condition then check else other) := by
  split
  · exact taken
  · exact passed

/-- A failure is reported unless a condition holds. -/
theorem reportUnless {condition : Prop} [Decidable condition] {cause : Cause}
    {span place : Source.Span} {kind : Kind} {next : Unit → Checker β}
    (rest : ∀ done, Adds limited 0 (next done)) :
    Adds limited (most + 1)
      (if condition then next () else Check.report cause span kind place >>= next) :=
  branch ((rest ()).mono (Nat.zero_le _)) (reported rest)

/-- Going down adds nothing, and the steps stay limited or not limited. -/
theorem descend {steps : Nat} {depth : Depth} {next : Depth → Checker β}
    (kind : depth.isSome = limited)
    (rest : ∀ inner : Depth, inner.isSome = limited → Adds limited most (next inner)) :
    Adds limited most (Check.descend steps depth >>= next) := by
  cases depth with
  | none =>
    rw [Check.descend, pure_bind]
    exact rest none kind
  | some left =>
    rw [Check.descend]
    split
    · rw [pure_bind]
      exact rest _ kind
    · subst kind
      refine ⟨none, #[], (fun ends => nomatch ends), Nat.zero_le _, fun journal => ?_⟩
      rw [journal.add_empty]
      rfl

/-- A search adds nothing. -/
theorem find {table : SymbolTable} {depth : Depth} {name : String} (kind : depth.isSome = limited) :
    Adds limited 0 (find table depth name) :=
  descend kind fun _ _ => pure

end Adds

end Check

/-! ## Weights -/

mutual

/-- The failures that the check of an expression adds at most. -/
def Expr.weight {α : Type} : Expr α → Nat
  | .literal _ _ _ => 0
  | .read _ => 1
  | .unary _ _ operand => operand.weight + 1
  | .binary _ _ left right => left.weight + (right.weight + 1)
  | .call _ _ arguments => Expr.weightAll arguments + max 1 arguments.length

/-- The failures that the check of expressions adds at most. -/
def Expr.weightAll {α : Type} : List (Expr α) → Nat
  | [] => 0
  | expr :: rest => expr.weight + Expr.weightAll rest

end

/-- The failures that declaring a function adds at most: one for each parameter and one for the
name. -/
def Declaration.signatureWeight {α : Type} : Declaration α → Nat
  | .binding _ => 0
  | .function declared => declared.params.length + 1

namespace Check

variable {limited : Bool}

/-! ## Expressions -/

/-- An operator adds one failure at most. -/
theorem adds_operation (node : Node) (op : BinaryOp) (left right : Ty) :
    Adds limited 1 (operation node op left right) := by
  unfold operation
  obtain ⟨type, fits⟩ := operationType op left right
  exact .reportUnless fun _ => .pure

/-- An operator in front of an operand adds one failure at most. -/
theorem adds_signType (node : Node) (op : UnaryOp) (operand : Ty) :
    Adds limited 1 (signType node op operand) := by
  cases op with
  | not => exact .reportUnless fun _ => .pure
  | negate => exact .branch .pure (.reported fun _ => .pure)

/-- A value in its place adds one failure at most. -/
theorem adds_put (place : Ty) (value : Typed) (cause : Cause) (span : Source.Span) (kind : Kind)
    (construct : Source.Span) : Adds limited 1 (put place value cause span kind construct) :=
  .branch .pure (.branch (.reported fun _ => .pure) .pure)

/-- A value of a type at fault fits every place. -/
theorem adds_put_error (place : Ty) (value : Expr Mark) (cause : Cause) (span : Source.Span)
    (kind : Kind) (construct : Source.Span) :
    Adds limited 0 (put place (value, .error) cause span kind construct) :=
  .pure

/-- A name that is read adds one failure at most. -/
theorem adds_reading (table : SymbolTable) {depth : Depth} (kind : depth.isSome = limited)
    (ident : Ident Node) : Adds limited 1 (reading table depth ident) := by
  refine .after (.find kind) fun found => ?_
  cases found with
  | none => exact .reported fun _ => .pure
  | some symbol => exact .branch (.reported fun _ => .pure) .pure

/-- Arguments in their parameters add one failure each at most. -/
theorem adds_putArguments (callee : String) : ∀ (params : List (String × Ty))
    (arguments : List Typed), Adds limited arguments.length (putArguments callee params arguments)
  | [], _ | _ :: _, [] => .pure
  | (_, _) :: params, (_, _) :: arguments =>
    (Adds.bind (adds_put _ _ _ _ _ _) fun _ =>
      .last (adds_putArguments callee params arguments) fun _ => .pure).mono
        (Nat.le_of_eq (Nat.add_comm _ _))

/-- A call whose arguments are checked adds one failure at most for itself or for each of them. -/
theorem adds_finishCall (node : Node) (callee : Ident Node) (symbol : Option Symbol)
    (arguments : List Typed) :
    Adds limited (max 1 arguments.length) (finishCall node callee symbol arguments) := by
  have reports : ∀ {cause span place kind} {result : Typed}, Adds limited (max 1 arguments.length)
      (report cause span kind place >>= fun _ => pure result) :=
    (Adds.last (.report _ _ _ _) fun _ => .pure).mono (Nat.le_max_left _ _)
  unfold finishCall
  cases symbol with
  | none => exact reports
  | some symbol =>
    dsimp only
    cases symbol.signature with
    | none => exact reports
    | some signature =>
      refine .branch reports (.last ?_ fun _ => .pure)
      exact (adds_putArguments _ _ _).mono (Nat.le_max_right _ _)

mutual

/-- An expression adds no more than its weight before what is pending is taken up. -/
theorem adds_spine (table : SymbolTable) : ∀ {depth : Depth} (_ : depth.isSome = limited)
    {pending : List Pending} {most : Nat} (_ : ∀ left, Adds limited most (takeUp pending left))
    (expr : Expr Node), Adds limited (expr.weight + most) (spine table depth pending expr)
  | depth, kind, pending, most, rest, .literal node value lexeme =>
    .descend kind fun _ _ => (rest _).mono (Nat.le_add_left _ _)
  | depth, kind, pending, most, rest, .read ident =>
    .descend kind fun inner kind => .bind (adds_reading table kind ident) rest
  | depth, kind, pending, most, rest, .unary node op operand => by
    have inside : ∀ inner : Depth, inner.isSome = limited →
        Adds limited (operand.weight + 0) (spine table inner [] operand) :=
      fun inner kind => adds_spine table kind (fun _ => .pure) operand
    rw [Expr.weight, Nat.add_assoc]
    exact .descend kind fun inner kind => .bind (inside inner kind) fun _ =>
      .bind (adds_signType _ _ _) fun _ => rest _
  | depth, kind, pending, most, rest, .binary node op left right => by
    rw [Expr.weight, Nat.add_assoc, Nat.add_assoc]
    -- below, the operation is the innermost one that is pending
    have below : ∀ inner : Depth, inner.isSome = limited →
        Adds limited (left.weight + (right.weight + (1 + most)))
          (spine table inner (⟨node, op, spine table inner [] right⟩ :: pending) left) := by
      intro inner kind
      have alone : Adds limited (right.weight + 0) (spine table inner [] right) :=
        adds_spine table kind (fun _ => .pure) right
      exact adds_spine table kind (fun left => .bind alone fun _ =>
        .bind (adds_operation _ _ _ _) fun _ => rest _) left
    cases pending with
    | nil => exact .descend kind below
    | cons => exact below depth kind
  | depth, kind, pending, most, rest, .call node callee arguments => by
    rw [Expr.weight, Nat.add_assoc]
    refine .descend kind fun inner kind => .after (.find kind) fun symbol => ?_
    refine adds_exprs table kind arguments fun checked length => ?_
    rw [← length]
    exact .bind (adds_finishCall _ _ _ _) rest

/-- Arguments add no more than their weights before what goes on with as many checked ones. -/
theorem adds_exprs {β : Type} (table : SymbolTable) : ∀ {depth : Depth}
    (_ : depth.isSome = limited) (arguments : List (Expr Node)) {most : Nat}
    {next : List Typed → Checker β}
    (_ : ∀ checked, checked.length = arguments.length → Adds limited most (next checked)),
    Adds limited (Expr.weightAll arguments + most) (exprs table depth arguments >>= next)
  | _, kind, [], most, next, rest => by
    rw [Expr.weightAll, Nat.zero_add]
    exact rest [] rfl
  | depth, kind, expr :: others, most, next, rest => by
    have first : ∀ inner : Depth, inner.isSome = limited →
        Adds limited (expr.weight + 0) (spine table inner [] expr) :=
      fun inner kind => adds_spine table kind (fun _ => .pure) expr
    rw [Expr.weightAll, Nat.add_assoc, exprs]
    simp only [bind_assoc, pure_bind]
    refine .descend kind fun inner deeper => .bind (first inner deeper) fun found => ?_
    exact adds_exprs table kind others fun checked length => rest _ (congrArg (· + 1) length)

end

/-- An expression adds no more than its weight. -/
theorem adds_expr (table : SymbolTable) {depth : Depth} (kind : depth.isSome = limited)
    (expr : Expr Node) : Adds limited expr.weight (Check.expr table depth expr) := by
  have alone : Adds limited (expr.weight + 0) (spine table depth [] expr) :=
    adds_spine table kind (fun _ => .pure) expr
  exact alone

/-! ## Statements without a body -/

/-- A written type adds one failure at most. -/
theorem adds_writtenType (type : TypeName Node) (kind : Kind) (owner : Node) :
    Adds limited 1 (writtenType type kind owner) :=
  .branch (.reported fun _ => .pure) .pure

/-- A name that is declared adds one failure at most. -/
theorem adds_define {table : SymbolTable} {symbol : Symbol} {cause : Cause}
    {span place : Source.Span} {kind : Kind} {defined : SymbolTable → α} {refused : α} :
    Adds limited 1 (match table.define? symbol with
      | some table => pure (defined table)
      | none => do
        report cause span kind place
        pure refused) := by
  cases table.define? symbol with
  | none => exact .reported fun _ => .pure
  | some table => exact .pure

/-- The declaration of a variable adds three failures at most to those of its value: a type that
holds nothing excludes a value of another type, as does a value that is nothing. -/
theorem adds_binding (inModule : Bool) (table : SymbolTable) {depth : Depth}
    (kind : depth.isSome = limited) (declared : Binding Node) :
    Adds limited (declared.value.weight + 3) (Check.binding inModule table depth declared) := by
  unfold Check.binding
  refine .descend kind fun inner kind => .bind (adds_expr table kind declared.value) ?_
  rintro ⟨value, found⟩
  dsimp only
  split
  · simp only [pure_bind]
    refine (Adds.bind (.report _ _ _ _) fun _ => ?_ : Adds limited (1 + 2) _)
    cases declared.type with
    | none => exact adds_define.mono (Nat.le_succ 1)
    | some written =>
      exact (.bind (adds_writtenType written _ _) fun _ => .after (adds_put_error _ _ _ _ _ _)
        fun _ => adds_define : Adds limited (1 + 1) _)
  · simp only [pure_bind]
    cases declared.type with
    | none => exact adds_define.mono (Nat.le_add_left 1 2)
    | some written =>
      exact (.bind (adds_writtenType written _ _) fun _ => .bind (adds_put _ _ _ _ _ _)
        fun _ => adds_define : Adds limited (1 + (1 + 1)) _)

/-- An assignment adds one failure at most to those of its value. -/
theorem adds_assignment (table : SymbolTable) {depth : Depth} (kind : depth.isSome = limited)
    (node : Node) (target : Ident Node) (value : Expr Node) :
    Adds limited (value.weight + 1) (assignment table depth node target value) := by
  refine .descend kind fun inner kind => .bind (adds_expr table kind value) fun found => ?_
  refine .after (.find kind) fun symbol => ?_
  cases symbol with
  | none => exact .reported fun _ => .pure
  | some symbol =>
    refine .branch (.reported fun _ => .pure) (.branch (.reported fun _ => .pure) ?_)
    exact .last (adds_put _ _ _ _ _ _) fun _ => .pure

/-- A test adds one failure at most to those of its expression. -/
theorem adds_test (word : String) (table : SymbolTable) {depth : Depth}
    (kind : depth.isSome = limited) (value : Expr Node) :
    Adds limited (value.weight + 1) (test word table depth value) :=
  .descend kind fun _ kind => .bind (adds_expr table kind value) fun _ =>
    .reportUnless fun _ => .pure

/-- A bound of a loop adds one failure at most to those of its expression. -/
theorem adds_bound (table : SymbolTable) {depth : Depth} (kind : depth.isSome = limited)
    (value : Expr Node) : Adds limited (value.weight + 1) (bound table depth value) :=
  .bind (adds_expr table kind value) fun _ => .reportUnless fun _ => .pure

/-- A return adds one failure at most to those of its value. -/
theorem adds_leaving (result : Ty) (table : SymbolTable) {depth : Depth}
    (kind : depth.isSome = limited) (node : Node) : ∀ value : Option (Expr Node),
    Adds limited ((value.elim 0 Expr.weight) + 1) (leaving result table depth node value)
  | none => .descend kind fun _ _ => .reportUnless fun _ => .pure
  | some value =>
    .descend kind fun _ kind => .bind (adds_expr table kind value) fun _ =>
      .branch (.reported fun _ => .pure) (.last (adds_put _ _ _ _ _ _) fun _ => .pure)

mutual

/-- Whether a statement always ends in a return is asked without a failure. -/
theorem adds_alwaysLeaves : ∀ {depth : Depth} (_ : depth.isSome = limited) (stmt : Stmt Node),
    Adds limited 0 (alwaysLeaves depth stmt)
  | _, kind, .block _ body => .descend kind fun _ kind => adds_someLeaves kind body
  | _, kind, .ifElse _ _ _ body otherwise => by
    unfold alwaysLeaves
    refine .descend kind fun inner kind => .descend kind fun inside deeper => ?_
    refine .after (adds_someLeaves deeper body) fun leaves => .branch ?_ .pure
    exact adds_alwaysLeaves kind otherwise
  | _, kind, .leave _ _ | _, kind, .declare _ | _, kind, .assign _ _ _ | _, kind, .evaluate _ _
  | _, kind, .ifThen _ _ _ _ | _, kind, .whileLoop _ _ _ _ | _, kind, .forLoop _ _ _ _ _ _ =>
    .descend kind fun _ _ => .pure

/-- Whether one of some statements always ends in a return is asked without a failure. -/
theorem adds_someLeaves : ∀ {depth : Depth} (_ : depth.isSome = limited) (body : List (Stmt Node)),
    Adds limited 0 (someLeaves depth body)
  | _, _, [] => .pure
  | _, kind, stmt :: rest => by
    unfold someLeaves
    refine .after (adds_alwaysLeaves kind stmt) fun leaves => .branch .pure ?_
    exact adds_someLeaves kind rest

end

/-! ## Declarations -/

/-- The types of parameters add one failure each at most. -/
theorem adds_paramTypes : ∀ params : List (Param Node),
    Adds limited params.length (paramTypes params)
  | [] => .pure
  | param :: rest =>
    (Adds.bind (adds_writtenType param.type .param param.note) fun _ =>
      .last (adds_paramTypes rest) fun _ => .pure).mono (Nat.le_of_eq (Nat.add_comm _ _))

/-- The parameters of a function add one failure each at most. -/
theorem adds_declareParams : ∀ (table : SymbolTable) (params : List (Param Node × Ty)),
    Adds limited params.length (declareParams table params)
  | _, [] => .pure
  | table, (param, type) :: rest => by
    unfold declareParams
    dsimp only
    split
    · exact (Adds.last (adds_declareParams _ rest) fun _ => .pure).mono (Nat.le_succ _)
    · refine (Adds.bind (.report _ _ _ _) fun _ => ?_).mono (Nat.le_of_eq (Nat.add_comm _ _))
      exact .last (adds_declareParams _ rest) fun _ => .pure

/-- A function that is declared adds one failure at most for each parameter and one for its name. -/
theorem adds_register (table : SymbolTable) (declared : Function Node) :
    Adds limited (declared.params.length + 1) (register table declared) :=
  .bind (adds_paramTypes declared.params) fun _ => adds_define

/-- The functions of a program add together what they add one by one. -/
theorem adds_registerAll : ∀ (table : SymbolTable) (declarations : List (Declaration Node)),
    Adds limited (declarations.map Declaration.signatureWeight).sum
      (registerAll table declarations)
  | _, [] => .pure
  | table, .binding _ :: rest => by
    rw [List.map_cons, List.sum_cons, Declaration.signatureWeight, Nat.zero_add]
    exact .last (adds_registerAll table rest) fun _ => .pure
  | table, .function declared :: rest => by
    rw [List.map_cons, List.sum_cons, Declaration.signatureWeight]
    refine .bind (adds_register table declared) fun first => ?_
    exact .last (adds_registerAll first.1 rest) fun _ => .pure

end Lag.Check
