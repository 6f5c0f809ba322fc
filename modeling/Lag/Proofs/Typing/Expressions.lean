import Lag.Proofs.Typing.Journal
import Lag.Proofs.Typing.Proper

/-!
# What a check without failures establishes

The tree that a check without failures gives is well typed, and it is the tree that was checked
with notes on it. Expressions are checked with right operands pending, so the statement on an
expression is one on how the check goes on from it.
-/
namespace Lag

/-- A type of values is no error and not the absence of a value. -/
theorem Ty.isError_of_isValue {type : Ty} (value : type.isValue = true ∨ type = .void) :
    type.isError = false := by
  cases type <;> simp_all [isValue, isError]

/-- A conversion that is noted on an expression does not change its tree. -/
@[simp] theorem Expr.map_widen (expr : Expr Mark) :
    expr.widen.map Mark.node = expr.map Mark.node := by
  cases expr <;> rfl

/-- A conversion that is noted on an expression is noted. -/
@[simp] theorem Expr.widened_widen (expr : Expr Mark) : expr.widen.note.widened = true := by
  cases expr <;> rfl

namespace Typing

/-- A conversion does not change the type that an expression had before. -/
theorem HasType.widen {table : SymbolTable} {expr : Expr Mark} {type : Ty}
    (typed : HasType table expr type) : HasType table expr.widen type := by
  cases typed with
  | literal noted => exact .literal noted
  | read found readable bound noted => exact .read found readable bound noted
  | not noted truth plain => exact .not noted truth plain
  | negate noted number typed plain => exact .negate noted number typed plain
  | binary noted leftTyped leftPlain rightTyped rightPlain fits =>
    exact .binary noted leftTyped leftPlain rightTyped rightPlain fits
  | call noted found bound signed fits => exact .call noted found bound signed fits

end Typing

namespace Check

open Typing

variable {limit : Nat} {table : SymbolTable}

/-- An expression that was checked is well typed and not converted. -/
structure Plain (table : SymbolTable) (checked : Typed) : Prop where
  /-- It is well typed. -/
  typed : HasType table checked.1 checked.2
  /-- It is not converted. -/
  plain : checked.1.note.widened = false

/-- What the check of an expression gives: the expression that was checked, with its type. -/
structure Checked (table : SymbolTable) (expr : Expr Node) (checked : Typed) : Prop
    extends Plain table checked where
  /-- It is the expression that was checked. -/
  same : checked.1.map Mark.node = expr

/-- Operands that fit an operator have the types of an operation. -/
theorem operation_of_fits {op : BinaryOp} {left right : Ty}
    (leftValue : left.isValue = true ∨ left = .void)
    (rightValue : right.isValue = true ∨ right = .void)
    (fits : (operationType op left right).2 = true) :
    Operation op left right (operationType op left right).1 := by
  have leftSound := Ty.isError_of_isValue leftValue
  have rightSound := Ty.isError_of_isValue rightValue
  unfold operationType at fits ⊢
  simp only [leftSound, rightSound, Bool.or_self, Bool.false_eq_true, if_false] at fits ⊢
  by_cases arithmetic : op.isArithmetic = true
  · simp only [arithmetic, if_true] at fits ⊢
    by_cases numeric : (left.isNumeric && right.isNumeric) = true
    · obtain ⟨leftNumber, rightNumber⟩ : left.isNumeric = true ∧ right.isNumeric = true := by
        simpa using numeric
      simp only [numeric, if_true]
      split
      · rename_i both
        obtain ⟨rfl, rfl⟩ := both
        exact .integers arithmetic
      · rename_i one
        refine .floats arithmetic leftNumber rightNumber ?_
        cases left <;> cases right <;> simp_all [Ty.isNumeric]
    · simp only [numeric, Bool.false_eq_true, if_false] at fits ⊢
      split
      · rename_i texts
        obtain ⟨rfl, rfl, rfl⟩ := texts
        exact .texts
      · rename_i other
        simp [other] at fits
  · simp only [arithmetic, Bool.false_eq_true, if_false] at fits ⊢
    by_cases order : op.isOrder = true
    · simp only [order, if_true, Bool.and_eq_true] at fits ⊢
      exact .order order fits.1 fits.2
    · simp only [order, Bool.false_eq_true, if_false] at fits ⊢
      by_cases equality : op.isEquality = true
      · simp only [equality, if_true, Bool.and_eq_true, bne_iff_ne, ne_eq] at fits ⊢
        obtain ⟨common, valued⟩ := fits
        unfold Ty.common? at common
        split at common
        · rename_i same
          subst same
          exact .same equality (leftValue.resolve_right valued)
        · split at common
          · rename_i numeric
            obtain ⟨leftNumber, rightNumber⟩ : left.isNumeric = true ∧ right.isNumeric = true := by
              simpa using numeric
            exact .numbers equality leftNumber rightNumber
          · cases common
      · simp only [equality, Bool.false_eq_true, if_false, Bool.and_eq_true, beq_iff_eq] at fits ⊢
        obtain ⟨rfl, rfl⟩ := fits
        refine .truths ?_
        cases op <;> simp_all [BinaryOp.isArithmetic, BinaryOp.isOrder, BinaryOp.isEquality]

/-- An operator gives the type of an operation. -/
theorem yields_operation (node : Node) (op : BinaryOp) (left right : Ty) :
    Yields limit (operation node op left right) fun type =>
      (left.isValue = true ∨ left = .void) → (right.isValue = true ∨ right = .void) →
        Operation op left right type := by
  refine Yields.requires (.report _ _ _ _) fun _ => .pure ?_
  intro fits leftValue rightValue
  exact operation_of_fits leftValue rightValue fits

/-- A right operand that waits for its left operand is taken up after it. -/
theorem yields_takeUp_cons {pending : Pending} {outer : List Pending} {left : Typed}
    {leftTree right : Expr Node} {property : Typed → Prop}
    (operand : Yields limit pending.right fun checked => table.Proper → Checked table right checked)
    (resume : ∀ next, Yields limit (takeUp outer next) fun result =>
      Checked table (.binary pending.node pending.op leftTree right) next → property result) :
    Yields limit (takeUp (pending :: outer) left) fun result =>
      Checked table leftTree left → table.Proper → property result := by
  unfold takeUp
  refine .bind operand fun checked => ?_
  refine .bind (yields_operation _ _ _ _) fun type => ?_
  refine (resume _).mono fun result holds fits rightKnown leftChecked proper => holds ?_
  have rightChecked := rightKnown proper
  have operation := fits (leftChecked.typed.isValue_or_void proper)
    (rightChecked.typed.isValue_or_void proper)
  refine ⟨⟨.binary rfl leftChecked.typed leftChecked.plain rightChecked.typed rightChecked.plain
    operation, rfl⟩, ?_⟩
  rw [Expr.map, leftChecked.same, rightChecked.same]
  rfl

/-- A name that is read stands for a variable. -/
theorem yields_reading (depth : Depth) (ident : Ident Node) :
    Yields limit (reading table depth ident) (Checked table (.read ident)) := by
  unfold reading
  refine .bind (.find table depth ident.name) fun found => ?_
  cases found with
  | none => exact .reported fun _ => .pure trivial
  | some symbol =>
    by_cases callable : symbol.kind.isFunction = true
    · simp only [callable, if_true]
      exact .reported fun _ => .pure trivial
    · simp only [callable, Bool.false_eq_true, if_false]
      refine .pure fun found => ⟨⟨.read found ?_ rfl rfl, rfl⟩, rfl⟩
      simpa using callable

/-- An operator in front of an operand gives the type of the operand, and negation takes truth
values. -/
theorem yields_signType (table : SymbolTable) (node : Node) (op : UnaryOp) (operand : Typed)
    (tree : Expr Node) :
    Yields limit (signType node op operand.2) fun type =>
      table.Proper → Checked table tree operand →
        Checked table (.unary node op tree) (.unary (.typed node type) op operand.1, type) := by
  cases op with
  | not =>
    refine Yields.requires (.report _ _ _ _) fun _ => .pure fun fits proper known => ?_
    have sound := Ty.isError_of_isValue (known.typed.isValue_or_void proper)
    have truth : operand.2 = .bool := by simpa [sound] using fits
    refine ⟨⟨.not rfl (truth ▸ known.typed) known.plain, rfl⟩, ?_⟩
    rw [Expr.map, known.same]
    rfl
  | negate =>
    unfold signType
    by_cases fits : (operand.2.isError || operand.2.isNumeric) = true
    · simp only [fits, if_true]
      refine .pure fun proper known => ?_
      have sound := Ty.isError_of_isValue (known.typed.isValue_or_void proper)
      have number : operand.2.isNumeric = true := by simpa [sound] using fits
      refine ⟨⟨.negate rfl number known.typed known.plain, rfl⟩, ?_⟩
      rw [Expr.map, known.same]
      rfl
    · simp only [fits, Bool.false_eq_true, if_false]
      exact .reported fun _ => .pure trivial

/-- A value that is accepted in a place fits it, with its conversion noted. -/
theorem fits_of_accepts (proper : table.Proper) {place : Ty}
    (holds : place.isValue = true ∨ place = .any) {value : Typed} (known : Plain table value)
    (accepted : place.accepts value.2 = true) :
    Fits table place (if place.widens value.2 then value.1.widen else value.1) := by
  have valued := known.typed.isValue_or_void proper
  by_cases widens : place.widens value.2 = true
  · rw [if_pos widens]
    simp only [Ty.widens, Bool.and_eq_true, beq_iff_eq] at widens
    obtain ⟨rfl, isInt⟩ := widens
    exact .widened (isInt ▸ known.typed).widen (Expr.widened_widen _)
  · rw [if_neg widens]
    rcases holds with isValue | rfl
    · have same : value.2 = place := by
        generalize value.2 = type at accepted widens valued
        cases place <;> cases type <;> simp_all [Ty.accepts, Ty.widens, Ty.isValue]
      exact .same (same ▸ known.typed) isValue known.plain
    · have present : value.2 ≠ .void := by simpa [Ty.accepts] using accepted
      exact .any known.typed (valued.resolve_right present) known.plain

/-- A value that is put in a place fits it. -/
theorem yields_put (table : SymbolTable) (place : Ty) (value : Typed) (cause : Cause)
    (span : Source.Span) (kind : Kind) (construct : Source.Span) :
    Yields limit (put place value cause span kind construct) fun expr =>
      table.Proper → place.isValue = true ∨ place = .any → Plain table value →
        Fits table place expr ∧ expr.map Mark.node = value.1.map Mark.node := by
  unfold put
  by_cases error : (value.2.isError || place.isError) = true
  · simp only [error, if_true]
    refine .pure fun proper holds known => ?_
    have sound := Ty.isError_of_isValue (known.typed.isValue_or_void proper)
    cases place <;> simp_all [Ty.isValue, Ty.isError]
  · simp only [error, Bool.false_eq_true, if_false]
    by_cases accepted : place.accepts value.2 = true
    · simp only [accepted, Bool.not_true, Bool.false_eq_true, if_false]
      refine .pure fun proper holds known => ⟨fits_of_accepts proper holds known accepted, ?_⟩
      split
      · exact Expr.map_widen value.1
      · rfl
    · simp only [accepted, Bool.not_false, if_true]
      exact .reported fun _ => .pure trivial

/-- Arguments that are put into parameters fit them. -/
theorem yields_putArguments (table : SymbolTable) (callee : String)
    (params : List (String × Ty)) (arguments : List Typed) :
    Yields limit (putArguments callee params arguments) fun exprs =>
      table.Proper → (∀ param ∈ params, param.2.isValue = true ∨ param.2 = .any) →
        (∀ argument ∈ arguments, Plain table argument) → arguments.length = params.length →
          Arguments table params exprs ∧
            Expr.mapAll Mark.node exprs = Expr.mapAll Mark.node (arguments.map (·.1)) := by
  induction params generalizing arguments with
  | nil =>
    refine .pure fun _ _ _ same => ?_
    obtain rfl := List.length_eq_zero_iff.1 same
    exact ⟨.nil, rfl⟩
  | cons param params ih =>
    cases arguments with
    | nil => exact .pure fun _ _ _ same => nomatch same
    | cons first rest =>
      refine .bind (yields_put table param.2 first _ _ _ _) fun expr => ?_
      refine .bind (ih rest) fun others => ?_
      refine .pure fun restFits firstFits proper holds known same => ?_
      obtain ⟨fits, firstSame⟩ :=
        firstFits proper (holds param List.mem_cons_self) (known first List.mem_cons_self)
      obtain ⟨othersFit, othersSame⟩ :=
        restFits proper (fun other inside => holds other (List.mem_cons_of_mem _ inside))
          (fun other inside => known other (List.mem_cons_of_mem _ inside)) (Nat.succ.inj same)
      refine ⟨.cons fits othersFit, ?_⟩
      rw [Expr.mapAll, firstSame, othersSame]
      rfl

/-- A call whose arguments fit the parameters of the function is well typed. -/
theorem yields_finishCall (table : SymbolTable) (node : Node) (callee : Ident Node)
    (found : Option Symbol) (arguments : List Typed) :
    Yields limit (finishCall node callee found arguments) fun checked =>
      table.Proper → table.lookup? callee.name = found →
        (∀ argument ∈ arguments, Plain table argument) →
          Checked table (.call node callee (Expr.mapAll Mark.node (arguments.map (·.1))))
            checked := by
  unfold finishCall
  cases found with
  | none => exact .reported fun _ => .pure trivial
  | some symbol =>
    cases signed : symbol.signature with
    | none =>
      simp only [signed]
      exact .reported fun _ => .pure trivial
    | some signature =>
      simp only [signed]
      by_cases arity : arguments.length = signature.params.length
      · simp only [arity, ne_eq, not_true_eq_false, if_false]
        refine .bind (yields_putArguments table callee.name signature.params arguments) fun exprs => ?_
        refine .pure fun fit proper found known => ?_
        have signatureProper := (proper.lookup? found).signature signed
        obtain ⟨fits, same⟩ := fit proper signatureProper.params known arity
        refine ⟨⟨.call rfl found rfl signed fits, rfl⟩, ?_⟩
        rw [Expr.map, same]
        rfl
      · simp only [arity, ne_eq, not_false_eq_true, if_true]
        exact .reported fun _ => .pure trivial

mutual

/-- The check of an expression goes on with the expression and its type. -/
theorem yields_spine {property : Typed → Prop} :
    ∀ (depth : Depth) (pending : List Pending) (expr : Expr Node),
      (∀ checked, Yields limit (takeUp pending checked) fun result =>
        Checked table expr checked → property result) →
      Yields limit (spine table depth pending expr) fun result => table.Proper → property result
  | depth, pending, .literal node value lexeme, resume => by
    unfold spine
    refine .andThen (.descend 2 depth) ((resume _).mono fun _ holds _ => holds ?_)
    exact ⟨⟨.literal rfl, rfl⟩, rfl⟩
  | depth, pending, .read ident, resume => by
    unfold spine
    refine .bind (.descend 2 depth) fun inner => ?_
    refine .bind (yields_reading inner ident) fun checked => ?_
    exact (resume checked).mono fun _ holds known _ _ => holds known
  | depth, pending, .unary node op operand, resume => by
    unfold spine
    refine .bind (.descend 2 depth) fun inner => ?_
    refine .bind (yields_spine inner [] operand fun _ => .pure fun known => known) fun checked => ?_
    refine .bind (yields_signType table node op checked operand) fun type => ?_
    exact (resume _).mono fun _ holds signed known _ proper => holds (signed proper (known proper))
  | depth, pending, .binary node op left right, resume => by
    unfold spine
    have below : ∀ inner, Yields limit (spine table inner
        (⟨node, op, spine table inner [] right⟩ :: pending) left)
        fun result => table.Proper → property result := fun inner =>
      (yields_spine inner _ left fun _ => yields_takeUp_cons
        (yields_spine inner [] right fun _ => .pure fun known => known) resume).mono
        fun _ holds proper => holds proper proper
    split
    · exact .bind (.descend 2 depth) fun inner => (below inner).mono fun _ holds _ => holds
    · have given : Yields limit (pure depth) fun _ => True := .pure trivial
      exact .bind given fun inner => (below inner).mono fun _ holds _ => holds
  | depth, pending, .call node callee arguments, resume => by
    unfold spine
    refine .bind (.descend 2 depth) fun inner => ?_
    refine .bind (.find table inner callee.name) fun found => ?_
    refine .bind (yields_exprs inner arguments) fun checked => ?_
    refine .bind (yields_finishCall table node callee found checked) fun finished => ?_
    refine (resume finished).mono fun _ holds fits known found _ proper => holds ?_
    obtain ⟨plain, same⟩ := known proper
    exact same ▸ fits proper found plain

/-- The check of arguments gives the arguments and their types. -/
theorem yields_exprs : ∀ (depth : Depth) (exprs : List (Expr Node)),
    Yields limit (Check.exprs table depth exprs) fun checked => table.Proper →
      (∀ argument ∈ checked, Plain table argument) ∧
        Expr.mapAll Mark.node (checked.map (·.1)) = exprs
  | _, [] => .pure fun _ => ⟨by simp, rfl⟩
  | depth, expr :: rest => by
    unfold Check.exprs
    refine .bind (.descend 1 depth) fun inner => ?_
    refine .bind (yields_spine inner [] expr fun _ => .pure fun known => known) fun first => ?_
    refine .bind (yields_exprs depth rest) fun others => .pure fun restKnown firstKnown _ proper => ?_
    obtain ⟨plain, same⟩ := restKnown proper
    have known := firstKnown proper
    refine ⟨fun argument inside => ?_, ?_⟩
    · rcases List.mem_cons.1 inside with rfl | later
      · exact known.toPlain
      · exact plain argument later
    · rw [List.map_cons, Expr.mapAll, known.same, same]

end

/-- The check of an expression gives the expression and its type. -/
theorem yields_expr (depth : Depth) (expr : Expr Node) :
    Yields limit (Check.expr table depth expr) fun checked =>
      table.Proper → Checked table expr checked :=
  yields_spine depth [] expr fun _ => .pure fun known => known

end Check

end Lag
