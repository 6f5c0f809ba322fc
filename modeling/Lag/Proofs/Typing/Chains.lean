import Lag.Proofs.Typing.Journal
import Mathlib.Data.List.Forall2

/-!
# Chains of operators are checked like trees

The check takes up the operators of a chain in a loop. Here is the check without a loop, which goes
down into the left operand, then into the right one, and then joins them. Both do the same from
every journal: they note the same and report the same in the same order. The loop needs fewer steps
down; with a limited number of steps it gives what the other one gives, or it runs out of them.
-/
namespace Lag.Check

variable {α β : Type}

mutual

/-- Check an expression part by part: the parts of an operation from the left to the right, and then
what joins them. The steps down are not limited. -/
def byParts (table : SymbolTable) : Expr Node → Checker Typed
  | .literal node value lexeme =>
    return (.literal (.typed node value.type) value lexeme, value.type)
  | .read ident => reading table none ident
  | .unary node op operand => do
    let (operand, operandType) ← byParts table operand
    let type ← signType node op operandType
    return (.unary (.typed node type) op operand, type)
  | .binary node op left right => do
    let (left, leftType) ← byParts table left
    let (right, rightType) ← byParts table right
    let type ← operation node op leftType rightType
    return (.binary (.typed node type) op left right, type)
  | .call node callee arguments => do
    let checked ← allByParts table arguments
    finishCall node callee (table.lookup? callee.name) checked

/-- Check the arguments of a call part by part. -/
def allByParts (table : SymbolTable) : List (Expr Node) → Checker (List Typed)
  | [] => return []
  | expr :: rest => do
    let first ← byParts table expr
    return first :: (← allByParts table rest)

end

/-! ## Without a limit -/

/-- Where nothing is pending a result is given at once. -/
theorem takeUp_nil : takeUp [] = Pure.pure := rfl

mutual

/-- The loop over a chain checks the chain part by part, and then takes up what is pending. -/
theorem spine_eq (table : SymbolTable) : ∀ (expr : Expr Node) (pending : List Pending),
    spine table none pending expr = byParts table expr >>= takeUp pending
  | .literal node value lexeme, pending => by
    rw [byParts, pure_bind]
    rfl
  | .read ident, pending => by
    rw [byParts]
    rfl
  | .unary node op operand, pending => by
    have inner : spine table none [] operand = byParts table operand := by
      rw [spine_eq table operand, takeUp_nil, bind_pure]
    rw [byParts, bind_assoc, ← inner]
    simp only [bind_assoc, pure_bind]
    rfl
  | .binary node op left right, pending => by
    have operand : spine table none [] right = byParts table right := by
      rw [spine_eq table right, takeUp_nil, bind_pure]
    have entered : spine table none pending (.binary node op left right) =
        spine table none (⟨node, op, spine table none [] right⟩ :: pending) left := by
      cases pending <;> rfl
    rw [entered, spine_eq table left, byParts, bind_assoc, operand]
    simp only [bind_assoc, pure_bind]
    rfl
  | .call node callee arguments, pending => by
    rw [byParts, ← exprs_eq table arguments, bind_assoc]
    rfl

/-- Arguments are checked part by part. -/
theorem exprs_eq (table : SymbolTable) : ∀ arguments : List (Expr Node),
    exprs table none arguments = allByParts table arguments
  | [] => rfl
  | expr :: rest => by
    have first : spine table none [] expr = byParts table expr := by
      rw [spine_eq table expr, takeUp_nil, bind_pure]
    rw [allByParts, ← first, ← exprs_eq table rest]
    rfl

end

/-- An expression is checked part by part. -/
theorem expr_eq (table : SymbolTable) (expr : Expr Node) :
    Check.expr table none expr = byParts table expr := by
  rw [Check.expr, spine_eq, takeUp_nil, bind_pure]

/-! ## With a limit -/

/-- A check that gives what another one gives, from every journal and with the same journal after
it, as far as it gives anything. -/
def Agrees (check other : Checker α) : Prop :=
  ∀ (journal : Journal) (result : α) (after : Journal),
    check.run journal = (some result, after) → other.run journal = (some result, after)

namespace Agrees

variable {check other : Checker α} {next otherNext : α → Checker β}

/-- Every check agrees with itself. -/
theorem refl (check : Checker α) : Agrees check check := fun _ _ _ given => given

/-- Checks that go on in the same way with what they gave agree. -/
theorem bind (first : Agrees check other) (rest : ∀ found, Agrees (next found) (otherNext found)) :
    Agrees (check >>= next) (other >>= otherNext) := by
  intro journal result after given
  rw [run_bind] at given ⊢
  cases reached : check.run journal with
  | mk found middle =>
    rw [reached] at given
    cases found with
    | none => cases given
    | some found =>
      rw [first journal found middle reached]
      exact rest found middle result after given

/-- Where there are steps to go down, they do not matter. -/
theorem descend {steps : Nat} {depth : Depth} {next : Depth → Checker α}
    (rest : ∀ inner, Agrees (next inner) other) :
    Agrees (Check.descend steps depth >>= next) other := by
  cases depth with
  | none => exact rest none
  | some left =>
    intro journal result after given
    by_cases enough : steps ≤ left
    · rw [Check.descend, if_pos enough] at given
      exact rest _ journal result after given
    · rw [Check.descend, if_neg enough] at given
      cases given

/-- A search that ends finds what a name stands for. -/
theorem find (table : SymbolTable) (depth : Depth) (name : String) :
    Agrees (Check.find table depth name) (Check.find table none name) :=
  descend fun _ => refl _

/-- A name that is found is read. -/
theorem reading (table : SymbolTable) (depth : Depth) (ident : Ident Node) :
    Agrees (Check.reading table depth ident) (Check.reading table none ident) :=
  bind (find table depth ident.name) fun _ => refl _

end Agrees

/-- What is pending with a limit and without one: the same operations of agreeing operands. -/
structure Pending.Agrees (pending other : Pending) : Prop where
  /-- The operation is the same. -/
  node : pending.node = other.node
  /-- The operator is the same. -/
  op : pending.op = other.op
  /-- The operands agree. -/
  right : Check.Agrees pending.right other.right

/-- Agreeing operands are taken up. -/
theorem agrees_takeUp {pending others : List Pending}
    (same : pending.Forall₂ Pending.Agrees others) (left : Typed) :
    Agrees (takeUp pending left) (takeUp others left) := by
  induction same generalizing left with
  | nil => exact .refl _
  | @cons first other _ _ same _ ih =>
    obtain ⟨node, op, right⟩ := first
    obtain ⟨rfl, rfl, agrees⟩ := same
    exact .bind agrees fun _ => .bind (.refl _) fun _ => ih _

mutual

/-- An expression that is checked with a limited number of steps is checked as without a limit. -/
theorem agrees_spine (table : SymbolTable) : ∀ (depth : Depth) {pending others : List Pending},
    pending.Forall₂ Pending.Agrees others → ∀ expr : Expr Node,
      Agrees (spine table depth pending expr) (spine table none others expr)
  | depth, pending, others, same, .literal node value lexeme =>
    .descend fun _ => agrees_takeUp same _
  | depth, pending, others, same, .read ident =>
    .descend fun inner => .bind (.reading table inner ident) fun _ => agrees_takeUp same _
  | depth, pending, others, same, .unary node op operand =>
    .descend fun inner => .bind (agrees_spine table inner .nil operand) fun _ =>
      .bind (.refl _) fun _ => agrees_takeUp same _
  | depth, pending, others, same, .binary node op left right => by
    have waits : ∀ inner : Depth, Pending.Agrees ⟨node, op, spine table inner [] right⟩
        ⟨node, op, spine table none [] right⟩ :=
      fun inner => ⟨rfl, rfl, agrees_spine table inner .nil right⟩
    have below := fun inner => agrees_spine table inner (.cons (waits inner) same) left
    cases same with
    | nil => exact .descend below
    | cons => exact below depth
  | depth, pending, others, same, .call node callee arguments =>
    .descend fun inner => .bind (.find table inner callee.name) fun _ =>
      .bind (agrees_exprs table inner arguments) fun _ =>
        .bind (.refl _) fun _ => agrees_takeUp same _

/-- Arguments that are checked with a limited number of steps are checked as without a limit. -/
theorem agrees_exprs (table : SymbolTable) : ∀ (depth : Depth) (arguments : List (Expr Node)),
    Agrees (exprs table depth arguments) (exprs table none arguments)
  | _, [] => .refl _
  | depth, expr :: rest =>
    .descend fun inner => .bind (agrees_spine table inner .nil expr) fun _ =>
      .bind (agrees_exprs table depth rest) fun _ => .refl _

end

/-- An expression that is checked with a limited number of steps is checked part by part. -/
theorem agrees_expr (table : SymbolTable) (depth : Depth) (expr : Expr Node) :
    Agrees (Check.expr table depth expr) (byParts table expr) := by
  rw [← expr_eq]
  exact agrees_spine table depth .nil expr

end Lag.Check
