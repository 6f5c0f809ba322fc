import Lag.Proofs.Reading.Written
import Lag.Proofs.Typing.Chains
import Lag.Proofs.Writing.Walk

/-!
# Chains of operators are written like trees

The walk takes up the operators of a chain in a loop, and the text of a lowered expression is put
together in another. Here are both without a loop: the left operand in its parentheses, then the
operator, then the right operand in its own. They give the same text, and the walk names the same
symbols in the same order, looks up the same and fails at the same place.
-/
namespace Lag

mutual

/-- Write an expression part by part: the operands of an operator from the left to the right, each
in parentheses where its text binds too weakly, and then what joins them. -/
def Expr.writeByParts : Expr Mark → Writer String
  | .literal mark value _ => do
    let text ← value.write
    pure (mark.wrap text)
  | .read ident => do
    let name ← nameOf ident.note
    pure (ident.note.wrap name)
  | .unary mark op operand => do
    let text ← operand.writeByParts
    pure (mark.wrap (op.hostText ++ Host.atLevel op.hostLevel operand.hostLevel text))
  | .binary mark op left right => do
    let first ← left.writeByParts
    let second ← right.writeByParts
    let operator ← writeOperator op left right
    pure (mark.wrap
      (Host.atLevel (op.lower false).leftLevel left.hostLevel first ++ " " ++ operator.spelling ++
        " " ++ Host.atLevel (op.lower false).rightLevel right.hostLevel second))
  | .call mark callee arguments => do
    let texts ← Expr.writeAllByParts arguments
    let text ← callee.writeCall texts
    pure (mark.wrap text)

/-- Write expressions part by part. -/
def Expr.writeAllByParts : List (Expr Mark) → Writer (List String)
  | [] => pure []
  | expr :: rest => do
    let text ← expr.writeByParts
    let texts ← Expr.writeAllByParts rest
    pure (text :: texts)

end

/-- Where nothing waits a text is given at once. -/
theorem takeUp_nil (level : Host.Level) : takeUp [] level = pure := rfl

mutual

/-- The loop over a chain writes the chain part by part, and then takes up what waits for it. -/
theorem Expr.writeSpine_eq : ∀ (expr : Expr Mark) (waiting : List Waiting),
    expr.writeSpine waiting = expr.writeByParts >>= takeUp waiting expr.hostLevel
  | .literal mark value lexeme, waiting => by
    have level : (Expr.literal mark value lexeme).hostLevel = Host.atomLevel := ite_self _
    rw [writeSpine, writeByParts, bind_assoc, level]
    simp only [pure_bind]
  | .read ident, waiting => by
    have level : (Expr.read ident).hostLevel = Host.atomLevel := ite_self _
    rw [writeSpine, writeByParts, bind_assoc, level]
    simp only [pure_bind]
  | .unary mark op operand, waiting => by
    have inner : operand.writeSpine [] = operand.writeByParts := by
      rw [writeSpine_eq operand, takeUp_nil, bind_pure]
    rw [writeSpine, writeByParts, bind_assoc, inner]
    simp only [pure_bind]
    rfl
  | .binary mark op left right, waiting => by
    have second : right.writeSpine [] = right.writeByParts := by
      rw [writeSpine_eq right, takeUp_nil, bind_pure]
    rw [writeSpine, writeByParts, second]
    cases widened : mark.widened with
    | false =>
      -- the operation joins the chain that it is in, with the level of its operator
      have level : (Expr.binary mark op left right).hostLevel = (op.lower false).level := by
        rw [hostLevel, Expr.note, widened]
        rfl
      have plain : ∀ text, mark.wrap text = text := fun text => by
        rw [Mark.wrap, widened]
        rfl
      simp only [writeSpine_eq left, bind_assoc, pure_bind, takeUp, level, plain]
      rfl
    | true =>
      -- the conversion cuts the chain: the operation is an atom for what waits for it
      have level : (Expr.binary mark op left right).hostLevel = Host.atomLevel := by
        rw [hostLevel, Expr.note, widened]
        rfl
      simp only [writeSpine_eq left, bind_assoc, pure_bind, takeUp, level]
      rfl
  | .call mark callee arguments, waiting => by
    have level : (Expr.call mark callee arguments).hostLevel = Host.atomLevel := ite_self _
    rw [writeSpine, writeByParts, writeAll_eq arguments, bind_assoc, level]
    simp only [bind_assoc, pure_bind]

/-- Expressions are written part by part. -/
theorem Expr.writeAll_eq : ∀ exprs : List (Expr Mark),
    Expr.writeAll exprs = Expr.writeAllByParts exprs
  | [] => rfl
  | expr :: rest => by
    have first : expr.writeSpine [] = expr.writeByParts := by
      rw [writeSpine_eq expr, takeUp_nil, bind_pure]
    rw [writeAll, writeAllByParts, first, writeAll_eq rest]

end

/-- An expression is written part by part. -/
theorem Expr.write_eq (expr : Expr Mark) : expr.write = expr.writeByParts := by
  rw [write, writeSpine_eq, takeUp_nil, bind_pure]

/-! ## Lowered expressions -/

namespace Host

mutual

/-- The text of an expression part by part. -/
def Expr.textByParts : Expr → String
  | .int value => toString value
  | .float value => Number.floatText value
  | .text value => Text.quoted value
  | .truth value => if value then "True" else "False"
  | .read name => name
  | .not operand => "not " ++ atLevel notLevel operand.level operand.textByParts
  | .negate operand => "-" ++ atLevel negateLevel operand.level operand.textByParts
  | .binary op left right =>
    atLevel op.leftLevel left.level left.textByParts ++ " " ++ op.spelling ++ " " ++
      atLevel op.rightLevel right.level right.textByParts
  | .call function arguments =>
    function ++ "(" ++ ", ".intercalate (Expr.textsByParts arguments) ++ ")"
  | .builtin function arguments => builtinText function (Expr.textsByParts arguments)
  | .toFloat value => "float(" ++ value.textByParts ++ ")"

/-- The texts of expressions part by part. -/
def Expr.textsByParts : List Expr → List String
  | [] => []
  | expr :: rest => expr.textByParts :: Expr.textsByParts rest

end

mutual

/-- The loop over a chain puts its text together part by part. -/
theorem Expr.toText_eq : ∀ expr : Expr, expr.toText = expr.textByParts
  | .int _ | .float _ | .text _ | .truth _ | .read _ => rfl
  | .not operand => by
    rw [textByParts, ← toText_eq operand]
    rfl
  | .negate operand => by
    rw [textByParts, ← toText_eq operand]
    rfl
  | .binary op left right => by
    rw [toText_binary, textByParts, toText_eq left, toText_eq right]
  | .call function arguments => by
    rw [textByParts, ← texts_eq arguments]
    rfl
  | .builtin function arguments => by
    rw [textByParts, ← texts_eq arguments]
    rfl
  | .toFloat value => by
    rw [textByParts, ← toText_eq value]
    rfl

/-- The texts of arguments are put together part by part. -/
theorem Expr.texts_eq : ∀ exprs : List Expr, Expr.texts exprs = Expr.textsByParts exprs
  | [] => rfl
  | expr :: rest => by
    rw [textsByParts, ← toText_eq expr, ← texts_eq rest]
    rfl

end

end Host

/-- The loops over chains of operators do what goes down into both operands does, for trees of every
shape. From every table and journal the check gives the same types, marks and failures; with a
limited number of steps it gives these or runs out of steps. From every page the walk gives the same
text and names the same symbols, and lowered expressions have the same text. -/
theorem chains_by_parts :
    (∀ (table : SymbolTable) (expr : Expr Node),
      Check.expr table none expr = Check.byParts table expr) ∧
    (∀ (table : SymbolTable) (depth : Check.Depth) (expr : Expr Node),
      Check.Agrees (Check.expr table depth expr) (Check.byParts table expr)) ∧
    (∀ expr : Expr Mark, expr.write = expr.writeByParts) ∧
    ∀ expr : Host.Expr, expr.toText = expr.textByParts :=
  ⟨Check.expr_eq, Check.agrees_expr, Expr.write_eq, Host.Expr.toText_eq⟩

/-- A sum whose left operand is a difference, with a negated sum on its right. -/
example : (Host.Expr.binary .add
      (.binary .subtract (.int 1) (.negate (.binary .add (.int 2) (.int 3)))) (.int 4)).toText =
    "1 - -(2 + 3) + 4" := by
  decide

end Lag
