import Lag.Proofs.Reading.Written
import Lag.Proofs.Token.Lengths
import Lag.Proofs.Typing.Proper
import Lag.Proofs.Writing.Effects

/-!
# Expressions are written

The walk over a well typed expression finds every symbol and type that it looks up, and it writes
the text of the lowered expression. The operators that wait for a left operand are taken up after
it, whatever it is, so the loop over a chain writes what the tree of the chain says.
-/
namespace Lag

open Host (Names Level Operator)
open Typing (Arguments Fits HasType)

/-! ## Levels -/

/-- Whole and other quotients are on one level. -/
theorem BinaryOp.level_lower (op : BinaryOp) (integers : Bool) :
    (op.lower integers).level = (op.lower false).level := by
  cases op <;> first | rfl | cases integers <;> rfl

/-- Whole and other quotients ask the same of their left operands. -/
theorem BinaryOp.leftLevel_lower (op : BinaryOp) (integers : Bool) :
    (op.lower integers).leftLevel = (op.lower false).leftLevel := by
  rw [Operator.leftLevel, Operator.leftLevel, op.level_lower integers]

/-- Whole and other quotients ask the same of their right operands. -/
theorem BinaryOp.rightLevel_lower (op : BinaryOp) (integers : Bool) :
    (op.lower integers).rightLevel = (op.lower false).rightLevel := by
  rw [Operator.rightLevel, Operator.rightLevel, op.level_lower integers]

/-- A converted expression binds like a call. -/
theorem Mark.level_convert (mark : Mark) (expr : Host.Expr) :
    (mark.convert expr).level = if mark.widened then Host.atomLevel else expr.level := by
  unfold Mark.convert
  split <;> rfl

/-- A converted expression is written inside its conversion. -/
theorem Mark.toText_convert (mark : Mark) (expr : Host.Expr) :
    (mark.convert expr).toText = mark.wrap expr.toText := by
  unfold Mark.convert Mark.wrap
  split <;> rfl

/-- A literal binds like a call. -/
theorem Literal.level_lower (value : Literal) : value.lower.level = Host.atomLevel := by
  cases value with
  | float value =>
    show Host.Expr.level (if value == Number.infinity then _ else _) = _
    split <;> rfl
  | int _ | string _ | bool _ => rfl

/-- A call binds like a name. -/
theorem Ident.level_lowerCall (names : Names) (callee : Ident Mark) (arguments : List Host.Expr) :
    (callee.lowerCall names arguments).level = Host.atomLevel := by
  unfold Ident.lowerCall
  split
  · split <;> rfl
  · rfl

/-- The level of an expression is that of its lowered expression. -/
theorem Expr.hostLevel_eq (names : Names) (expr : Expr Mark) :
    expr.hostLevel = (expr.lower names).level := by
  cases expr with
  | literal mark value _ =>
    rw [Expr.lower, Mark.level_convert, Literal.level_lower]
    rfl
  | read ident =>
    rw [Expr.lower, Mark.level_convert]
    rfl
  | unary mark op operand =>
    cases op with
    | not =>
      rw [Expr.lower, Mark.level_convert]
      rfl
    | negate =>
      rw [Expr.lower, Mark.level_convert]
      rfl
  | binary mark op left right =>
    rw [Expr.lower, Mark.level_convert, Host.Expr.level, op.level_lower]
    rfl
  | call mark callee arguments =>
    rw [Expr.lower, Mark.level_convert, Ident.level_lowerCall]
    rfl

/-! ## Parts of expressions -/

variable {page : Page} {all : Names} {table : SymbolTable}

/-- A literal that was read is written like its lowered expression. -/
theorem Literal.on_write {value : Literal} (written : Scan.IsWritten value) :
    value.write.on page = some (.ok (value.lower.toText, page)) := by
  cases value with
  | int number =>
    rw [Literal.write, if_pos written.short]
    rfl
  | float number =>
    show _ = some (Except.ok (Host.Expr.toText (if number == Number.infinity then _ else _), page))
    rw [Literal.write, Writer.on_pure]
    split <;> rfl
  | string _ | bool _ => rfl

/-- The operator between two expressions that have types is found. -/
theorem on_writeOperator {op : BinaryOp} {left right : Expr Mark} {leftType rightType : Ty}
    (leftNoted : left.note.type = some leftType) (rightNoted : right.note.type = some rightType) :
    (writeOperator op left right).on page =
      some (.ok (op.lower (left.isInt && right.isInt), page)) := by
  have leftIs : (typeOf left).on page = some (.ok (leftType, page)) := by
    simp only [typeOf, leftNoted, Writer.on_pure]
  have rightIs : (typeOf right).on page = some (.ok (rightType, page)) := by
    simp only [typeOf, rightNoted, Writer.on_pure]
  unfold writeOperator
  split
  · rw [Writer.on_bind leftIs, Expr.isInt, Expr.isInt, leftNoted, rightNoted]
    split
    · rename_i whole
      rw [Writer.on_bind rightIs, Writer.on_pure, whole, Option.some_beq_some, Option.some_beq_some,
        beq_self_eq_true, Bool.true_and, Bool.beq_eq_decide_eq]
    · rename_i other
      have unequal : (some leftType == some Ty.int) = false := by
        rw [Option.some_beq_some, beq_eq_false_iff_ne]
        exact other
      rw [Writer.on_pure, unequal, Bool.false_and]
  · rename_i other
    rw [Writer.on_pure]
    cases op <;> first | rfl | exact absurd rfl other

/-- A call of what a scope knows is written like its lowered expression. -/
theorem on_writeCall (part : page.names.Part all) {callee : Ident Mark} {symbol : Symbol}
    (named : symbol.Named page.names) (bound : callee.note.symbol = some symbol)
    {arguments : List Host.Expr}
    (filled : ∀ builtin : Builtin, symbol = builtin.symbol → arguments ≠ []) :
    (callee.writeCall (Host.Expr.texts arguments)).on page =
      some (.ok ((callee.lowerCall all arguments).toText, page)) := by
  rw [Ident.writeCall, Writer.on_bind (on_symbolOf bound page)]
  by_cases isBuiltin : symbol.kind = .builtin
  · rcases named with ⟨plain, _⟩ | ⟨builtin, rfl⟩
    · exact absurd isBuiltin plain
    · have isCall : callee.lowerCall all arguments = .builtin builtin arguments := by
        unfold Ident.lowerCall
        rw [bound]
        cases builtin <;> rfl
      obtain ⟨first, rest, rfl⟩ := List.exists_cons_of_ne_nil (filled builtin rfl)
      rw [if_pos isBuiltin, isCall]
      simp only [Builtin.symbol, Builtin.ofName?_name, Host.Expr.texts]
      rfl
  · have isCall : callee.lowerCall all arguments = .call (all.find symbol) arguments := by
      unfold Ident.lowerCall Ident.lower
      rw [bound]
      obtain ⟨name, kind, _, _, _, _, _⟩ := symbol
      cases kind with
      | builtin => exact absurd rfl isBuiltin
      | _ => rfl
    rw [if_neg isBuiltin, isCall, Writer.on_bind (on_useName part named isBuiltin)]
    rfl

namespace Typing

mutual

/-- A well typed expression is written, and the operators that wait for it are taken up after its
text. -/
theorem HasType.on_writeSpine (named : table.Holds (·.Named page.names))
    (part : page.names.Part all) : ∀ {expr : Expr Mark} {type : Ty}, HasType table expr type →
      expr.Regular → ∀ waiting : List Waiting,
        (expr.writeSpine waiting).on page =
          (takeUp waiting (expr.lower all).level (expr.lower all).toText).on page
  | .literal mark value _, _, _, regular, waiting => by
    rw [Expr.writeSpine, Writer.on_bind (Literal.on_write regular), Expr.lower,
      Mark.level_convert, Mark.toText_convert, Literal.level_lower, ite_self]
  | .read ident, _, .read found readable bound _, _, waiting => by
    have plain : ∀ kind : SymbolKind, kind.isFunction = false → kind ≠ .builtin := by
      rintro _ reads rfl
      cases reads
    rw [Expr.writeSpine, Writer.on_bind (on_nameOf part bound (named.lookup? found)
      (plain _ readable) ident.name), Expr.lower, Mark.level_convert, Mark.toText_convert]
    have atom : (Host.Expr.read (ident.lower all)).level = Host.atomLevel := rfl
    rw [atom, ite_self]
    rfl
  | .unary mark .not operand, _, .not _ truth _, regular, waiting => by
    have text := (truth.on_writeSpine named part regular []).trans (Writer.on_pure _)
    rw [Expr.writeSpine, Writer.on_bind text, Expr.lower, Mark.level_convert,
      Mark.toText_convert, Expr.hostLevel_eq all]
    rfl
  | .unary mark .negate operand, _, .negate _ _ number _, regular, waiting => by
    have text := (number.on_writeSpine named part regular []).trans (Writer.on_pure _)
    rw [Expr.writeSpine, Writer.on_bind text, Expr.lower, Mark.level_convert,
      Mark.toText_convert, Expr.hostLevel_eq all]
    rfl
  | .binary mark op left right, _, .binary _ leftTyped _ rightTyped _ _, regular, waiting => by
    have rightText := (rightTyped.on_writeSpine named part regular.2 []).trans (Writer.on_pure _)
    have operator : (writeOperator op left right).on page =
        some (.ok (op.lower (left.isInt && right.isInt), page)) :=
      on_writeOperator leftTyped.noted rightTyped.noted
    -- The operator waits for the left operand, and takes it up together with the right one.
    have takes : ∀ rest : List Waiting, (left.writeSpine ({
        op
        right := do
          let text ← right.writeSpine []
          pure (Host.atLevel (op.lower false).rightLevel right.hostLevel text)
        operator := writeOperator op left right } :: rest)).on page =
        (takeUp rest (op.lower false).level (Host.Expr.binary (op.lower (left.isInt && right.isInt))
          (left.lower all) (right.lower all)).toText).on page := by
      intro rest
      rw [leftTyped.on_writeSpine named part regular.1, takeUp]
      have place : Writer.on (do
          let text ← right.writeSpine []
          pure (Host.atLevel (op.lower false).rightLevel right.hostLevel text)) page =
          some (.ok (Host.atLevel (op.lower false).rightLevel (right.lower all).level
            (right.lower all).toText, page)) := by
        rw [Writer.on_bind rightText, Expr.hostLevel_eq all, Writer.on_pure]
      rw [Writer.on_bind place, Writer.on_bind operator, Host.Expr.toText_binary,
        op.leftLevel_lower (left.isInt && right.isInt),
        op.rightLevel_lower (left.isInt && right.isInt)]
    rw [Expr.lower, Mark.level_convert, Mark.toText_convert, Host.Expr.level, op.level_lower]
    rw [Expr.writeSpine]
    split
    · rw [Writer.on_bind ((takes []).trans (Writer.on_pure _))]
    · rename_i plain
      rw [takes waiting, Mark.wrap, if_neg plain]
  | .call mark callee arguments, _, @HasType.call _ _ _ _ symbol _ _ found bound signed fits, regular,
      waiting => by
    have texts := fits.on_writeAll named part regular
    have known := named.lookup? found
    have filled : ∀ builtin : Builtin, symbol = builtin.symbol →
        Expr.lowerAll all arguments ≠ [] := by
      rintro builtin rfl
      intro none
      have many := fits.length
      cases arguments with
      | nil => cases signed; cases builtin <;> cases many
      | cons first rest => exact absurd none (List.cons_ne_nil _ _)
    rw [Expr.writeSpine, Writer.on_bind texts, Writer.on_bind (on_writeCall part known bound filled),
      Expr.lower, Mark.level_convert, Mark.toText_convert, Ident.level_lowerCall, ite_self]

/-- Arguments are written like their lowered expressions. -/
theorem Arguments.on_writeAll (named : table.Holds (·.Named page.names))
    (part : page.names.Part all) : ∀ {exprs : List (Expr Mark)} {params : List (String × Ty)},
      Arguments table params exprs → Expr.AllRegular exprs →
        (Expr.writeAll exprs).on page =
          some (.ok (Host.Expr.texts (Expr.lowerAll all exprs), page))
  | [], _, _, _ => rfl
  | _ :: _, _, .cons fits others, regular => by
    obtain ⟨_, typed⟩ := fits.typed
    have first := (typed.on_writeSpine named part regular.1 []).trans (Writer.on_pure _)
    have later := others.on_writeAll named part regular.2
    rw [Expr.writeAll, Writer.on_bind first, Writer.on_bind later]
    rfl

end

/-- A well typed expression is written like its lowered expression. -/
theorem HasType.on_write (named : table.Holds (·.Named page.names)) (part : page.names.Part all)
    {expr : Expr Mark} {type : Ty} (typed : HasType table expr type) (regular : expr.Regular) :
    expr.write.on page = some (.ok ((expr.lower all).toText, page)) :=
  (typed.on_writeSpine named part regular []).trans (Writer.on_pure _)

/-- An expression that fits a place is written like its lowered expression. -/
theorem Fits.on_write (named : table.Holds (·.Named page.names)) (part : page.names.Part all)
    {place : Ty} {expr : Expr Mark} (fits : Fits table place expr) (regular : expr.Regular) :
    expr.write.on page = some (.ok ((expr.lower all).toText, page)) := by
  obtain ⟨_, typed⟩ := fits.typed
  exact typed.on_write named part regular

end Typing

end Lag
