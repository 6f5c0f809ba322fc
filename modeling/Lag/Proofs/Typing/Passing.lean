import Lag.Check.Mark
import Lag.Proofs.Typing.Expressions
import Lag.Proofs.Typing.Journal

/-!
# Checks that pass

The typing rules say what some notes hold: the types of expressions, the symbols of names and of
declarations, and the conversions. They leave open what else a tree may note. Here trees are
trimmed to the notes that the rules speak of, so that a trimmed tree holds the types, the symbols
and the conversions of its derivation, and nothing more.

A well-typed expression passes its check: nothing is reported, and the check gives the expression
with the notes of the rules alone. The steps of these checks are not limited, since a check that
runs out of steps gives nothing.
-/
namespace Lag

namespace Mark

/-- The note of a value: its type, and whether it is converted. -/
def ofValue (mark : Mark) : Mark := ⟨mark.node, mark.type, none, mark.widened⟩

/-- The note of a function that is called: its symbol with the type of the symbol. -/
def ofCallee (mark : Mark) : Mark := ⟨mark.node, mark.symbol.map (·.type), mark.symbol, false⟩

/-- The note of a variable that is assigned to: its symbol and its type. -/
def ofTarget (mark : Mark) : Mark := ⟨mark.node, mark.type, mark.symbol, false⟩

/-- The note of a declaration: its symbol. -/
def ofDeclaration (mark : Mark) : Mark := ⟨mark.node, none, mark.symbol, false⟩

/-- The note of a construct that the rules note nothing on. -/
def ofPlace (mark : Mark) : Mark := .bare mark.node

end Mark

mutual

/-- An expression with the notes of the rules alone. -/
def Expr.trimmed : Expr Mark → Expr Mark
  | .literal mark value lexeme => .literal mark.ofValue value lexeme
  | .read ident => .read ident
  | .unary mark op operand => .unary mark.ofValue op operand.trimmed
  | .binary mark op left right => .binary mark.ofValue op left.trimmed right.trimmed
  | .call mark callee arguments =>
    .call mark.ofValue (callee.map Mark.ofCallee) (Expr.trimAll arguments)

/-- Expressions with the notes of the rules alone. -/
def Expr.trimAll : List (Expr Mark) → List (Expr Mark)
  | [] => []
  | expr :: rest => expr.trimmed :: Expr.trimAll rest

end

/-- A written type with the notes of the rules alone. -/
def TypeName.trimmed (type : TypeName Mark) : TypeName Mark := type.map Mark.ofPlace

/-- A declaration of a variable with the notes of the rules alone. -/
def Binding.trimmed (binding : Binding Mark) : Binding Mark :=
  ⟨binding.note.ofDeclaration, binding.name, binding.type.map TypeName.trimmed,
    binding.value.trimmed⟩

mutual

/-- A statement with the notes of the rules alone. -/
def Stmt.trimmed : Stmt Mark → Stmt Mark
  | .declare binding => .declare binding.trimmed
  | .assign mark target value => .assign mark.ofPlace (target.map Mark.ofTarget) value.trimmed
  | .leave mark value => .leave mark.ofPlace (value.map Expr.trimmed)
  | .evaluate mark value => .evaluate mark.ofPlace value.trimmed
  | .block mark body => .block mark.ofPlace (Stmt.trimAll body)
  | .ifThen mark test bodyMark body =>
    .ifThen mark.ofPlace test.trimmed bodyMark.ofPlace (Stmt.trimAll body)
  | .ifElse mark test bodyMark body otherwise =>
    .ifElse mark.ofPlace test.trimmed bodyMark.ofPlace (Stmt.trimAll body) otherwise.trimmed
  | .whileLoop mark test bodyMark body =>
    .whileLoop mark.ofPlace test.trimmed bodyMark.ofPlace (Stmt.trimAll body)
  | .forLoop mark counter first bound bodyMark body =>
    .forLoop mark.ofDeclaration counter first.trimmed bound.trimmed bodyMark.ofPlace
      (Stmt.trimAll body)

/-- Statements with the notes of the rules alone. -/
def Stmt.trimAll : List (Stmt Mark) → List (Stmt Mark)
  | [] => []
  | stmt :: rest => stmt.trimmed :: Stmt.trimAll rest

end

/-- A parameter with the notes of the rules alone. -/
def Param.trimmed (param : Param Mark) : Param Mark :=
  ⟨param.note.ofDeclaration, param.name, param.type.trimmed⟩

/-- A function with the notes of the rules alone. -/
def Function.trimmed (function : Function Mark) : Function Mark where
  note := function.note.ofDeclaration
  name := function.name
  params := function.params.map Param.trimmed
  result := function.result.map TypeName.trimmed
  bodyNote := function.bodyNote.ofPlace
  body := Stmt.trimAll function.body

/-- A declaration with the notes of the rules alone. -/
def Declaration.trimmed : Declaration Mark → Declaration Mark
  | .function declared => .function declared.trimmed
  | .binding declared => .binding declared.trimmed

/-- A program with the notes of the rules alone. -/
def Program.trimmed (program : Program Mark) : Program Mark :=
  ⟨program.note.ofPlace, program.declarations.map Declaration.trimmed, program.file⟩

/-- An expression whose conversion, if there is one, is not noted. -/
def Expr.narrow : Expr Mark → Expr Mark
  | .literal mark value lexeme => .literal { mark with widened := false } value lexeme
  | .read ident => .read { ident with note := { ident.note with widened := false } }
  | .unary mark op operand => .unary { mark with widened := false } op operand
  | .binary mark op left right => .binary { mark with widened := false } op left right
  | .call mark callee arguments => .call { mark with widened := false } callee arguments

/-- The note of a value that is not converted is its type. -/
theorem Mark.ofValue_narrow {mark : Mark} {type : Ty} (noted : mark.type = some type) :
    { mark.ofValue with widened := false } = Mark.typed mark.node type := by
  rw [Mark.ofValue, noted]
  rfl

/-- An expression that is not converted notes no conversion. -/
theorem Expr.narrow_of_plain {expr : Expr Mark} (plain : expr.note.widened = false) :
    expr.trimmed.narrow = expr.trimmed := by
  cases expr with
  | read ident =>
    have same : { ident.note with widened := false } = ident.note := by rw [← plain]; rfl
    rw [Expr.trimmed, Expr.narrow, same]
  | _ =>
    simp only [Expr.note] at plain
    simp only [Expr.trimmed, Expr.narrow, Mark.ofValue, plain]

/-- An expression that is converted is its own conversion. -/
theorem Expr.widen_narrow {expr : Expr Mark} (converted : expr.note.widened = true) :
    expr.trimmed.narrow.widen = expr.trimmed := by
  cases expr with
  | read ident =>
    have same : { ident.note with widened := true } = ident.note := by rw [← converted]; rfl
    rw [Expr.trimmed, Expr.narrow, Expr.widen, same]
  | _ =>
    simp only [Expr.note] at converted
    simp only [Expr.trimmed, Expr.narrow, Expr.widen, Mark.ofValue, converted]

end Lag

namespace Lag.Check

open Typing

variable {α β : Type}

/-- A check that gives a result and reports nothing, unless the journal is full. -/
def Gives (action : Checker α) (result : α) : Prop :=
  ∀ journal : Journal, journal.full = false → action.run journal = (some result, journal)

namespace Gives

/-- A result is given at once. -/
theorem pure (result : α) : Gives (Pure.pure result) result := fun _ _ => rfl

/-- The rest of a check goes on with what a step gives. -/
theorem bind {action : Checker α} {next : α → Checker β} {middle : α} {result : β}
    (first : Gives action middle) (rest : Gives (next middle) result) :
    Gives (action >>= next) result := by
  intro journal room
  rw [run_bind, first journal room]
  exact rest journal room

/-- Where a condition holds its branch is taken. -/
theorem whenTrue {condition : Prop} [Decidable condition] {taken other : Checker α} {result : α}
    (holds : condition) (goes : Gives taken result) :
    Gives (if condition then taken else other) result := by
  rw [if_pos holds]
  exact goes

/-- Where a condition fails its branch is passed over. -/
theorem whenFalse {condition : Prop} [Decidable condition] {other taken : Checker α} {result : α}
    (fails : ¬condition) (goes : Gives taken result) :
    Gives (if condition then other else taken) result := by
  rw [if_neg fails]
  exact goes

/-- As long as the journal is not full nothing is passed over. -/
theorem unlessFull {passed rest : Checker α} {result : α} (goes : Gives rest result) :
    Gives (Check.full >>= fun passes => if passes then passed else rest) result := by
  have open_ : Gives Check.full false := fun journal room =>
    congrArg (fun passes => (some passes, journal)) room
  exact bind open_ (whenFalse Bool.false_ne_true goes)

/-- Without a limit there are steps enough. -/
theorem descend (steps : Nat) : Gives (Check.descend steps none) none := pure none

/-- Without a limit a search finds what a name stands for. -/
theorem find (table : SymbolTable) (name : String) :
    Gives (Check.find table none name) (table.lookup? name) := bind (descend _) (pure _)

end Gives

variable {table : SymbolTable}

/-- Operands with the types of an operation fit its operator. -/
theorem operationType_of_operation {op : BinaryOp} {left right type : Ty}
    (operation : Operation op left right type) : operationType op left right = (type, true) := by
  cases operation with
  | integers arithmetic => simp [operationType, Ty.isError, Ty.isNumeric, arithmetic]
  | floats arithmetic leftNumber rightNumber float =>
    cases left <;> cases right <;>
      simp_all [operationType, Ty.isError, Ty.isNumeric]
  | texts => rfl
  | order order leftNumber rightNumber =>
    have arithmetic : op.isArithmetic = false := by
      cases op <;> simp_all [BinaryOp.isArithmetic, BinaryOp.isOrder]
    cases left <;> cases right <;>
      simp_all [operationType, Ty.isError, Ty.isNumeric]
  | numbers equality leftNumber rightNumber =>
    have arithmetic : op.isArithmetic = false ∧ op.isOrder = false := by
      cases op <;> simp_all [BinaryOp.isArithmetic, BinaryOp.isOrder, BinaryOp.isEquality]
    cases left <;> cases right <;>
      simp_all [operationType, Ty.isError, Ty.isNumeric, Ty.common?]
  | same equality value =>
    have arithmetic : op.isArithmetic = false ∧ op.isOrder = false := by
      cases op <;> simp_all [BinaryOp.isArithmetic, BinaryOp.isOrder, BinaryOp.isEquality]
    cases left <;>
      simp_all [operationType, Ty.isError, Ty.isValue, Ty.common?]
  | truths logic => rcases logic with rfl | rfl <;> rfl

/-- The operator of an operation gives its type. -/
theorem gives_operation (node : Node) {op : BinaryOp} {left right type : Ty}
    (operation : Operation op left right type) :
    Gives (Check.operation node op left right) type := by
  unfold Check.operation
  rw [operationType_of_operation operation]
  exact .whenTrue rfl (.pure type)

/-- A type of values is not the absence of a value. -/
theorem ne_void_of_isValue {type : Ty} (value : type.isValue = true) : type ≠ .void := by
  rintro rfl
  cases value

/-- A value that fits a place is put there, and is converted if it is to be. -/
theorem gives_put {place : Ty} {expr : Expr Mark} (fits : Fits table place expr) :
    ∃ type, HasType table expr type ∧ type ≠ .void ∧ ∀ cause span kind construct,
      Gives (put place (expr.trimmed.narrow, type) cause span kind construct) expr.trimmed := by
  cases fits with
  | same typed value plain =>
    refine ⟨place, typed, ne_void_of_isValue value, fun _ _ _ _ => ?_⟩
    rw [Expr.narrow_of_plain plain]
    cases place <;> first | exact .pure _ | cases value
  | widened typed converted =>
    refine ⟨.int, typed, nofun, fun cause span kind construct => ?_⟩
    have given : Gives (put .float (expr.trimmed.narrow, .int) cause span kind construct)
        expr.trimmed.narrow.widen := .pure _
    rwa [Expr.widen_narrow converted] at given
  | @any type _ typed value plain =>
    refine ⟨type, typed, ne_void_of_isValue value, fun _ _ _ _ => ?_⟩
    rw [Expr.narrow_of_plain plain]
    cases type <;> first | exact .pure _ | cases value

/-- A variable that is well typed is read. -/
theorem gives_reading {ident : Ident Mark} {type : Ty} (typed : HasType table (.read ident) type) :
    Gives (reading table none (ident.map Mark.node))
      ((Expr.read ident).trimmed.narrow, type) := by
  cases typed with
  | @read _ symbol found readable bound noted =>
    obtain ⟨⟨node, type, bindsTo, widened⟩, name⟩ := ident
    simp only at found bound noted
    subst bound noted
    have search := Gives.find table name
    rw [found] at search
    refine .bind search (.whenFalse ?_ (.pure _))
    rw [readable]
    exact Bool.false_ne_true

/-- The operand of a sign or a negation that is well typed has a type that its operator takes. -/
theorem gives_signType {mark : Mark} {op : UnaryOp} {operand : Expr Mark} {type : Ty}
    (typed : HasType table (.unary mark op operand) type) :
    mark.type = some type ∧ operand.note.widened = false ∧ ∃ operandType,
      HasType table operand operandType ∧ ∀ node, Gives (signType node op operandType) type := by
  cases typed with
  | not noted truth plain => exact ⟨noted, plain, .bool, truth, fun _ => .pure _⟩
  | negate noted number typed plain =>
    refine ⟨noted, plain, type, typed, fun _ => .whenTrue ?_ (.pure _)⟩
    rw [number, Bool.or_true]

/-- A right operand with its operation is taken up, and then what is pending outside. -/
theorem gives_takeUp {node : Node} {op : BinaryOp} {check : Checker Typed} {pending : List Pending}
    {left right : Expr Mark} {leftType rightType type : Ty} {result : Typed}
    (operand : Gives check (right, rightType)) (operation : Operation op leftType rightType type)
    (resume : Gives (takeUp pending (.binary (.typed node type) op left right, type)) result) :
    Gives (takeUp (⟨node, op, check⟩ :: pending) (left, leftType)) result :=
  .bind operand (.bind (gives_operation node operation) resume)

/-- A call is finished when its arguments are put into the parameters of its function. -/
theorem gives_finishCall (node : Node) {callee : Ident Mark} {symbol : Symbol}
    {signature : Signature} {arguments : List (Expr Mark)} {checked : List Typed}
    (bound : callee.note.symbol = some symbol) (signed : symbol.signature = some signature)
    (long : checked.length = signature.params.length)
    (puts : Gives (putArguments callee.name signature.params checked) (Expr.trimAll arguments)) :
    Gives (finishCall node (callee.map Mark.node) (some symbol) checked)
      (.call (.typed node signature.result) (callee.map Mark.ofCallee) (Expr.trimAll arguments),
        signature.result) := by
  have noted : callee.map Mark.ofCallee =
      ⟨.full callee.note.node symbol symbol.type, callee.name⟩ := by
    rw [Ident.map, Mark.ofCallee, bound]
    rfl
  unfold finishCall
  simp only [signed, noted]
  exact .whenFalse (absurd long) (.bind puts (.pure _))

mutual

/-- A well-typed expression passes its check, which then takes up what is pending. -/
theorem gives_spine {result : Typed} : ∀ (expr : Expr Mark) {type : Ty} (pending : List Pending),
    HasType table expr type → Gives (takeUp pending (expr.trimmed.narrow, type)) result →
      Gives (spine table none pending (expr.map Mark.node)) result
  | .literal mark value lexeme, type, pending, typed, resume => by
    cases typed with
    | literal noted =>
      rw [Expr.trimmed, Expr.narrow, Mark.ofValue_narrow noted] at resume
      exact .bind (.descend 2) resume
  | .read ident, type, pending, typed, resume =>
    .bind (.descend 2) (.bind (gives_reading typed) resume)
  | .unary mark op operand, type, pending, typed, resume => by
    obtain ⟨noted, plain, operandType, operandTyped, sign⟩ := gives_signType typed
    have inner := gives_spine operand [] operandTyped (.pure _)
    rw [Expr.narrow_of_plain plain] at inner
    rw [Expr.trimmed, Expr.narrow, Mark.ofValue_narrow noted] at resume
    exact .bind (.descend 2) (.bind inner (.bind (sign mark.node) resume))
  | .binary mark op left right, type, pending, typed, resume => by
    cases typed with
    | binary noted leftTyped leftPlain rightTyped rightPlain fits =>
      have operand := gives_spine right [] rightTyped (.pure _)
      rw [Expr.narrow_of_plain rightPlain] at operand
      rw [Expr.trimmed, Expr.narrow, Mark.ofValue_narrow noted] at resume
      rw [← Expr.narrow_of_plain leftPlain] at resume
      have below := gives_spine left _ leftTyped (gives_takeUp operand fits resume)
      unfold Expr.map spine
      cases pending with
      | nil => exact .bind (.descend 2) below
      | cons first outer => exact .bind (.pure none) below
  | .call mark callee arguments, type, pending, typed, resume => by
    cases typed with
    | call noted found bound signed fits =>
      obtain ⟨checked, given, long, puts⟩ := gives_exprs arguments fits
      have search := Gives.find table callee.name
      rw [found] at search
      rw [Expr.trimmed, Expr.narrow, Mark.ofValue_narrow noted] at resume
      have finish := gives_finishCall mark.node bound signed long (puts _)
      exact .bind (.descend 2) (.bind search (.bind given (.bind finish resume)))

/-- Well-typed arguments pass their check, and are put into the parameters that they fit. -/
theorem gives_exprs : ∀ (arguments : List (Expr Mark)) {params : List (String × Ty)},
    Arguments table params arguments → ∃ checked,
      Gives (Check.exprs table none (Expr.mapAll Mark.node arguments)) checked ∧
        checked.length = params.length ∧
          ∀ callee, Gives (putArguments callee params checked) (Expr.trimAll arguments)
  | [], params, fits => by
    cases fits
    exact ⟨[], .pure _, rfl, fun _ => .pure _⟩
  | expr :: rest, params, fits => by
    cases fits with
    | cons fits others =>
      obtain ⟨type, typed, _, puts⟩ := gives_put fits
      obtain ⟨checked, given, long, restPuts⟩ := gives_exprs rest others
      have first := gives_spine expr [] typed (.pure _)
      refine ⟨_ :: checked, .bind (.descend 1) (.bind first (.bind given (.pure _))), ?_, ?_⟩
      · rw [List.length_cons, List.length_cons, long]
      · exact fun callee => .bind (puts _ _ _ _) (.bind (restPuts callee) (.pure _))

end

/-- A well-typed expression passes its check with its type. -/
theorem gives_expr {expr : Expr Mark} {type : Ty} (typed : HasType table expr type) :
    Gives (Check.expr table none (expr.map Mark.node)) (expr.trimmed.narrow, type) :=
  gives_spine expr [] typed (.pure _)

end Lag.Check
