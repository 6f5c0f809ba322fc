import Lag.Proofs.Tree.Moved
import Lag.Proofs.Typing.Journal
import Mathlib.Data.List.Forall2

/-!
# Checking programs at other places

The check looks at no place: it only puts places into failures and notes. So a program that is moved
to other places is checked as before, up to the places of its notes and of the failures found in it.
-/
namespace Lag

/-- A note at another place. -/
def Mark.moved (move : Source.Span → Source.Span) (mark : Mark) : Mark :=
  { mark with node := mark.node.moved move }

namespace Check

/-- A failure at other places. -/
def Failure.moved (move : Source.Span → Source.Span) (failure : Failure) : Failure :=
  ⟨failure.cause, move failure.span, failure.kind, move failure.place⟩

/-- A journal whose failures are moved. -/
def Journal.moved (move : Source.Span → Source.Span) (journal : Journal) : Journal :=
  ⟨journal.limit, journal.failures.map (Failure.moved move)⟩

/-- An expression with its type, at another place. -/
def Typed.moved (move : Source.Span → Source.Span) (typed : Typed) : Typed :=
  (typed.1.map (Mark.moved move), typed.2)

variable {α β γ δ : Type} {move : Source.Span → Source.Span}

/-- Two checks, the second of which does with a moved journal what the first does, and changes the
result. -/
def Moves (move : Source.Span → Source.Span) (change : α → β) (check : Checker α)
    (other : Checker β) : Prop :=
  ∀ journal : Journal, other.run (journal.moved move) =
    ((check.run journal).1.map change, (check.run journal).2.moved move)

namespace Moves

/-- A result is changed. -/
theorem pure {change : α → β} {result : α} {other : β} (same : change result = other) :
    Moves move change (Pure.pure result) (Pure.pure other) := by
  intro journal
  subst same
  rfl

/-- What checks go on with is changed. -/
theorem bind {middle : α → γ} {change : β → δ} {check : Checker α} {other : Checker γ}
    {next : α → Checker β} {otherNext : γ → Checker δ} (first : Moves move middle check other)
    (rest : ∀ found, Moves move change (next found) (otherNext (middle found))) :
    Moves move change (check >>= next) (other >>= otherNext) := by
  intro journal
  rw [run_bind, run_bind, first journal]
  obtain ⟨found, after⟩ := check.run journal
  cases found with
  | none => rfl
  | some found => exact rest found after

/-- A branch is taken for both. -/
theorem branch {change : α → β} {condition : Prop} [Decidable condition]
    {check elseCheck : Checker α} {other elseOther : Checker β}
    (taken : Moves move change check other) (passed : Moves move change elseCheck elseOther) :
    Moves move change (if condition then check else elseCheck)
      (if condition then other else elseOther) := by
  split
  · exact taken
  · exact passed

/-- Where the steps run out they do so for both. -/
theorem failure {change : α → β} : Moves move change failure failure := fun _ => rfl

/-- A failure is reported at its moved places. -/
theorem report {cause : Cause} {span place : Source.Span} {kind : Kind} :
    Moves move id (report cause span kind place) (report cause (move span) kind (move place)) := by
  intro journal
  refine Prod.ext rfl ?_
  show Journal.mk _ ((journal.failures.map _).push _) =
    Journal.mk _ ((journal.failures.push _).map _)
  rw [Array.map_push]
  rfl

/-- A failure is reported at its moved places unless a condition holds. -/
theorem reportUnless {condition : Prop} [Decidable condition] {cause : Cause}
    {span place : Source.Span} {kind : Kind} {change : α → β} {next : Unit → Checker α}
    {otherNext : Unit → Checker β}
    (rest : ∀ done, Moves move change (next done) (otherNext done)) :
    Moves move change
      (if condition then next () else Check.report cause span kind place >>= next)
      (if condition then otherNext ()
        else Check.report cause (move span) kind (move place) >>= otherNext) :=
  branch (rest ()) (bind report rest)

/-- A failure is reported at its moved places, and another value takes the place of the given one,
if a condition holds. -/
theorem replaced {condition : Prop} [Decidable condition] {cause : Cause}
    {span place : Source.Span} {kind : Kind} {instead given : γ} {change : α → β}
    {next : γ → Checker α} {otherNext : γ → Checker β}
    (rest : ∀ value, Moves move change (next value) (otherNext value)) :
    Moves move change
      (if condition then Check.report cause span kind place >>= fun _ =>
        Pure.pure instead >>= next else Pure.pure given >>= next)
      (if condition then Check.report cause (move span) kind (move place) >>= fun _ =>
        Pure.pure instead >>= otherNext else Pure.pure given >>= otherNext) := by
  simp only [pure_bind]
  exact branch (bind report fun _ => rest instead) (rest given)

/-- Whether the rest is passed over stays. -/
theorem full : Moves move id full full := by
  intro journal
  show (some (decide (journal.limit ≤ (journal.failures.map _).size)), _) = _
  rw [Array.size_map]
  rfl

/-- The steps that are left stay. -/
theorem descend (steps : Nat) (depth : Depth) :
    Moves move id (descend steps depth) (descend steps depth) := by
  cases depth with
  | none => exact pure rfl
  | some left => exact branch (pure rfl) failure

/-- What a name stands for stays. -/
theorem find (table : SymbolTable) (depth : Depth) (name : String) :
    Moves move id (find table depth name) (find table depth name) :=
  bind (descend _ _) fun _ => pure rfl

end Moves

/-- The type of an operation stays. -/
theorem moves_operation (node : Node) (op : BinaryOp) (left right : Ty) :
    Moves move id (operation node op left right) (operation (node.moved move) op left right) := by
  unfold operation
  obtain ⟨type, fits⟩ := operationType op left right
  exact .reportUnless fun _ => .pure rfl

/-- The type of an operator in front of an operand stays. -/
theorem moves_signType (node : Node) (op : UnaryOp) (operand : Ty) :
    Moves move id (signType node op operand) (signType (node.moved move) op operand) := by
  cases op with
  | not => exact .reportUnless fun _ => .pure rfl
  | negate => exact .branch (.pure rfl) (.bind .report fun _ => .pure rfl)

/-- The kind of an expression whose notes are changed. -/
theorem kind_map (f : α → β) (expr : Expr α) : (expr.map f).kind = expr.kind := by
  cases expr <;> rfl

/-- A conversion is noted at the moved place. -/
theorem widen_moved (expr : Expr Mark) :
    (expr.map (Mark.moved move)).widen = expr.widen.map (Mark.moved move) := by
  cases expr <;> rfl

/-- A moved value is put in its place. -/
theorem moves_put (place : Ty) (value : Typed) (cause : Cause) (span : Source.Span) (kind : Kind)
    (construct : Source.Span) :
    Moves move (Expr.map (Mark.moved move)) (put place value cause span kind construct)
      (put place (value.moved move) cause (move span) kind (move construct)) := by
  obtain ⟨expr, type⟩ := value
  refine .branch (.pure rfl) (.branch (.bind .report fun _ => .pure rfl) (.pure ?_))
  rw [widen_moved, apply_ite (Expr.map (Mark.moved move))]

/-- A moved name is read. -/
theorem moves_reading (table : SymbolTable) (depth : Depth) (ident : Ident Node) :
    Moves move (Typed.moved move) (reading table depth ident)
      (reading table depth (ident.map (Node.moved move))) := by
  refine .bind (.find _ _ _) fun found => ?_
  cases found with
  | none => exact .bind .report fun _ => .pure rfl
  | some symbol => exact .branch (.bind .report fun _ => .pure rfl) (.pure rfl)

/-- Moved arguments are put into parameters. -/
theorem moves_putArguments (callee : String) :
    ∀ (params : List (String × Ty)) (arguments : List Typed),
      Moves move (List.map (Expr.map (Mark.moved move))) (putArguments callee params arguments)
        (putArguments callee params (arguments.map (Typed.moved move)))
  | [], [] | [], _ :: _ | _ :: _, [] => .pure (by simp [Typed.moved])
  | (param, place) :: params, (expr, type) :: arguments => by
    refine .bind ?_ fun first => .bind (moves_putArguments callee params arguments) fun rest =>
      .pure rfl
    show Moves move _ _ (put place _ _ (expr.map (Mark.moved move)).note.node.span
      (expr.map (Mark.moved move)).kind (expr.map (Mark.moved move)).note.node.span)
    rw [Expr.note_map, kind_map]
    exact moves_put _ _ _ _ _ _

/-- A call with moved arguments is finished. -/
theorem moves_finishCall (node : Node) (callee : Ident Node) (symbol : Option Symbol)
    (arguments : List Typed) :
    Moves move (Typed.moved move) (finishCall node callee symbol arguments)
      (finishCall (node.moved move) (callee.map (Node.moved move)) symbol
        (arguments.map (Typed.moved move))) := by
  have exprs : (arguments.map (Typed.moved move)).map (·.1) =
      Expr.mapAll (Mark.moved move) (arguments.map (·.1)) := by
    rw [Expr.mapAll_eq, List.map_map, List.map_map]
    rfl
  unfold finishCall
  dsimp only
  rw [exprs, List.length_map]
  cases symbol with
  | none => exact .bind .report fun _ => .pure rfl
  | some symbol =>
    dsimp only
    cases symbol.signature with
    | none => exact .bind .report fun _ => .pure rfl
    | some signature =>
      refine .branch (.bind .report fun _ => .pure rfl) ?_
      refine .bind (moves_putArguments _ _ _) fun put => .pure ?_
      rw [← Expr.mapAll_eq]
      rfl

/-- A pending operand that is moved. -/
structure Pending.Moved (move : Source.Span → Source.Span) (pending other : Pending) : Prop where
  /-- The operation is moved. -/
  node : other.node = pending.node.moved move
  /-- The operator stays. -/
  op : other.op = pending.op
  /-- The operand is checked as before. -/
  right : Moves move (Typed.moved move) pending.right other.right

/-- Moved operands that are pending are taken up. -/
theorem moves_takeUp {pending others : List Pending}
    (same : pending.Forall₂ (Pending.Moved move) others) (left : Typed) :
    Moves move (Typed.moved move) (takeUp pending left) (takeUp others (left.moved move)) := by
  induction same generalizing left with
  | nil => exact .pure rfl
  | @cons first other _ _ same _ ih =>
    refine .bind same.right fun found => ?_
    dsimp only [Typed.moved]
    rw [same.node, same.op]
    exact .bind (moves_operation _ _ _ _) fun type => ih _

mutual

/-- A moved expression is checked as before. -/
theorem moves_spine (table : SymbolTable) : ∀ (depth : Depth) {pending others : List Pending},
    pending.Forall₂ (Pending.Moved move) others → ∀ expr : Expr Node,
      Moves move (Typed.moved move) (spine table depth pending expr)
        (spine table depth others (expr.map (Node.moved move)))
  | depth, pending, others, same, .literal node value lexeme =>
    .bind (.descend _ _) fun _ => moves_takeUp same _
  | depth, pending, others, same, .read ident =>
    .bind (.descend _ _) fun inner => .bind (moves_reading _ _ _) fun found => moves_takeUp same _
  | depth, pending, others, same, .unary node op operand => by
    refine .bind (.descend _ _) fun inner => ?_
    refine .bind (moves_spine table inner .nil operand) fun found => ?_
    exact .bind (moves_signType _ _ _) fun type => moves_takeUp same _
  | depth, pending, others, same, .binary node op left right => by
    have waits : ∀ inner : Depth, Pending.Moved move ⟨node, op, spine table inner [] right⟩
        ⟨node.moved move, op, spine table inner [] (right.map (Node.moved move))⟩ :=
      fun inner => ⟨rfl, rfl, moves_spine table inner .nil right⟩
    have below := fun inner => moves_spine table inner (.cons (waits inner) same) left
    unfold Expr.map spine
    cases same with
    | nil => exact .bind (.descend _ _) below
    | cons => exact .bind (.pure rfl) below
  | depth, pending, others, same, .call node callee arguments => by
    refine .bind (.descend _ _) fun inner => .bind (.find _ _ _) fun symbol => ?_
    refine .bind (moves_exprs table inner arguments) fun checked => ?_
    exact .bind (moves_finishCall _ _ _ _) fun result => moves_takeUp same _

/-- Moved arguments are checked as before. -/
theorem moves_exprs (table : SymbolTable) : ∀ (depth : Depth) (arguments : List (Expr Node)),
    Moves move (List.map (Typed.moved move)) (exprs table depth arguments)
      (exprs table depth (Expr.mapAll (Node.moved move) arguments))
  | _, [] => .pure rfl
  | depth, expr :: rest =>
    .bind (.descend _ _) fun inner => .bind (moves_spine table inner .nil expr) fun _ =>
      .bind (moves_exprs table depth rest) fun _ => .pure rfl

end

/-- A moved expression is checked as before. -/
theorem moves_expr (table : SymbolTable) (depth : Depth) (value : Expr Node) :
    Moves move (Typed.moved move) (expr table depth value)
      (expr table depth (value.map (Node.moved move))) :=
  moves_spine table depth .nil value

/-- The type that is written stays. -/
theorem moves_writtenType (type : TypeName Node) (kind : Kind) (owner : Node) :
    Moves move id (writtenType type kind owner)
      (writtenType (type.map (Node.moved move)) kind (owner.moved move)) :=
  .branch (.bind .report fun _ => .pure rfl) (.pure rfl)

/-- The last step of the check of a moved declaration is as before. -/
theorem moves_introduced (inModule : Bool) (table : SymbolTable) (note : Node) (name : String)
    (written : Option (TypeName Mark)) (value : Expr Mark) (type : Ty) :
    let symbol : Symbol := ⟨name, .variable, type, true, inModule, some note.id, none⟩
    Moves move (Prod.map (Binding.map (Mark.moved move)) id)
      (match table.define? symbol with
        | some table => pure ((⟨.bound note symbol, name, written, value⟩ : Binding Mark), table)
        | none => do
          report (.redeclared name) note.span .declare note.span
          pure (⟨.bare note, name, written, value⟩, table))
      (match table.define? symbol with
        | some table =>
          pure ((⟨.bound (note.moved move) symbol, name,
            written.map (TypeName.map (Mark.moved move)),
            value.map (Mark.moved move)⟩ : Binding Mark), table)
        | none => do
          report (.redeclared name) (move note.span) .declare (move note.span)
          pure (⟨.bare (note.moved move), name, written.map (TypeName.map (Mark.moved move)),
            value.map (Mark.moved move)⟩, table)) := by
  intro symbol
  cases table.define? symbol with
  | some table => exact .pure rfl
  | none => exact .bind .report fun _ => .pure rfl

/-- A moved declaration of a variable is checked as before. -/
theorem moves_binding (inModule : Bool) (table : SymbolTable) (depth : Depth)
    (declared : Binding Node) :
    Moves move (Prod.map (Binding.map (Mark.moved move)) id)
      (binding inModule table depth declared)
      (binding inModule table depth (declared.map (Node.moved move))) := by
  obtain ⟨note, name, written, value⟩ := declared
  unfold binding
  dsimp only [Binding.map]
  rw [Expr.note_map]
  refine .bind (.descend _ _) fun inner => .bind (moves_expr table inner value) fun found => ?_
  refine .replaced fun type => ?_
  cases written with
  | none =>
    simp only [pure_bind]
    exact moves_introduced inModule table note name none found.1 type
  | some written =>
    refine .bind (moves_writtenType _ _ _) fun declared => ?_
    refine .bind (moves_put declared (found.1, type) _ _ _ _) fun value => ?_
    simp only [pure_bind]
    exact moves_introduced inModule table note name (some (written.map Mark.bare)) value declared

/-- A moved assignment is checked as before. -/
theorem moves_assignment (table : SymbolTable) (depth : Depth) (node : Node) (target : Ident Node)
    (value : Expr Node) :
    Moves move (Stmt.map (Mark.moved move)) (assignment table depth node target value)
      (assignment table depth (node.moved move) (target.map (Node.moved move))
        (value.map (Node.moved move))) := by
  unfold assignment
  rw [Expr.note_map]
  refine .bind (.descend _ _) fun inner => .bind (moves_expr table inner value) fun found => ?_
  refine .bind (.find _ _ _) fun symbol => ?_
  cases symbol with
  | none => exact .bind .report fun _ => .pure rfl
  | some symbol =>
    refine .branch (.bind .report fun _ => .pure rfl) ?_
    refine .branch (.bind .report fun _ => .pure rfl) ?_
    exact .bind (moves_put _ _ _ _ _ _) fun value => .pure rfl

/-- A moved test is checked as before. -/
theorem moves_test (word : String) (table : SymbolTable) (depth : Depth) (value : Expr Node) :
    Moves move (Expr.map (Mark.moved move)) (test word table depth value)
      (test word table depth (value.map (Node.moved move))) := by
  unfold test reportAt
  rw [Expr.note_map, kind_map]
  refine .bind (.descend _ _) fun inner => .bind (moves_expr table inner value) fun found => ?_
  exact .reportUnless fun _ => .pure rfl

/-- A moved bound is checked as before. -/
theorem moves_bound (table : SymbolTable) (depth : Depth) (value : Expr Node) :
    Moves move (Expr.map (Mark.moved move)) (bound table depth value)
      (bound table depth (value.map (Node.moved move))) := by
  unfold bound reportAt
  rw [Expr.note_map, kind_map]
  exact .bind (moves_expr table depth value) fun found => .reportUnless fun _ => .pure rfl

/-- A moved return is checked as before. -/
theorem moves_leaving (result : Ty) (table : SymbolTable) (depth : Depth) (node : Node) :
    ∀ value : Option (Expr Node),
      Moves move (Stmt.map (Mark.moved move)) (leaving result table depth node value)
        (leaving result table depth (node.moved move) (value.map (Expr.map (Node.moved move))))
  | none => .bind (.descend _ _) fun _ => .reportUnless fun _ => .pure rfl
  | some value => by
    unfold Option.map leaving
    dsimp only
    rw [Expr.note_map]
    refine .bind (.descend _ _) fun inner => .bind (moves_expr table inner value) fun found => ?_
    refine .branch (.bind .report fun _ => .pure rfl) ?_
    exact .bind (moves_put _ _ _ _ _ _) fun value => .pure rfl

/-- A statement that is passed over is moved. -/
theorem bare_moved (stmt : Stmt Node) : (stmt.map Mark.bare).map (Mark.moved move) =
    (stmt.map (Node.moved move)).map Mark.bare := by
  rw [Stmt.map_map, Stmt.map_map]
  rfl

/-- A statement is moved that is passed over once the failures have reached their limit. -/
theorem Moves.unlessFull (stmt : Stmt Node) {table : SymbolTable}
    {check other : Checker (Stmt Mark × SymbolTable)}
    (moves : Moves move (Prod.map (Stmt.map (Mark.moved move)) id) check other) :
    Moves move (Prod.map (Stmt.map (Mark.moved move)) id)
      (Check.full >>= fun passes =>
        if passes then Pure.pure (stmt.map Mark.bare, table) else check)
      (Check.full >>= fun passes =>
        if passes then Pure.pure ((stmt.map (Node.moved move)).map Mark.bare, table) else other) :=
  bind full fun _ => branch (pure (congrArg (·, table) (bare_moved stmt))) moves

mutual

/-- A moved statement is checked as before. -/
theorem moves_stmt (result : Ty) : ∀ (depth : Depth) (table : SymbolTable) (stmt : Stmt Node),
    Moves move (Prod.map (Stmt.map (Mark.moved move)) id) (Check.stmt result depth table stmt)
      (Check.stmt result depth table (stmt.map (Node.moved move)))
  | depth, table, .declare declared => by
    refine .bind (.descend _ _) fun inner => .unlessFull (.declare declared) ?_
    exact .bind (moves_binding false table inner declared) fun found => .pure rfl
  | depth, table, .assign node target value => by
    refine .bind (.descend _ _) fun inner => ?_
    refine .unlessFull (.assign node target value) ?_
    exact .bind (moves_assignment table inner node target value) fun found => .pure rfl
  | depth, table, .leave node value => by
    refine .bind (.descend _ _) fun inner => .unlessFull (.leave node value) ?_
    exact .bind (moves_leaving result table inner node value) fun found => .pure rfl
  | depth, table, .evaluate node value => by
    refine .bind (.descend _ _) fun inner => .unlessFull (.evaluate node value) ?_
    exact .bind (moves_expr table inner value) fun found => .pure rfl
  | depth, table, .block node body => by
    refine .bind (.descend _ _) fun inner => .unlessFull (.block node body) ?_
    refine .bind (.descend _ _) fun innermost => ?_
    exact .bind (moves_stmts result innermost (table.push "block") body) fun found => .pure rfl
  | depth, table, .ifThen node condition bodyNode body => by
    refine .bind (.descend _ _) fun inner =>
      .unlessFull (.ifThen node condition bodyNode body) ?_
    refine .bind (.descend _ _) fun inside => ?_
    refine .bind (moves_test "if" table inside condition) fun test => ?_
    refine .bind (.descend _ _) fun innermost => ?_
    exact .bind (moves_stmts result innermost (table.push "block") body) fun found => .pure rfl
  | depth, table, .ifElse node condition bodyNode body otherwise => by
    refine .bind (.descend _ _) fun inner =>
      .unlessFull (.ifElse node condition bodyNode body otherwise) ?_
    refine .bind (.descend _ _) fun inside => ?_
    refine .bind (moves_test "if" table inside condition) fun test => ?_
    refine .bind (.descend _ _) fun innermost => ?_
    refine .bind (moves_stmts result innermost (table.push "block") body) fun found => ?_
    exact .bind (moves_alternative result inside table otherwise) fun other => .pure rfl
  | depth, table, .whileLoop node condition bodyNode body => by
    refine .bind (.descend _ _) fun inner =>
      .unlessFull (.whileLoop node condition bodyNode body) ?_
    refine .bind (moves_test "while" table inner condition) fun test => ?_
    refine .bind (.descend _ _) fun innermost => ?_
    exact .bind (moves_stmts result innermost (table.push "block") body) fun found => .pure rfl
  | depth, table, .forLoop node counter first last bodyNode body => by
    refine .bind (.descend _ _) fun inner =>
      .unlessFull (.forLoop node counter first last bodyNode body) ?_
    refine .bind (.descend _ _) fun inside => .bind (moves_bound table inside first) fun first => ?_
    refine .bind (moves_bound table inside last) fun last => ?_
    refine .bind (.descend _ _) fun innermost => ?_
    exact .bind (moves_stmts result innermost _ body) fun found => .pure rfl

/-- What a moved conditional does when its test fails is checked as before. -/
theorem moves_alternative (result : Ty) :
    ∀ (depth : Depth) (table : SymbolTable) (stmt : Stmt Node),
      Moves move (Stmt.map (Mark.moved move)) (alternative result depth table stmt)
        (alternative result depth table (stmt.map (Node.moved move)))
  | depth, table, .ifThen node condition bodyNode body => by
    unfold alternative
    refine .bind (.descend _ _) fun inside => ?_
    refine .bind (moves_test "if" table inside condition) fun test => ?_
    refine .bind (.descend _ _) fun innermost => ?_
    exact .bind (moves_stmts result innermost (table.push "block") body) fun found => .pure rfl
  | depth, table, .ifElse node condition bodyNode body otherwise => by
    unfold alternative
    refine .bind (.descend _ _) fun inside => ?_
    refine .bind (moves_test "if" table inside condition) fun test => ?_
    refine .bind (.descend _ _) fun innermost => ?_
    refine .bind (moves_stmts result innermost (table.push "block") body) fun found => ?_
    exact .bind (moves_alternative result inside table otherwise) fun other => .pure rfl
  | depth, table, .block node body => by
    unfold alternative
    refine .bind (.descend _ _) fun innermost => ?_
    exact .bind (moves_stmts result innermost (table.push "block") body) fun found => .pure rfl
  | depth, table, .declare declared => .pure (bare_moved (.declare declared))
  | depth, table, .assign node target value => .pure (bare_moved (.assign node target value))
  | depth, table, .leave node value => .pure (bare_moved (.leave node value))
  | depth, table, .evaluate node value => .pure (bare_moved (.evaluate node value))
  | depth, table, .whileLoop node test bodyNode body =>
    .pure (bare_moved (.whileLoop node test bodyNode body))
  | depth, table, .forLoop node counter first last bodyNode body =>
    .pure (bare_moved (.forLoop node counter first last bodyNode body))

/-- Moved statements are checked as before. -/
theorem moves_stmts (result : Ty) :
    ∀ (depth : Depth) (table : SymbolTable) (body : List (Stmt Node)),
      Moves move (Stmt.mapAll (Mark.moved move)) (stmts result depth table body)
        (stmts result depth table (Stmt.mapAll (Node.moved move) body))
  | _, _, [] => .pure rfl
  | depth, table, stmt :: rest => by
    refine .bind (moves_stmt result depth table stmt) fun found => ?_
    exact .bind (moves_stmts result depth found.2 rest) fun checked => .pure rfl

end

mutual

/-- Whether every path through a moved statement ends in a return stays. -/
theorem moves_alwaysLeaves : ∀ (depth : Depth) (stmt : Stmt Node),
    Moves move id (alwaysLeaves depth stmt) (alwaysLeaves depth (stmt.map (Node.moved move)))
  | depth, .block node body => .bind (.descend _ _) fun inner => moves_someLeaves inner body
  | depth, .ifElse node test bodyNode body otherwise => by
    unfold Stmt.map alwaysLeaves
    refine .bind (.descend _ _) fun inner => .bind (.descend _ _) fun inside => ?_
    refine .bind (moves_someLeaves inside body) fun leaves => .branch ?_ (.pure rfl)
    exact moves_alwaysLeaves inner otherwise
  | depth, .leave _ _ | depth, .declare _ | depth, .assign _ _ _ | depth, .evaluate _ _
  | depth, .ifThen _ _ _ _ | depth, .whileLoop _ _ _ _ | depth, .forLoop _ _ _ _ _ _ =>
    .bind (.descend _ _) fun _ => .pure rfl

/-- Whether one of some moved statements always ends in a return stays. -/
theorem moves_someLeaves : ∀ (depth : Depth) (body : List (Stmt Node)),
    Moves move id (someLeaves depth body) (someLeaves depth (Stmt.mapAll (Node.moved move) body))
  | _, [] => .pure rfl
  | depth, stmt :: rest => by
    unfold Stmt.mapAll someLeaves
    refine .bind (moves_alwaysLeaves depth stmt) fun leaves => .branch (.pure rfl) ?_
    exact moves_someLeaves depth rest

end

/-- The types of moved parameters stay. -/
theorem moves_paramTypes : ∀ params : List (Param Node),
    Moves move id (paramTypes params) (paramTypes (params.map (Param.map (Node.moved move))))
  | [] => .pure rfl
  | param :: rest => by
    refine .bind (moves_writtenType param.type .param param.note) fun type => ?_
    exact .bind (moves_paramTypes rest) fun types => .pure rfl

/-- A moved function is declared as before. -/
theorem moves_register (table : SymbolTable) (declared : Function Node) :
    Moves move id (register table declared)
      (register table (declared.map (Node.moved move))) := by
  unfold register
  refine .bind (moves_paramTypes declared.params) fun params => ?_
  have result : (declared.map (Node.moved move)).result.map (·.type) =
      declared.result.map (·.type) := by
    show (declared.result.map _).map _ = _
    rw [Option.map_map]
    rfl
  rw [result]
  dsimp only [Function.map, Node.moved, id]
  split
  · exact .pure rfl
  · exact .bind .report fun _ => .pure rfl

/-- Moved functions are declared as before. -/
theorem moves_registerAll (table : SymbolTable) : ∀ declarations : List (Declaration Node),
    Moves move id (registerAll table declarations)
      (registerAll table (declarations.map (Declaration.map (Node.moved move))))
  | [] => .pure rfl
  | .binding _ :: rest => .bind (moves_registerAll table rest) fun _ => .pure rfl
  | .function declared :: rest =>
    .bind (moves_register table declared) fun first =>
      .bind (moves_registerAll first.1 rest) fun _ => .pure rfl

/-- Moved parameters are declared as before. -/
theorem moves_declareParams (table : SymbolTable) : ∀ params : List (Param Node × Ty),
    Moves move (Prod.map id (List.map (Param.map (Mark.moved move)))) (declareParams table params)
      (declareParams table (params.map (Prod.map (Param.map (Node.moved move)) id)))
  | [] => .pure rfl
  | (param, type) :: rest => by
    rw [List.map_cons, declareParams, Prod.map, declareParams]
    dsimp only [Param.map, Node.moved, id]
    split
    · exact .bind (moves_declareParams _ rest) fun found => .pure rfl
    · exact .bind .report fun _ => .bind (moves_declareParams _ rest) fun found => .pure rfl

/-- A moved function is checked as before. -/
theorem moves_function (table : SymbolTable) (depth : Depth) (declared : Function Node)
    (symbol : Symbol) :
    Moves move (Function.map (Mark.moved move)) (function table depth declared symbol)
      (function table depth (declared.map (Node.moved move)) symbol) := by
  obtain ⟨note, name, params, result, bodyNote, body⟩ := declared
  have written : (result.map (TypeName.map Mark.bare)).map (TypeName.map (Mark.moved move)) =
      (result.map (TypeName.map (Node.moved move))).map (TypeName.map Mark.bare) := by
    rw [Option.map_map, Option.map_map]
    rfl
  unfold function
  generalize symbol.signature.getD ⟨[], .void⟩ = signature
  dsimp only [Function.map]
  rw [List.zip_map_left]
  refine .bind (.descend _ _) fun inner => .bind (moves_declareParams _ _) fun scope => ?_
  refine .bind (.descend _ _) fun innermost => ?_
  refine .bind (moves_stmts _ innermost _ body) fun body' => ?_
  have done : ∀ done : Unit, Moves move (Function.map (Mark.moved move))
      (pure (⟨.bound note symbol, name, scope.2, result.map (TypeName.map Mark.bare),
        .bare bodyNote, body'⟩ : Function Mark))
      (pure (⟨.bound (note.moved move) symbol, name, scope.2.map (Param.map (Mark.moved move)),
        (result.map (TypeName.map (Node.moved move))).map (TypeName.map Mark.bare),
        .bare (bodyNote.moved move), Stmt.mapAll (Mark.moved move) body'⟩ : Function Mark)) :=
    fun _ => .pure (by rw [Function.map, written]; rfl)
  refine .branch ?_ (done ())
  refine .bind (.descend _ _) fun below => .bind (moves_someLeaves below body) fun leaves => ?_
  exact .reportUnless done

/-- A declaration that is passed over is moved. -/
theorem bare_moved_declaration (declaration : Declaration Node) :
    (declaration.map Mark.bare).map (Mark.moved move) =
      (declaration.map (Node.moved move)).map Mark.bare := by
  rw [Declaration.map_map, Declaration.map_map]
  rfl

/-- Moved declarations are checked as before. -/
theorem moves_declarations (depth : Depth) (table : SymbolTable) :
    ∀ list : List (Declaration Node × Option Symbol),
      Moves move (List.map (Declaration.map (Mark.moved move))) (declarations depth table list)
        (declarations depth table (list.map (Prod.map (Declaration.map (Node.moved move)) id)))
  | [] => .pure rfl
  | (declaration, symbol) :: rest => by
    have later := fun table => moves_declarations depth table rest
    have passing : ∀ passed other : Declaration Mark, passed.map (Mark.moved move) = other →
        Moves move (List.map (Declaration.map (Mark.moved move)))
          (declarations depth table rest >>= fun checked => pure (passed :: checked))
          (declarations depth table (rest.map (Prod.map (Declaration.map (Node.moved move)) id)) >>=
            fun checked => pure (other :: checked)) := by
      rintro passed _ rfl
      exact .bind (later table) fun checked => .pure rfl
    have bare : (declaration.map Mark.bare).map (Mark.moved move) = _ :=
      bare_moved_declaration declaration
    cases declaration with
    | binding declared =>
      refine .bind .full fun _ => .branch (passing _ _ bare) ?_
      refine .bind (moves_binding true table depth declared) fun found => ?_
      exact .bind (later found.2) fun checked => .pure rfl
    | function declared =>
      cases symbol with
      | none =>
        refine .bind .full fun _ => .branch (passing _ _ bare) ?_
        exact passing _ _ bare
      | some symbol =>
        refine .bind .full fun _ => .branch (passing _ _ ?_) ?_
        · exact congrArg (fun passed : Function Mark =>
            Declaration.function { passed with note := { passed.note with symbol := some symbol } })
            (Declaration.function.inj bare)
        · refine .bind (moves_function table depth declared symbol) fun found => ?_
          exact .bind (later table) fun checked => .pure rfl

/-- A moved program is checked as before. -/
theorem moves_program (depth : Depth) (tree : Program Node) :
    Moves move (Program.map (Mark.moved move)) (program depth tree)
      (program depth (tree.map (Node.moved move))) := by
  unfold program
  refine .bind (moves_registerAll _ _) fun registered => ?_
  dsimp only [Program.map, id]
  rw [List.zip_map_left]
  exact .bind (moves_declarations depth _ _) fun checked => .pure rfl

/-- A moved program is checked as before: the same is found wrong, at the moved places. -/
theorem run_moved (depth : Depth) (limit : Nat) (tree : Program Node) :
    run depth limit (tree.map (Node.moved move)) =
      ⟨(run depth limit tree).failures.map (Failure.moved move),
        (run depth limit tree).program.map (Program.map (Mark.moved move))⟩ := by
  unfold run
  have start : (⟨limit, #[]⟩ : Journal).moved move = ⟨limit, #[]⟩ := by
    rw [Journal.moved, Array.map_empty]
  have same : Moves move _ _ _ := moves_program depth tree
  have moves := same ⟨limit, #[]⟩
  rw [start] at moves
  rw [moves]
  generalize (program depth tree).run ⟨limit, #[]⟩ = found
  obtain ⟨checked, journal⟩ := found
  cases checked with
  | none =>
    dsimp only [Option.map_none, Journal.moved]
    rw [Array.toList_map, List.map_append]
    rfl
  | some checked =>
    dsimp only [Option.map_some, Journal.moved]
    rw [Array.toList_map, List.isEmpty_map]
    split <;> rfl

end Check

/-- A moved program is checked as before: the same is found wrong, at the moved places. -/
theorem Program.check_moved (move : Source.Span → Source.Span) (program : Program Node)
    (limit : Nat) : (program.map (Node.moved move)).check limit =
      ⟨(program.check limit).failures.map (Check.Failure.moved move),
        (program.check limit).program.map (Program.map (Mark.moved move))⟩ :=
  Check.run_moved _ limit program

end Lag
