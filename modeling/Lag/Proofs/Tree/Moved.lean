import Lag.Proofs.Tree.Numbered
import Lag.Tree.Parse

/-!
# Reading tokens at other places

The readers of trees look at no place: they only put places into trees and failures. So tokens that
are moved to other places are read as the tree that they were read as before, with its places
moved, and a failure is the same at its new place. The places of constructs start with that of one
token and end with that of another, which a move has to respect. Numbering looks at no place either.
-/
namespace Lag

/-- A token at another place. -/
def Token.moved (move : Source.Span → Source.Span) (token : Token) : Token :=
  { token with span := move token.span }

section Notes

variable {α β γ : Type} (f : α → β) (g : β → γ)

/-- The note of an expression whose notes are changed. -/
theorem Expr.note_map (expr : Expr α) : (expr.map f).note = f expr.note := by
  cases expr <;> rfl

/-- The notes of expressions are changed one expression after the other. -/
theorem Expr.mapAll_eq (exprs : List (Expr α)) : Expr.mapAll f exprs = exprs.map (Expr.map f) := by
  induction exprs with
  | nil => rfl
  | cons expr rest ih => exact congrArg (expr.map f :: ·) ih

/-- The notes of statements are changed one statement after the other. -/
theorem Stmt.mapAll_eq (body : List (Stmt α)) : Stmt.mapAll f body = body.map (Stmt.map f) := by
  induction body with
  | nil => rfl
  | cons stmt rest ih => exact congrArg (stmt.map f :: ·) ih

mutual

/-- Notes of an expression that are changed twice. -/
theorem Expr.map_map : ∀ expr : Expr α, (expr.map f).map g = expr.map fun note => g (f note)
  | .literal _ _ _ | .read _ => rfl
  | .unary _ _ operand => by simp only [Expr.map, operand.map_map]
  | .binary _ _ left right => by simp only [Expr.map, left.map_map, right.map_map]
  | .call _ _ arguments => by simp only [Expr.map, Ident.map, Expr.mapAll_map arguments]

/-- Notes of expressions that are changed twice. -/
theorem Expr.mapAll_map : ∀ exprs : List (Expr α),
    Expr.mapAll g (Expr.mapAll f exprs) = Expr.mapAll (fun note => g (f note)) exprs
  | [] => rfl
  | expr :: rest => by simp only [Expr.mapAll, expr.map_map, Expr.mapAll_map rest]

end

/-- Notes of a declaration of a variable that are changed twice. -/
theorem Binding.map_map (binding : Binding α) :
    (binding.map f).map g = binding.map fun note => g (f note) := by
  simp only [Binding.map, Expr.map_map, Option.map_map]
  rfl

mutual

/-- Notes of a statement that are changed twice. -/
theorem Stmt.map_map : ∀ stmt : Stmt α, (stmt.map f).map g = stmt.map fun note => g (f note)
  | .declare binding => congrArg Stmt.declare (binding.map_map f g)
  | .assign _ _ _ | .evaluate _ _ => by simp only [Stmt.map, Ident.map, Expr.map_map]
  | .leave _ none => rfl
  | .leave _ (some _) => by simp only [Stmt.map, Option.map_some, Expr.map_map]
  | .block _ body => by simp only [Stmt.map, Stmt.mapAll_map body]
  | .ifThen _ _ _ body | .whileLoop _ _ _ body | .forLoop _ _ _ _ _ body => by
    simp only [Stmt.map, Expr.map_map, Stmt.mapAll_map body]
  | .ifElse _ _ _ body otherwise => by
    simp only [Stmt.map, Expr.map_map, Stmt.mapAll_map body, otherwise.map_map]

/-- Notes of statements that are changed twice. -/
theorem Stmt.mapAll_map : ∀ body : List (Stmt α),
    Stmt.mapAll g (Stmt.mapAll f body) = Stmt.mapAll (fun note => g (f note)) body
  | [] => rfl
  | stmt :: rest => by simp only [Stmt.mapAll, stmt.map_map, Stmt.mapAll_map rest]

end

/-- Notes of a declaration that are changed twice. -/
theorem Declaration.map_map : ∀ declaration : Declaration α,
    (declaration.map f).map g = declaration.map fun note => g (f note)
  | .binding declared => congrArg Declaration.binding (declared.map_map f g)
  | .function declared => by
    simp only [Declaration.map, Function.map, List.map_map, Option.map_map, Stmt.mapAll_map]
    rfl

end Notes

namespace Parse

/-- A move of places that keeps what starts with one place and ends with another together. -/
def Joins (move : Source.Span → Source.Span) : Prop :=
  ∀ first last : Source.Span, move (first.through last) = (move first).through (move last)

/-- A cause whose tokens are moved. -/
def Cause.moved (move : Source.Span → Source.Span) : Cause → Cause
  | .unexpected expected found => .unexpected expected (found.moved move)
  | .unexpectedEnd expected => .unexpectedEnd expected
  | .unclosed opener found => .unclosed (opener.moved move) (found.moved move)
  | .unopened found => .unopened (found.moved move)
  | .tooDeep => .tooDeep

/-- A failure at another place. -/
def Error.moved (move : Source.Span → Source.Span) (error : Error) : Error :=
  ⟨error.cause.moved move, move error.span, error.quotes⟩

/-- A state whose tokens are moved. -/
def State.moved (move : Source.Span → Source.Span) (state : State) : State where
  ahead := state.ahead.map (Token.moved move)
  final := state.final.moved move
  last := state.last.moved move
  opened := state.opened.map (Token.moved move)

variable {α β γ δ : Type} {move : Source.Span → Source.Span}

/-- What a reader gives, with its result changed and its state moved, or its failure moved. -/
def moved (move : Source.Span → Source.Span) (change : α → β) :
    Except Error (α × State) → Except Error (β × State)
  | .ok (result, next) => .ok (change result, next.moved move)
  | .error error => .error (error.moved move)

/-- Two readers, the second of which does at moved tokens what the first does. -/
def Moves (move : Source.Span → Source.Span) (change : α → β) (reader : Reader α)
    (other : Reader β) : Prop :=
  ∀ state : State, other (state.moved move) = moved move change (reader state)

/-- The token in front is moved. -/
theorem State.current_moved (state : State) :
    (state.moved move).current = state.current.moved move := by
  obtain ⟨ahead, final, last, opened⟩ := state
  cases ahead <;> rfl

/-- The failure at the token in front is moved. -/
theorem State.failure_moved (state : State) (expected : String) :
    (state.moved move).failure expected = (state.failure expected).moved move := by
  unfold State.failure
  dsimp only
  rw [State.current_moved, apply_ite (Error.moved move), apply_ite (Error.moved move)]
  generalize state.current = found
  obtain ⟨ahead, final, last, opened⟩ := state
  cases opened <;> rfl

namespace Moves

/-- A result is changed. -/
theorem pure {change : α → β} {result : α} {other : β} (same : change result = other) :
    Moves move change (Pure.pure result) (Pure.pure other) := by
  intro state
  subst same
  rfl

/-- What readers go on with is changed. -/
theorem bind {middle : α → γ} {change : β → δ} {reader : Reader α} {other : Reader γ}
    {next : α → Reader β} {otherNext : γ → Reader δ} (first : Moves move middle reader other)
    (rest : ∀ found, Moves move change (next found) (otherNext (middle found))) :
    Moves move change (reader >>= next) (other >>= otherNext) := by
  intro state
  rw [bind_apply, bind_apply, first state]
  cases reader state with
  | error error => rfl
  | ok reached => exact rest reached.1 reached.2

/-- A branch is taken for both. -/
theorem branch {change : α → β} {condition : Prop} [Decidable condition]
    {reader elseReader : Reader α} {other elseOther : Reader β}
    (taken : Moves move change reader other) (passed : Moves move change elseReader elseOther) :
    Moves move change (if condition then reader else elseReader)
      (if condition then other else elseOther) := by
  split
  · exact taken
  · exact passed

/-- A look at what a reader keeps. -/
theorem looks {change : α → β} {look : State → α} {otherLook : State → β}
    (same : ∀ state : State, otherLook (state.moved move) = change (look state)) :
    Moves move change (fun state => .ok (look state, state))
      (fun state => .ok (otherLook state, state)) := by
  intro state
  show Except.ok (otherLook (state.moved move), state.moved move) = _
  rw [same]
  rfl

/-- The token in front is moved. -/
theorem current : Moves move (Token.moved move) current current :=
  looks State.current_moved

/-- The kind of the token in front stays. -/
theorem facing (kind : TokenKind) : Moves move id (facing kind) (facing kind) :=
  looks fun state => by rw [State.current_moved]; rfl

/-- The token that is consumed is moved. -/
theorem advance : Moves move (Token.moved move) advance advance := by
  intro state
  obtain ⟨ahead, final, last, opened⟩ := state
  cases ahead <;> rfl

/-- A reader that expects something else fails at the moved token. -/
theorem unexpected {change : α → β} (expected : String) :
    Moves move change (unexpected expected) (unexpected expected) := by
  intro state
  exact congrArg Except.error (state.failure_moved expected)

/-- A reader that is too deep fails at the moved token. -/
theorem tooDeep {change : α → β} : Moves move change tooDeep tooDeep := by
  intro state
  show Except.error _ = Except.error _
  rw [State.current_moved]
  rfl

/-- The token of a kind that is consumed is moved. -/
theorem expect (kind : TokenKind) (expected : String) :
    Moves move (Token.moved move) (expect kind expected) (expect kind expected) :=
  bind (facing kind) fun _ => branch advance (unexpected expected)

/-- A token is consumed for both if it is there. -/
theorem accept (kind : TokenKind) : Moves move id (accept kind) (accept kind) :=
  bind (facing kind) fun _ => branch (bind advance fun _ => pure rfl) (pure rfl)

/-- The open brackets are changed alike. -/
theorem opened {change otherChange : State → List Token}
    (same : ∀ state : State, otherChange (state.moved move) =
      (change state).map (Token.moved move)) :
    Moves move id (modify fun state => { state with opened := change state })
      (modify fun state => { state with opened := otherChange state }) := by
  intro state
  show Except.ok ((), { state.moved move with opened := otherChange (state.moved move) }) = _
  rw [same]
  rfl

/-- The opening bracket that is consumed is moved. -/
theorem openBracket (kind : TokenKind) (expected : String) :
    Moves move id (openBracket kind expected) (openBracket kind expected) :=
  bind (expect kind expected) fun _ => opened fun _ => rfl

/-- The closing bracket that is consumed is moved. -/
theorem closeBracket (kind : TokenKind) :
    Moves move (Token.moved move) (closeBracket kind) (closeBracket kind) := by
  refine bind (facing kind) fun _ => branch (bind (opened fun _ => ?_) fun _ => advance) ?_
  · exact (List.map_tail ..).symm
  · rintro ⟨ahead, final, last, opened⟩
    cases opened <;> (cases ahead <;> rfl)

/-- The place from a token to the token read last is moved. -/
theorem spanFrom (joins : Joins move) (start : Token) :
    Moves move move (spanFrom start) (spanFrom (start.moved move)) :=
  looks fun state => (joins start.span state.last.span).symm

/-- The bound of a repetition stays. -/
theorem rounds : Moves move id rounds rounds :=
  looks fun _ => congrArg (· + 1) (List.length_map ..)

/-- Repeated items are changed. -/
theorem repeatWhile {condition : Reader Bool} {item : Reader α} {other : Reader β}
    {change : α → β} (looks : Moves move id condition condition)
    (moves : Moves move change item other) (bound : Nat) :
    Moves move (List.map change) (repeatWhile condition item bound)
      (repeatWhile condition other bound) := by
  induction bound with
  | zero => exact pure rfl
  | succ bound ih =>
    exact bind looks fun _ => branch (bind moves fun _ => bind ih fun _ => pure rfl) (pure rfl)

/-- Items in parentheses are changed. -/
theorem parenthesised {item : Reader α} {other : Reader β} {change : α → β}
    (moves : Moves move change item other) :
    Moves move (Prod.map (List.map change) (Token.moved move)) (parenthesised item)
      (parenthesised other) := by
  refine bind (facing .rightParen) fun empty => ?_
  cases empty with
  | true => exact bind (closeBracket _) fun _ => pure rfl
  | false =>
    refine bind moves fun first => bind rounds fun bound => ?_
    refine bind (repeatWhile (accept .comma) moves bound) fun rest => ?_
    exact bind (closeBracket _) fun _ => pure rfl

/-- An item that is read is changed. -/
theorem some {item : Reader α} {other : Reader β} {change : α → β}
    (moves : Moves move change item other) :
    Moves move (Option.map change) (some <$> item) (some <$> other) := by
  rw [map_eq_pure_bind, map_eq_pure_bind]
  exact bind moves fun _ => pure rfl

/-- A reader goes on with what it reads if a condition holds, or unless it does. -/
theorem optional {condition : Prop} [Decidable condition] {item elseItem : Reader α}
    {other elseOther : Reader γ} {middle : α → γ} {next : α → Reader β}
    {otherNext : γ → Reader δ} {change : β → δ} (taken : Moves move middle item other)
    (passed : Moves move middle elseItem elseOther)
    (rest : ∀ found, Moves move change (next found) (otherNext (middle found))) :
    Moves move change (if condition then item >>= next else elseItem >>= next)
      (if condition then other >>= otherNext else elseOther >>= otherNext) :=
  branch (bind taken rest) (bind passed rest)

end Moves

/-- A written type is moved. -/
theorem moves_typeName : Moves move (TypeName.map move) typeName typeName := by
  refine .bind .current fun token => ?_
  dsimp only [Token.moved]
  cases Ty.ofName? token.lexeme with
  | none => exact .unexpected "type"
  | some type =>
    cases token.kind.isType with
    | false => exact .unexpected "type"
    | true => exact .bind .advance fun _ => .pure rfl

/-- Operators between moved operands are moved. -/
theorem moves_operators (joins : Joins move) {operand : Nat → Reader (Expr Place)}
    (moves : ∀ level, Moves move (Expr.map move) (operand level) (operand level))
    (minimum bound : Nat) (left : Expr Place) :
    Moves move (Expr.map move) (operators operand minimum bound left)
      (operators operand minimum bound (left.map move)) := by
  induction bound generalizing left with
  | zero => exact .pure rfl
  | succ bound ih =>
    refine .bind .current fun token => ?_
    dsimp only [Token.moved]
    cases BinaryOp.ofKind? token.kind with
    | none => exact .pure rfl
    | some op =>
      refine .branch (.bind .advance fun _ => .bind (moves _) fun right => ?_) (.pure rfl)
      have grouped := ih (.binary (left.note.through right.note) op left right)
      rw [Expr.map, joins] at grouped
      rw [Expr.note_map, Expr.note_map]
      exact grouped

mutual

/-- Moved tokens are read as the moved expression. -/
theorem moves_expression (joins : Joins move) :
    ∀ depth : Nat, Moves move (Expr.map move) (expression depth) (expression depth)
  | 0 => .tooDeep
  | depth + 1 => by
    unfold expression
    exact moves_binary joins depth 1

/-- Moved tokens are read as the moved operators with their operands. -/
theorem moves_binary (joins : Joins move) : ∀ depth minimum : Nat,
    Moves move (Expr.map move) (binary depth minimum) (binary depth minimum)
  | 0, _ => .tooDeep
  | depth + 1, minimum => by
    unfold binary
    refine .bind (moves_unary joins depth) fun left => .bind .rounds fun bound => ?_
    exact moves_operators joins (moves_binary joins depth) minimum bound left

/-- Moved tokens are read as the moved operand. -/
theorem moves_unary (joins : Joins move) :
    ∀ depth : Nat, Moves move (Expr.map move) (unary depth) (unary depth)
  | 0 => .tooDeep
  | depth + 1 => by
    unfold unary
    refine .bind .current fun token => ?_
    show Moves move _ (match UnaryOp.ofKind? token.kind with | some op => _ | none => _)
      (match UnaryOp.ofKind? token.kind with | some op => _ | none => _)
    cases UnaryOp.ofKind? token.kind with
    | none => exact moves_call joins depth
    | some op =>
      refine .bind .advance fun token => .bind (moves_unary joins depth) fun operand => .pure ?_
      rw [Expr.map, joins, Expr.note_map]
      rfl

/-- Moved tokens are read as the moved call. -/
theorem moves_call (joins : Joins move) :
    ∀ depth : Nat, Moves move (Expr.map move) (call depth) (call depth)
  | 0 => .tooDeep
  | depth + 1 => by
    unfold call
    refine .bind (moves_primary joins depth) fun callee => ?_
    cases callee with
    | read ident =>
      refine .bind (.facing _) fun _ => .branch ?_ (.pure rfl)
      refine .bind (.openBracket _ _) fun _ => ?_
      refine .bind (.parenthesised (moves_expression joins depth)) fun read => .pure ?_
      rw [Expr.map, joins, Expr.mapAll_eq]
      rfl
    | _ => exact .pure rfl

/-- Moved tokens are read as the moved literal, name or expression in parentheses. -/
theorem moves_primary (joins : Joins move) :
    ∀ depth : Nat, Moves move (Expr.map move) (primary depth) (primary depth)
  | 0 => .tooDeep
  | depth + 1 => by
    unfold primary
    refine .bind .current fun token => ?_
    obtain ⟨kind, lexeme, span, literal⟩ := token
    dsimp only [Token.moved]
    split
    · exact .bind .advance fun _ => .pure rfl
    · exact .bind .advance fun _ => .pure rfl
    · refine .bind (.openBracket _ _) fun _ => ?_
      refine .bind (moves_expression joins depth) fun inner => ?_
      exact .bind (.closeBracket _) fun _ => .pure rfl
    · exact .unexpected "expression"

end

/-- Moved tokens are read as the moved declaration of a variable. -/
theorem moves_binding (joins : Joins move) :
    ∀ depth : Nat, Moves move (Binding.map move) (binding depth) (binding depth)
  | 0 => .tooDeep
  | depth + 1 => by
    unfold binding
    refine .bind .advance fun start => .bind (.expect _ _) fun name => ?_
    refine .bind (.accept _) fun typed => ?_
    refine .optional (.some moves_typeName) (.pure rfl) fun type => ?_
    refine .bind (.expect _ _) fun _ => .bind (moves_expression joins depth) fun value => ?_
    exact .bind (.expect _ _) fun _ => .bind (.spanFrom joins start) fun span => .pure rfl

/-- Moved tokens are read as the moved assignment. -/
theorem moves_assignment (joins : Joins move) :
    ∀ depth : Nat, Moves move (Stmt.map move) (assignment depth) (assignment depth)
  | 0 => .tooDeep
  | depth + 1 => by
    unfold assignment
    refine .bind .advance fun target => .bind .advance fun _ => ?_
    refine .bind (moves_expression joins depth) fun value => .bind (.expect _ _) fun _ => ?_
    exact .bind (.spanFrom joins target) fun span => .pure rfl

/-- Moved tokens are read as the moved return. -/
theorem moves_leaving (joins : Joins move) :
    ∀ depth : Nat, Moves move (Stmt.map move) (leaving depth) (leaving depth)
  | 0 => .tooDeep
  | depth + 1 => by
    unfold leaving
    refine .bind .advance fun start => .bind (.facing _) fun empty => ?_
    refine .optional (.pure rfl) (.some (moves_expression joins depth)) fun value => ?_
    exact .bind (.expect _ _) fun _ => .bind (.spanFrom joins start) fun span => .pure rfl

/-- Whether an assignment is in front stays. -/
theorem moves_facingAssignment : Moves move id facingAssignment facingAssignment := by
  refine .looks fun state => ?_
  obtain ⟨ahead, final, last, opened⟩ := state
  match ahead with
  | [] => rfl
  | [first] => rfl
  | first :: second :: rest => rfl

/-- Whether a statement is in front stays. -/
theorem moves_insideBlock : Moves move id insideBlock insideBlock :=
  .looks fun state => by rw [State.current_moved]; rfl

/-- Whether the text has ended stays. -/
theorem moves_beforeEnd : Moves move id beforeEnd beforeEnd :=
  .looks fun state => by rw [State.current_moved]; rfl

mutual

/-- Moved tokens are read as the moved statement. -/
theorem moves_statement (joins : Joins move) :
    ∀ depth : Nat, Moves move (Stmt.map move) (statement depth) (statement depth)
  | 0 => .tooDeep
  | depth + 1 => by
    unfold statement
    refine .bind .current fun token => ?_
    obtain ⟨kind, lexeme, span, literal⟩ := token
    dsimp only [Token.moved]
    split
    · exact .bind (moves_binding joins depth) fun declared => .pure rfl
    · exact moves_conditional joins depth
    · exact moves_whileLoop joins depth
    · exact moves_forLoop joins depth
    · exact moves_leaving joins depth
    · exact .bind (moves_block joins depth) fun body => .pure rfl
    · refine .bind moves_facingAssignment fun found => .branch (moves_assignment joins depth) ?_
      refine .bind .current fun start => .bind (moves_expression joins depth) fun value => ?_
      exact .bind (.expect _ _) fun _ => .bind (.spanFrom joins start) fun span => .pure rfl

/-- Moved tokens are read as the moved conditional. -/
theorem moves_conditional (joins : Joins move) :
    ∀ depth : Nat, Moves move (Stmt.map move) (conditional depth) (conditional depth)
  | 0 => .tooDeep
  | depth + 1 => by
    unfold conditional
    refine .bind .advance fun start => .bind (moves_expression joins depth) fun test => ?_
    refine .bind (moves_block joins depth) fun body => .bind (.accept _) fun found => .branch ?_ ?_
    · refine .bind (.facing _) fun further => .branch ?_ ?_
      · exact .bind (moves_conditional joins depth) fun otherwise =>
          .bind (.spanFrom joins start) fun span => .pure rfl
      · exact .bind (moves_block joins depth) fun other =>
          .bind (.spanFrom joins start) fun span => .pure rfl
    · exact .bind (.spanFrom joins start) fun span => .pure rfl

/-- Moved tokens are read as the moved loop with a test. -/
theorem moves_whileLoop (joins : Joins move) :
    ∀ depth : Nat, Moves move (Stmt.map move) (whileLoop depth) (whileLoop depth)
  | 0 => .tooDeep
  | depth + 1 => by
    unfold whileLoop
    refine .bind .advance fun start => .bind (moves_expression joins depth) fun test => ?_
    exact .bind (moves_block joins depth) fun body =>
      .bind (.spanFrom joins start) fun span => .pure rfl

/-- Moved tokens are read as the moved loop over integers. -/
theorem moves_forLoop (joins : Joins move) :
    ∀ depth : Nat, Moves move (Stmt.map move) (forLoop depth) (forLoop depth)
  | 0 => .tooDeep
  | depth + 1 => by
    unfold forLoop
    refine .bind .advance fun start => .bind (.expect _ _) fun counter => ?_
    refine .bind (.expect _ _) fun _ => .bind (moves_expression joins depth) fun first => ?_
    refine .bind (.expect _ _) fun _ => .bind (moves_expression joins depth) fun bound => ?_
    exact .bind (moves_block joins depth) fun body =>
      .bind (.spanFrom joins start) fun span => .pure rfl

/-- Moved tokens are read as the moved block. -/
theorem moves_block (joins : Joins move) : ∀ depth : Nat,
    Moves move (Prod.map move (Stmt.mapAll move)) (block depth) (block depth)
  | 0 => .tooDeep
  | depth + 1 => by
    unfold block
    refine .bind .current fun start => .bind (.openBracket _ _) fun _ => ?_
    refine .bind .rounds fun bound => ?_
    refine .bind (.repeatWhile moves_insideBlock (moves_statement joins depth) bound) fun body => ?_
    refine .bind (.closeBracket _) fun _ => .bind (.spanFrom joins start) fun span => .pure ?_
    rw [Prod.map, Stmt.mapAll_eq]

end

/-- Moved tokens are read as the moved parameter. -/
theorem moves_param (joins : Joins move) : Moves move (Param.map move) param param := by
  unfold param
  refine .bind .current fun start => .bind (.expect _ _) fun name => .bind (.expect _ _) fun _ => ?_
  exact .bind moves_typeName fun type => .bind (.spanFrom joins start) fun span => .pure rfl

/-- Moved tokens are read as the moved function. -/
theorem moves_function (joins : Joins move) :
    ∀ depth : Nat, Moves move (Function.map move) (function depth) (function depth)
  | 0 => .tooDeep
  | depth + 1 => by
    unfold function
    refine .bind .advance fun start => .bind (.expect _ _) fun name => ?_
    refine .bind (.openBracket _ _) fun _ => ?_
    refine .bind (.parenthesised (moves_param joins)) fun params => ?_
    refine .bind (.accept _) fun typed => ?_
    refine .optional (.some moves_typeName) (.pure rfl) fun result => ?_
    exact .bind (moves_block joins depth) fun body =>
      .bind (.spanFrom joins start) fun span => .pure rfl

/-- Moved tokens are read as the moved declaration. -/
theorem moves_declaration (joins : Joins move) (depth : Nat) :
    Moves move (Declaration.map move) (declaration depth) (declaration depth) := by
  unfold declaration
  refine .bind .current fun token => ?_
  obtain ⟨kind, lexeme, span, literal⟩ := token
  dsimp only [Token.moved]
  split
  · exact .bind (moves_function joins depth) fun declared => .pure rfl
  · exact .bind (moves_binding joins depth) fun declared => .pure rfl
  · exact .unexpected _

/-- Moved tokens are read as the moved program. -/
theorem moves_program (joins : Joins move) (depth : Nat) (file : Option String) :
    Moves move (Program.map move) (program depth file) (program depth file) := by
  unfold program
  refine .bind .current fun start => .bind .rounds fun bound => ?_
  refine .bind (.repeatWhile moves_beforeEnd (moves_declaration joins depth) bound) fun found => ?_
  refine .bind .current fun stop => .pure ?_
  rw [Program.map, joins]
  rfl

end Parse

/-! ## Numbering -/

/-- A node at another place, with its number. -/
def Node.moved (move : Source.Span → Source.Span) (node : Node) : Node :=
  ⟨move node.span, node.id⟩

/-- Two numberings, the second of which takes the same numbers and gives a changed result. -/
def Counts {α β : Type} (change : α → β) (number : StateM Nat α) (other : StateM Nat β) : Prop :=
  ∀ next : Nat, other next = (change (number next).1, (number next).2)

namespace Counts

variable {α β γ δ : Type} {change : α → β}

/-- A result is changed. -/
theorem pure {result : α} {other : β} (same : change result = other) :
    Counts change (Pure.pure result) (Pure.pure other) :=
  fun next => congrArg (·, next) same.symm

/-- What numberings go on with is changed. -/
theorem bind {middle : γ → δ} {number : StateM Nat γ} {other : StateM Nat δ}
    {next : γ → StateM Nat α} {otherNext : δ → StateM Nat β} (first : Counts middle number other)
    (rest : ∀ found, Counts change (next found) (otherNext (middle found))) :
    Counts change (number >>= next) (other >>= otherNext) := by
  intro count
  show otherNext (other count).1 (other count).2 = _
  rw [first count]
  exact rest _ _

/-- The elements of a list are changed. -/
theorem mapM {number : γ → StateM Nat α} {move : γ → δ} {other : δ → StateM Nat β}
    (each : ∀ element, Counts change (number element) (other (move element))) :
    ∀ list : List γ, Counts (List.map change) (list.mapM number) ((list.map move).mapM other)
  | [] => pure rfl
  | element :: rest => by
    rw [List.map_cons, List.mapM_cons, List.mapM_cons]
    exact bind (each element) fun _ => bind (mapM each rest) fun _ => pure rfl

end Counts

section Numbering

variable (move : Source.Span → Source.Span)

/-- The next number is taken at the moved place. -/
theorem Node.take_moved (span : Source.Span) :
    Counts (Node.moved move) (Node.take span) (Node.take (move span)) :=
  fun _ => rfl

/-- A moved name is numbered as before. -/
theorem Ident.number_moved (ident : Ident Source.Span) :
    Counts (Ident.map (Node.moved move)) ident.number (ident.map move).number :=
  .bind (Node.take_moved move _) fun _ => .pure rfl

/-- A moved type is numbered as before. -/
theorem TypeName.number_moved (type : TypeName Source.Span) :
    Counts (TypeName.map (Node.moved move)) type.number (type.map move).number :=
  .bind (Node.take_moved move _) fun _ => .pure rfl

/-- A moved type that may be missing is numbered as before. -/
theorem TypeName.number?_moved : ∀ type : Option (TypeName Source.Span),
    Counts (Option.map (TypeName.map (Node.moved move))) (TypeName.number? type)
      (TypeName.number? (type.map (TypeName.map move)))
  | none => .pure rfl
  | some type => .bind (type.number_moved move) fun _ => .pure rfl

mutual

/-- A moved expression is numbered as before. -/
theorem Expr.number_moved : ∀ expr : Expr Source.Span,
    Counts (Expr.map (Node.moved move)) expr.number (expr.map move).number
  | .literal _ _ _ => .bind (Node.take_moved move _) fun _ => .pure rfl
  | .read ident => .bind (ident.number_moved move) fun _ => .pure rfl
  | .unary _ _ operand =>
    .bind (Node.take_moved move _) fun _ => .bind operand.number_moved fun _ => .pure rfl
  | .binary _ _ left right =>
    .bind (Node.take_moved move _) fun _ => .bind left.number_moved fun _ =>
      .bind right.number_moved fun _ => .pure rfl
  | .call _ callee arguments =>
    .bind (Node.take_moved move _) fun _ => .bind (callee.number_moved move) fun _ =>
      .bind (Expr.numberAll_moved arguments) fun _ => .pure rfl

/-- Moved expressions are numbered as before. -/
theorem Expr.numberAll_moved : ∀ exprs : List (Expr Source.Span),
    Counts (Expr.mapAll (Node.moved move)) (Expr.numberAll exprs)
      (Expr.numberAll (Expr.mapAll move exprs))
  | [] => .pure rfl
  | expr :: rest =>
    .bind expr.number_moved fun _ => .bind (Expr.numberAll_moved rest) fun _ => .pure rfl

end

/-- A moved declaration of a variable is numbered as before. -/
theorem Binding.number_moved (binding : Binding Source.Span) :
    Counts (Binding.map (Node.moved move)) binding.number (binding.map move).number :=
  .bind (Node.take_moved move _) fun _ => .bind (TypeName.number?_moved move _) fun _ =>
    .bind (Expr.number_moved move _) fun _ => .pure rfl

mutual

/-- A moved statement is numbered as before. -/
theorem Stmt.number_moved : ∀ stmt : Stmt Source.Span,
    Counts (Stmt.map (Node.moved move)) stmt.number (stmt.map move).number
  | .declare binding => .bind (binding.number_moved move) fun _ => .pure rfl
  | .assign _ target value =>
    .bind (Node.take_moved move _) fun _ => .bind (target.number_moved move) fun _ =>
      .bind (value.number_moved move) fun _ => .pure rfl
  | .leave _ none => .bind (Node.take_moved move _) fun _ => .pure rfl
  | .leave _ (some value) =>
    .bind (Node.take_moved move _) fun _ => .bind (value.number_moved move) fun _ => .pure rfl
  | .evaluate _ value =>
    .bind (Node.take_moved move _) fun _ => .bind (value.number_moved move) fun _ => .pure rfl
  | .block _ body =>
    .bind (Node.take_moved move _) fun _ => .bind (Stmt.numberAll_moved body) fun _ => .pure rfl
  | .ifThen _ test _ body =>
    .bind (Node.take_moved move _) fun _ => .bind (test.number_moved move) fun _ =>
      .bind (Node.take_moved move _) fun _ => .bind (Stmt.numberAll_moved body) fun _ => .pure rfl
  | .ifElse _ test _ body otherwise =>
    .bind (Node.take_moved move _) fun _ => .bind (test.number_moved move) fun _ =>
      .bind (Node.take_moved move _) fun _ => .bind (Stmt.numberAll_moved body) fun _ =>
        .bind otherwise.number_moved fun _ => .pure rfl
  | .whileLoop _ test _ body =>
    .bind (Node.take_moved move _) fun _ => .bind (test.number_moved move) fun _ =>
      .bind (Node.take_moved move _) fun _ => .bind (Stmt.numberAll_moved body) fun _ => .pure rfl
  | .forLoop _ _ first bound _ body =>
    .bind (Node.take_moved move _) fun _ => .bind (first.number_moved move) fun _ =>
      .bind (bound.number_moved move) fun _ => .bind (Node.take_moved move _) fun _ =>
        .bind (Stmt.numberAll_moved body) fun _ => .pure rfl

/-- Moved statements are numbered as before. -/
theorem Stmt.numberAll_moved : ∀ body : List (Stmt Source.Span),
    Counts (Stmt.mapAll (Node.moved move)) (Stmt.numberAll body)
      (Stmt.numberAll (Stmt.mapAll move body))
  | [] => .pure rfl
  | stmt :: rest =>
    .bind stmt.number_moved fun _ => .bind (Stmt.numberAll_moved rest) fun _ => .pure rfl

end

/-- A moved parameter is numbered as before. -/
theorem Param.number_moved (param : Param Source.Span) :
    Counts (Param.map (Node.moved move)) param.number (param.map move).number :=
  .bind (Node.take_moved move _) fun _ => .bind (TypeName.number_moved move _) fun _ => .pure rfl

/-- A moved function is numbered as before. -/
theorem Function.number_moved (function : Function Source.Span) :
    Counts (Function.map (Node.moved move)) function.number (function.map move).number :=
  .bind (Node.take_moved move _) fun _ => .bind (.mapM (Param.number_moved move) _) fun _ =>
    .bind (TypeName.number?_moved move _) fun _ => .bind (Node.take_moved move _) fun _ =>
      .bind (Stmt.numberAll_moved move _) fun _ => .pure rfl

/-- A moved declaration is numbered as before. -/
theorem Declaration.number_moved : ∀ declaration : Declaration Source.Span,
    Counts (Declaration.map (Node.moved move)) declaration.number (declaration.map move).number
  | .function declared => .bind (declared.number_moved move) fun _ => .pure rfl
  | .binding declared => .bind (declared.number_moved move) fun _ => .pure rfl

/-- A moved program is numbered as before. -/
theorem Program.number_moved (program : Program Source.Span) :
    (program.map move).number = program.number.map (Node.moved move) := by
  have counts : Counts (List.map (Declaration.map (Node.moved move)))
      (program.declarations.mapM Declaration.number)
      ((program.declarations.map (Declaration.map move)).mapM Declaration.number) :=
    .mapM (Declaration.number_moved move) _
  show Program.mk _ (((program.declarations.map _).mapM Declaration.number) 1).1 _ = _
  rw [counts 1]
  rfl

end Numbering

namespace Parse

/-- Moved tokens are read as the moved program; a failure is moved. -/
theorem ofTokens_moved {move : Source.Span → Source.Span} (joins : Joins move) (depth : Nat)
    (file : Option String) {tokens : List Token} (some : tokens ≠ []) :
    ofTokens depth file (tokens.map (Token.moved move)) = match ofTokens depth file tokens with
      | .ok program => .ok (program.map (Node.moved move))
      | .error error => .error (error.moved move) := by
  obtain ⟨inner, final, rfl⟩ : ∃ inner final, tokens = inner ++ [final] :=
    ⟨_, _, (List.dropLast_concat_getLast some).symm⟩
  have moves := moves_program joins depth file ⟨inner, final, inner.headD final, []⟩
  have start : (State.mk inner final (inner.headD final) []).moved move =
      ⟨inner.map (Token.moved move), final.moved move,
        (inner.map (Token.moved move)).headD (final.moved move), []⟩ := by
    cases inner <;> rfl
  rw [start] at moves
  unfold ofTokens
  rw [List.map_append, List.map_singleton]
  simp only [List.getLastD_concat, List.dropLast_concat]
  rw [moves]
  cases program depth file ⟨inner, final, inner.headD final, []⟩ with
  | error error => rfl
  | ok reached => exact congrArg Except.ok (Program.number_moved move reached.1)

end Parse

end Lag
