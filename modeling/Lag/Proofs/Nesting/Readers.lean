import Lag.Proofs.Nesting.Points

/-!
# Readers track brackets

The readers of constructs close the brackets that they open, and no others: a group, the arguments
of a call, the parameters of a function and a block are the only constructs with brackets, and every
other token that a reader consumes is none. The readers have a limited depth, and the proofs follow
it.
-/
namespace Lag.Parse

variable {α : Type} {root : State}

/-- The sign of an operator of two operands is no bracket. -/
theorem not_isBracket_of_binary {kind : TokenKind} {op : BinaryOp}
    (is : BinaryOp.ofKind? kind = some op) : kind.isBracket = false := by
  cases kind <;> first | rfl | cases is

/-- The sign of an operator of one operand is no bracket. -/
theorem not_isBracket_of_unary {kind : TokenKind} {op : UnaryOp}
    (is : UnaryOp.ofKind? kind = some op) : kind.isBracket = false := by
  cases kind <;> first | rfl | cases is

/-- A type is no bracket. -/
theorem not_isBracket_of_isType {kind : TokenKind} (is : kind.isType = true) :
    kind.isBracket = false := by
  cases kind <;> first | rfl | cases is

/-- A literal is no bracket. -/
theorem not_isBracket_of_isLiteral {kind : TokenKind} (is : kind.isLiteral = true) :
    kind.isBracket = false := by
  cases kind <;> first | rfl | cases is

namespace Keeps

/-- Items as long as a condition holds. -/
theorem repeatWhile {condition : Reader Bool} {item : Reader α} (looks : Keeps root condition)
    (keeps : Keeps root item) (bound : Nat) : Keeps root (repeatWhile condition item bound) := by
  induction bound with
  | zero => exact fun _ _ => .pure
  | succ bound ih =>
    intro opened state
    unfold Parse.repeatWhile
    refine (looks opened state).bind fun again reached => ?_
    split
    · refine (keeps opened reached).bind fun first after => ?_
      exact (ih opened after).bind fun _ _ => .pure
    · exact .pure

/-- Operators with their right operands. -/
theorem operators {operand : Nat → Reader (Expr Place)} (keeps : ∀ level, Keeps root (operand level))
    (minimum bound : Nat) (left : Expr Place) :
    Keeps root (operators operand minimum bound left) := by
  induction bound generalizing left with
  | zero => exact fun _ _ => .pure
  | succ bound ih =>
    intro opened state
    unfold Parse.operators
    refine .look ?_
    split
    · rename_i op is
      split
      · refine .advance (not_isBracket_of_binary is) ?_
        exact (keeps _ opened _).bind fun right after => ih _ opened after
      · exact .pure
    · exact .pure

/-- A written type. -/
theorem typeName : Keeps root typeName := by
  intro opened state
  unfold Parse.typeName
  refine .look ?_
  split
  · rename_i type _ isType
    exact .advance (not_isBracket_of_isType isType) .pure
  · exact .unexpected

end Keeps

/-- Items with commas between them, up to the parenthesis that closes the innermost open one. -/
theorem tracks_parenthesised {item : Reader α} (keeps : Keeps root item) {opener : Token}
    (is : opener.kind = .leftParen) (outer : List Token) (state : State) :
    Tracks root (opener :: outer) outer state (parenthesised item) := by
  have closes : closing opener.kind = .rightParen := by
    rw [is]
    rfl
  unfold parenthesised
  refine .look ?_
  split
  · exact (Tracks.closeBracket closes).bind fun _ _ => .pure
  · refine (keeps _ state).bind fun first reached => ?_
    refine .look ?_
    refine (Keeps.repeatWhile (Tracks.keeps_accept rfl) keeps _ _ reached).bind fun rest after => ?_
    exact (Tracks.closeBracket closes).bind fun _ _ => .pure

/-- A type after a sign, or none. -/
theorem tracks_typed {kind : TokenKind} (other : kind.isBracket = false)
    {next : Option (TypeName Place) → Reader α} {before after : List Token} {state : State}
    (rest : ∀ type reached, Tracks root before after reached (next type)) :
    Tracks root before after state
      (accept kind >>= fun found =>
        if found = true then (some <$> typeName) >>= next else pure none >>= next) := by
  refine (Tracks.keeps_accept other before state).bind fun found reached => ?_
  split
  · exact (Keeps.typeName before reached).map.bind rest
  · exact Tracks.pure.bind rest

mutual

/-- An expression. -/
theorem keeps_expression : ∀ depth, Keeps root (expression depth)
  | 0 => fun _ _ => .tooDeep
  | depth + 1 => keeps_binary depth 1

/-- Operators of two operands with their operands. -/
theorem keeps_binary : ∀ depth minimum, Keeps root (binary depth minimum)
  | 0, _ => fun _ _ => .tooDeep
  | depth + 1, minimum => fun opened state => by
    unfold binary
    refine (keeps_unary depth opened state).bind fun left reached => ?_
    refine .look ?_
    exact Keeps.operators (keeps_binary depth) minimum _ left opened reached

/-- An operand with the operators in front of it. -/
theorem keeps_unary : ∀ depth, Keeps root (unary depth)
  | 0 => fun _ _ => .tooDeep
  | depth + 1 => fun opened state => by
    unfold unary
    refine .look ?_
    split
    · rename_i op is
      refine .advance (not_isBracket_of_unary is) ?_
      exact (keeps_unary depth opened _).bind fun _ _ => .pure
    · exact keeps_call depth opened state

/-- An operand without operators. -/
theorem keeps_call : ∀ depth, Keeps root (call depth)
  | 0 => fun _ _ => .tooDeep
  | depth + 1 => fun opened state => by
    unfold call
    refine (keeps_primary depth opened state).bind fun callee reached => ?_
    split
    · refine .look ?_
      split
      · refine .openBracket rfl fun opener after is => ?_
        exact (tracks_parenthesised (keeps_expression depth) is opened after).bind fun _ _ => .pure
      · exact .pure
    · exact .pure

/-- A literal, a name or an expression in parentheses. -/
theorem keeps_primary : ∀ depth, Keeps root (primary depth)
  | 0 => fun _ _ => .tooDeep
  | depth + 1 => fun opened state => .relying fun scanned => by
    have apt := scanned.current
    unfold primary
    refine .look ?_
    split
    · rename_i value given
      have isLiteral : state.current.kind.isLiteral = true := by
        rw [← apt, given]
        rfl
      exact .advance (not_isBracket_of_isLiteral isLiteral) .pure
    · rename_i is
      exact .advance (by rw [is]; rfl) .pure
    · refine .openBracket rfl fun opener after is => ?_
      refine (keeps_expression depth _ after).bind fun inner last => ?_
      exact (Tracks.closeBracket (by rw [is]; rfl)).bind fun _ _ => .pure
    · exact .unexpected

end

/-- A declaration of a variable, at its first word. -/
theorem tracks_binding (depth : Nat) (opened : List Token) {state : State}
    (is : state.current.kind = .letWord) : Tracks root opened opened state (binding depth) := by
  cases depth with
  | zero => exact .tooDeep
  | succ depth =>
    unfold binding
    refine .advance (by rw [is]; rfl) ?_
    refine .expect rfl fun name _ => ?_
    refine tracks_typed rfl fun type _ => ?_
    refine .expect rfl fun _ reached => ?_
    refine (keeps_expression depth opened reached).bind fun value _ => ?_
    refine .expect rfl fun _ _ => ?_
    exact .look .pure

/-- An assignment, at the name of the variable. -/
theorem tracks_assignment (depth : Nat) (opened : List Token) {state : State}
    (isName : state.current.kind = .identifier)
    (isAssign : (state.ahead.tail.headD state.final).kind = .assign) :
    Tracks root opened opened state (assignment depth) := by
  cases depth with
  | zero => exact .tooDeep
  | succ depth =>
    unfold assignment
    refine .advance (by rw [isName]; rfl) ?_
    refine .advance (by rw [State.current_advanced, isAssign]; rfl) ?_
    refine (keeps_expression depth opened _).bind fun value _ => ?_
    refine .expect rfl fun _ _ => ?_
    exact .look .pure

/-- A return, at its word. -/
theorem tracks_leaving (depth : Nat) (opened : List Token) {state : State}
    (is : state.current.kind = .returnWord) : Tracks root opened opened state (leaving depth) := by
  cases depth with
  | zero => exact .tooDeep
  | succ depth =>
    unfold leaving
    refine .advance (by rw [is]; rfl) ?_
    refine .look ?_
    split
    · refine Tracks.pure.bind fun _ _ => ?_
      refine .expect rfl fun _ _ => ?_
      exact .look .pure
    · refine (keeps_expression depth opened _).map.bind fun value _ => ?_
      refine .expect rfl fun _ _ => ?_
      exact .look .pure

mutual

/-- A statement. -/
theorem keeps_statement : ∀ depth, Keeps root (statement depth)
  | 0 => fun _ _ => .tooDeep
  | depth + 1 => fun opened state => by
    unfold statement
    refine .look ?_
    split
    · rename_i is
      exact (tracks_binding depth opened is).bind fun _ _ => .pure
    · rename_i is
      exact tracks_conditional depth opened is
    · rename_i is
      exact tracks_whileLoop depth opened is
    · rename_i is
      exact tracks_forLoop depth opened is
    · rename_i is
      exact tracks_leaving depth opened is
    · exact (keeps_block depth opened state).bind fun _ _ => .pure
    · refine .look ?_
      split
      · rename_i assigns
        simp only [Bool.and_eq_true, beq_iff_eq] at assigns
        exact tracks_assignment depth opened assigns.1 assigns.2
      · refine .look ?_
        refine (keeps_expression depth opened state).bind fun value _ => ?_
        refine .expect rfl fun _ _ => ?_
        exact .look .pure

/-- A conditional, at its word. -/
theorem tracks_conditional : ∀ depth (opened : List Token) {state : State},
    state.current.kind = .ifWord → Tracks root opened opened state (conditional depth)
  | 0, _, _ => fun _ => .tooDeep
  | depth + 1, opened, state => fun is => by
    unfold conditional
    refine .advance (by rw [is]; rfl) ?_
    refine (keeps_expression depth opened _).bind fun test afterTest => ?_
    refine (keeps_block depth opened afterTest).bind fun body afterBody => ?_
    refine (Tracks.keeps_accept rfl opened afterBody).bind fun found afterElse => ?_
    split
    · refine .look ?_
      split
      · rename_i again
        have isIf : afterElse.current.kind = .ifWord := by simpa using again
        refine (tracks_conditional depth opened isIf).bind fun otherwise _ => ?_
        exact .look .pure
      · refine (keeps_block depth opened afterElse).bind fun other _ => ?_
        exact .look .pure
    · exact .look .pure

/-- A loop with a test, at its word. -/
theorem tracks_whileLoop : ∀ depth (opened : List Token) {state : State},
    state.current.kind = .whileWord → Tracks root opened opened state (whileLoop depth)
  | 0, _, _ => fun _ => .tooDeep
  | depth + 1, opened, state => fun is => by
    unfold whileLoop
    refine .advance (by rw [is]; rfl) ?_
    refine (keeps_expression depth opened _).bind fun test afterTest => ?_
    refine (keeps_block depth opened afterTest).bind fun body _ => ?_
    exact .look .pure

/-- A loop over integers, at its word. -/
theorem tracks_forLoop : ∀ depth (opened : List Token) {state : State},
    state.current.kind = .forWord → Tracks root opened opened state (forLoop depth)
  | 0, _, _ => fun _ => .tooDeep
  | depth + 1, opened, state => fun is => by
    unfold forLoop
    refine .advance (by rw [is]; rfl) ?_
    refine .expect rfl fun counter _ => ?_
    refine .expect rfl fun _ afterIn => ?_
    refine (keeps_expression depth opened afterIn).bind fun first _ => ?_
    refine .expect rfl fun _ afterDots => ?_
    refine (keeps_expression depth opened afterDots).bind fun bound afterBound => ?_
    refine (keeps_block depth opened afterBound).bind fun body _ => ?_
    exact .look .pure

/-- A block. -/
theorem keeps_block : ∀ depth, Keeps root (block depth)
  | 0 => fun _ _ => .tooDeep
  | depth + 1 => fun opened state => by
    unfold block
    refine .look ?_
    refine .openBracket rfl fun opener afterOpener is => ?_
    refine .look ?_
    have statements : Keeps root (repeatWhile insideBlock (statement depth)
        (afterOpener.ahead.length + 1)) :=
      .repeatWhile (fun _ _ => .looks) (keeps_statement depth) _
    refine (statements _ afterOpener).bind fun body _ => ?_
    refine (Tracks.closeBracket (by rw [is]; rfl)).bind fun _ _ => ?_
    exact .look .pure

end

/-- A parameter. -/
theorem keeps_param : Keeps root param := by
  intro opened state
  unfold param
  refine .look ?_
  refine .expect rfl fun name _ => ?_
  refine .expect rfl fun _ reached => ?_
  refine (Keeps.typeName opened reached).bind fun type _ => ?_
  exact .look .pure

/-- A function, at its first word. -/
theorem tracks_function (depth : Nat) (opened : List Token) {state : State}
    (is : state.current.kind = .fnWord) : Tracks root opened opened state (function depth) := by
  cases depth with
  | zero => exact .tooDeep
  | succ depth =>
    unfold function
    refine .advance (by rw [is]; rfl) ?_
    refine .expect rfl fun name _ => ?_
    refine .openBracket rfl fun opener afterOpener isOpener => ?_
    refine (tracks_parenthesised keeps_param isOpener opened afterOpener).bind fun params _ => ?_
    refine tracks_typed rfl fun result afterType => ?_
    refine (keeps_block depth opened afterType).bind fun body _ => ?_
    exact .look .pure

/-- A declaration of a function or of a variable. -/
theorem keeps_declaration (depth : Nat) : Keeps root (declaration depth) := by
  intro opened state
  unfold declaration
  refine .look ?_
  split
  · rename_i is
    exact (tracks_function depth opened is).bind fun _ _ => .pure
  · rename_i is
    exact (tracks_binding depth opened is).bind fun _ _ => .pure
  · exact .unexpected

/-- A program. -/
theorem keeps_program (depth : Nat) (file : Option String) : Keeps root (program depth file) := by
  intro opened state
  unfold program
  refine .look ?_
  refine .look ?_
  have declarations : Keeps root (repeatWhile beforeEnd (declaration depth)
      (state.ahead.length + 1)) :=
    .repeatWhile (fun _ _ => .looks) (keeps_declaration depth) _
  refine (declarations opened state).bind fun declared _ => ?_
  exact .look .pure

end Lag.Parse
