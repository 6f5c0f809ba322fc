import Lag.Proofs.Grammar.Rules

/-!
# The first and the last tokens of constructs

A reader chooses a construct by the token in front, and it tells an assignment from an expression by
the token after that. So the first token of an expression is of few kinds, and no token of an
expression is an assignment sign. The last token of a declaration is a semicolon or a closing brace.
-/
namespace Lag

/-- Whether an expression may start with a token of a kind. -/
def TokenKind.opensExpression : TokenKind → Bool
  | .intLiteral | .floatLiteral | .stringLiteral | .boolLiteral => true
  | .identifier | .leftParen | .not | .minus => true
  | _ => false

/-- Whether a statement may start with a token of a kind. -/
def TokenKind.opensStatement : TokenKind → Bool
  | .letWord | .ifWord | .whileWord | .forWord | .returnWord | .leftBrace => true
  | kind => kind.opensExpression

namespace Grammar

open Parse (Place)

/-- No token is an assignment sign. -/
abbrev Unassigned (text : List Token) : Prop := ∀ token ∈ text, token.kind ≠ .assign

/-- What the tokens of every expression have in common. -/
structure Shaped (text : List Token) : Prop where
  /-- The first token is one that an expression may start with. -/
  opens : ∃ first more, text = first :: more ∧ first.kind.opensExpression = true
  /-- No token is an assignment sign. -/
  unassigned : Unassigned text

/-- Nothing is no assignment sign. -/
theorem unassigned_nil : Unassigned [] := fun _ inside => nomatch inside

/-- A token of another kind before others. -/
theorem unassigned_cons {token : Token} {text : List Token} (other : token.kind ≠ .assign)
    (rest : Unassigned text) : Unassigned (token :: text) := by
  intro found inside
  rcases List.mem_cons.1 inside with rfl | later
  · exact other
  · exact rest found later

/-- Tokens one after another. -/
theorem unassigned_append {text more : List Token} (first : Unassigned text)
    (second : Unassigned more) : Unassigned (text ++ more) := by
  intro found inside
  rcases List.mem_append.1 inside with early | late
  · exact first found early
  · exact second found late

/-- One token is the shape of an expression. -/
theorem shaped_single {token : Token} (opens : token.kind.opensExpression = true)
    (other : token.kind ≠ .assign) : Shaped [token] :=
  ⟨⟨token, [], rfl, opens⟩, unassigned_cons other unassigned_nil⟩

/-- Tokens in parentheses have the shape of an expression. -/
theorem shaped_grouped {opener closer : Token} {text : List Token}
    (opens : opener.kind = .leftParen) (inside : Unassigned text)
    (closes : closer.kind = .rightParen) : Shaped (opener :: (text ++ [closer])) := by
  refine ⟨⟨opener, _, rfl, by rw [opens]; rfl⟩, unassigned_cons (by simp [opens]) ?_⟩
  exact unassigned_append inside (unassigned_cons (by simp [closes]) unassigned_nil)

/-- Tokens with the shape of an expression before others. -/
theorem Shaped.append {text more : List Token} (shaped : Shaped text) (rest : Unassigned more) :
    Shaped (text ++ more) := by
  obtain ⟨⟨first, others, rfl, opens⟩, unassigned⟩ := shaped
  exact ⟨⟨first, others ++ more, rfl, opens⟩, unassigned_append unassigned rest⟩

/-- A name has the shape of an expression. -/
theorem Name.shaped {text : List Token} {ident : Ident Place} (name : Name text ident) :
    Shaped text := by
  induction name with
  | word is => exact shaped_single (by rw [is]; rfl) (by simp [is])
  | grouped opens _ closes ih => exact shaped_grouped opens ih.unassigned closes

/-- The sign of an operator of two operands is no assignment sign. -/
theorem kind_of_binary {kind : TokenKind} {op : BinaryOp}
    (is : BinaryOp.ofKind? kind = some op) : kind ≠ .assign := by
  rintro rfl
  cases is

/-- The sign of an operator of one operand starts an expression. -/
theorem opens_of_unary {kind : TokenKind} {op : UnaryOp}
    (is : UnaryOp.ofKind? kind = some op) :
    kind.opensExpression = true ∧ kind ≠ .assign := by
  cases kind <;> first | exact ⟨rfl, by decide⟩ | cases is

/-- A literal starts an expression. -/
theorem opens_of_literal {kind : TokenKind} (is : kind.isLiteral = true) :
    kind.opensExpression = true ∧ kind ≠ .assign := by
  cases kind <;> first | exact ⟨rfl, by decide⟩ | cases is

/-- A literal is no operator. -/
theorem unary_of_literal {kind : TokenKind} (is : kind.isLiteral = true) :
    UnaryOp.ofKind? kind = none := by
  cases kind <;> first | rfl | cases is

mutual

/-- Tokens that write an expression have its shape. -/
theorem shaped_of_level {level : Nat} {text : List Token} {expr : Expr Place} :
    Level level text expr → Shaped text
  | .operand writes => shaped_of_prefixed writes
  | .higher writes => shaped_of_level writes
  | .operator _ left sign right =>
    (shaped_of_level left).append
      (unassigned_cons (kind_of_binary sign) (shaped_of_level right).unassigned)

/-- Tokens that write an operand with operators in front have the shape of an expression. -/
theorem shaped_of_prefixed {text : List Token} {expr : Expr Place} :
    Prefixed text expr → Shaped text
  | .operand writes => shaped_of_called writes
  | .operator sign writes =>
    ⟨⟨_, _, rfl, (opens_of_unary sign).1⟩,
      unassigned_cons (opens_of_unary sign).2 (shaped_of_prefixed writes).unassigned⟩

/-- Tokens that write an operand have the shape of an expression. -/
theorem shaped_of_called {text : List Token} {expr : Expr Place} : Called text expr → Shaped text
  | .operand writes => shaped_of_primary writes
  | .call name opens writes closes =>
    name.shaped.append
      (shaped_grouped opens (unassigned_of_arguments writes) closes).unassigned

/-- Tokens that write a primary have the shape of an expression. -/
theorem shaped_of_primary {text : List Token} {expr : Expr Place} :
    Primary text expr → Shaped text
  | .literal is _ => shaped_single (opens_of_literal is).1 (opens_of_literal is).2
  | .name is => shaped_single (by rw [is]; rfl) (by simp [is])
  | .grouped opens writes closes => shaped_grouped opens (shaped_of_level writes).unassigned closes

/-- No token of arguments is an assignment sign. -/
theorem unassigned_of_arguments {text : List Token} {exprs : List (Expr Place)} :
    Arguments text exprs → Unassigned text
  | .none => unassigned_nil
  | .some writes rest =>
    unassigned_append (shaped_of_level writes).unassigned (unassigned_of_further rest)

/-- No token of further arguments is an assignment sign. -/
theorem unassigned_of_further {text : List Token} {exprs : List (Expr Place)} :
    Further text exprs → Unassigned text
  | .none => unassigned_nil
  | .some is writes rest =>
    unassigned_cons (by simp [is])
      (unassigned_append (shaped_of_level writes).unassigned (unassigned_of_further rest))

end

/-- A token that starts an expression starts a statement. -/
theorem opensStatement_of_expression {kind : TokenKind} (opens : kind.opensExpression = true) :
    kind.opensStatement = true := by
  cases kind <;> first | rfl | cases opens

/-- A statement starts with one of the tokens for that. -/
theorem opens_of_statement {text : List Token} {stmt : Stmt Place}
    (writes : Statement text stmt) :
    ∃ first more, text = first :: more ∧ first.kind.opensStatement = true := by
  cases writes with
  | declare writes => cases writes with | binding is => exact ⟨_, _, rfl, by rw [is]; rfl⟩
  | assign is => exact ⟨_, _, rfl, by rw [is]; rfl⟩
  | leave is => exact ⟨_, _, rfl, by rw [is]; rfl⟩
  | leaveWith is => exact ⟨_, _, rfl, by rw [is]; rfl⟩
  | evaluate writes =>
    obtain ⟨first, more, same, opens⟩ := (shaped_of_level writes).opens
    cases same
    exact ⟨_, _, rfl, opensStatement_of_expression opens⟩
  | block writes => cases writes with | braces is => exact ⟨_, _, rfl, by rw [is]; rfl⟩
  | conditional writes =>
    cases writes with
    | plain is => exact ⟨_, _, rfl, by rw [is]; rfl⟩
    | otherwise is => exact ⟨_, _, rfl, by rw [is]; rfl⟩
    | chained is => exact ⟨_, _, rfl, by rw [is]; rfl⟩
  | whileLoop is => exact ⟨_, _, rfl, by rw [is]; rfl⟩
  | forLoop is => exact ⟨_, _, rfl, by rw [is]; rfl⟩

/-- A statement has a token. -/
theorem ne_nil_of_statement {text : List Token} {stmt : Stmt Place}
    (writes : Statement text stmt) : text ≠ [] := by
  obtain ⟨first, more, rfl, _⟩ := opens_of_statement writes
  exact List.cons_ne_nil _ _

/-- A declaration does not start with the end of the text. -/
theorem opens_of_declared {text : List Token} {declared : Declaration Place}
    (writes : Declared text declared) :
    ∃ first more, text = first :: more ∧ (first.kind != .endOfText) = true := by
  cases writes with
  | function is => exact ⟨_, _, rfl, by rw [is]; rfl⟩
  | binding writes => cases writes with | binding is => exact ⟨_, _, rfl, by rw [is]; rfl⟩

/-- A declaration has a token. -/
theorem ne_nil_of_declared {text : List Token} {declared : Declaration Place}
    (writes : Declared text declared) : text ≠ [] := by
  obtain ⟨first, more, rfl, _⟩ := opens_of_declared writes
  exact List.cons_ne_nil _ _

/-- A declaration ends with a semicolon or with a closing brace. -/
theorem last_of_declared {text : List Token} {declared : Declaration Place}
    (writes : Declared text declared) : ∀ last ∈ text.getLast?,
      last.kind = .semicolon ∨ last.kind = .rightBrace := by
  intro last inside
  cases writes with
  | function _ _ _ _ _ _ body =>
    cases body with
    | braces _ _ closes =>
      obtain rfl : _ = last := by simpa [List.getLast?_cons] using inside
      exact .inr closes
  | binding writes =>
    cases writes with
    | binding _ _ _ _ _ ends =>
      obtain rfl : _ = last := by simpa [List.getLast?_cons] using inside
      exact .inl ends

/-- Declarations end with a semicolon or with a closing brace. -/
theorem last_of_declarations {text : List Token} {declarations : List (Declaration Place)}
    (writes : Declarations text declarations) : ∀ last ∈ text.getLast?,
      last.kind = .semicolon ∨ last.kind = .rightBrace := by
  induction writes with
  | none => exact fun _ inside => nomatch inside
  | some declared _ ih =>
    intro last inside
    rw [List.getLast?_append, Option.mem_def, Option.or_eq_some_iff] at inside
    rcases inside with later | ⟨_, own⟩
    · exact ih last later
    · exact last_of_declared declared last own

end Grammar

end Lag
