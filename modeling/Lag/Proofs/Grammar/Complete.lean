import Lag.Proofs.Grammar.Reads
import Lag.Proofs.Grammar.Shape

/-!
# Readers accept the grammar

Tokens that write a construct are read as that construct, as long as the token after them is none
that the construct could go on with. A reader whose depth does not suffice is too deep instead, so
no bound on the depth is needed here. The theorems go along the derivation; the levels of operators
are climbed from the operands down, and an expression that was read is carried on as the left
operand of what follows it.
-/
namespace Lag

open Grammar

namespace Parse

variable {α β : Type}

/-- A reader of apt tokens returns a result and a state, unless it is too deep. -/
def Reaches (reader : Reader α) (state : State) (result : α) (next : State) : Prop :=
  (∀ token ∈ state.ahead, token.Apt) →
    match reader state with
    | .ok reached => reached = (result, next)
    | .error error => error.cause = .tooDeep

namespace Reaches

variable {text rest : List Token} {final last later : Token} {opened inside : List Token}
  {result : α} {next : State}

/-- A reader that returns at once. -/
theorem pure {state : State} : Reaches (Pure.pure result) state result state := fun _ => rfl

/-- A reader that is too deep. -/
theorem tooDeep {state : State} : Reaches Parse.tooDeep state result next := fun _ => rfl

/-- A reader goes on after another that has consumed some of the tokens ahead. -/
theorem follow {reader : Reader β} {goOn : β → Reader α} {middle : β} {state after : State}
    (kept : after.ahead <:+ state.ahead) (first : Reaches reader state middle after)
    (second : Reaches (goOn middle) after result next) :
    Reaches (reader >>= goOn) state result next := by
  intro apt
  have given := first apt
  rw [bind_apply]
  cases ran : reader state with
  | error error =>
    rw [ran] at given
    exact given
  | ok reached =>
    rw [ran] at given
    cases given
    exact second fun token inside => apt token (kept.subset inside)

/-- A reader goes on after another that has consumed some tokens in front. -/
theorem bind {reader : Reader β} {goOn : β → Reader α} {middle : β}
    (first : Reaches reader ⟨text ++ rest, final, last, opened⟩ middle
      ⟨rest, final, later, inside⟩)
    (second : Reaches (goOn middle) ⟨rest, final, later, inside⟩ result next) :
    Reaches (reader >>= goOn) ⟨text ++ rest, final, last, opened⟩ result next :=
  follow (List.suffix_append text rest) first second

/-- A reader goes on after a look at its state. -/
theorem look {look : State → β} {goOn : β → Reader α} {state : State}
    (rest : Reaches (goOn (look state)) state result next) :
    Reaches ((fun state => .ok (look state, state)) >>= goOn) state result next := rest

/-- A reader may rely on the tokens ahead. -/
theorem relying {reader : Reader α} {state : State}
    (reaches : (∀ token ∈ state.ahead, token.Apt) → Reaches reader state result next) :
    Reaches reader state result next := fun apt => reaches apt apt

/-- A reader goes on after another that has consumed the token in front. -/
theorem step {reader : Reader β} {goOn : β → Reader α} {middle : β} {token : Token}
    (first : Reaches reader ⟨token :: rest, final, last, opened⟩ middle
      ⟨rest, final, later, inside⟩)
    (second : Reaches (goOn middle) ⟨rest, final, later, inside⟩ result next) :
    Reaches (reader >>= goOn) ⟨token :: rest, final, last, opened⟩ result next :=
  follow (List.suffix_cons token rest) first second

/-- A reader goes on after it has consumed the token in front. -/
theorem advance {token : Token} {goOn : Token → Reader α}
    (second : Reaches (goOn token) ⟨rest, final, token, opened⟩ result next) :
    Reaches (Parse.advance >>= goOn) ⟨token :: rest, final, last, opened⟩ result next := by
  have first : Reaches Parse.advance ⟨token :: rest, final, last, opened⟩ token
    ⟨rest, final, token, opened⟩ := fun _ => rfl
  exact step first second

/-- Whether a token of its own kind is in front. -/
theorem facing_self {token : Token} {kind : TokenKind} (is : token.kind = kind) :
    (State.current ⟨token :: rest, final, last, opened⟩).kind == kind := by
  show (token.kind == kind) = true
  simpa using is

/-- A reader goes on after it has consumed a token of a kind. -/
theorem expect {token : Token} {kind : TokenKind} {expected : String} {goOn : Token → Reader α}
    (is : token.kind = kind)
    (second : Reaches (goOn token) ⟨rest, final, token, opened⟩ result next) :
    Reaches (Parse.expect kind expected >>= goOn) ⟨token :: rest, final, last, opened⟩ result
      next := by
  unfold Parse.expect Parse.facing
  rw [bind_assoc]
  refine look ?_
  rw [if_pos (facing_self is)]
  exact advance second

/-- A reader goes on after it has consumed a token of a kind. -/
theorem accept {token : Token} {kind : TokenKind} {goOn : Bool → Reader α}
    (is : token.kind = kind)
    (second : Reaches (goOn true) ⟨rest, final, token, opened⟩ result next) :
    Reaches (Parse.accept kind >>= goOn) ⟨token :: rest, final, last, opened⟩ result next := by
  unfold Parse.accept Parse.facing
  rw [bind_assoc]
  refine look ?_
  rw [if_pos (facing_self is), bind_assoc]
  exact advance second

/-- A reader goes on where a token of another kind is in front. -/
theorem reject {kind : TokenKind} {goOn : Bool → Reader α}
    (other : (rest.headD final).kind ≠ kind)
    (second : Reaches (goOn false) ⟨rest, final, last, opened⟩ result next) :
    Reaches (Parse.accept kind >>= goOn) ⟨rest, final, last, opened⟩ result next := by
  unfold Parse.accept Parse.facing
  rw [bind_assoc]
  refine look ?_
  rw [if_neg (by simpa [State.current] using other)]
  exact second

/-- A reader goes on after it has consumed an opening bracket, which is open then. -/
theorem openBracket {token : Token} {kind : TokenKind} {expected : String}
    {goOn : Unit → Reader α} (is : token.kind = kind)
    (second : Reaches (goOn ()) ⟨rest, final, token, token :: opened⟩ result next) :
    Reaches (Parse.openBracket kind expected >>= goOn) ⟨token :: rest, final, last, opened⟩
      result next := by
  unfold Parse.openBracket
  rw [bind_assoc]
  exact expect is second

/-- A reader goes on after it has consumed the closing bracket of an open bracket. -/
theorem closeBracket {token opener : Token} {kind : TokenKind} {goOn : Token → Reader α}
    (is : token.kind = kind)
    (second : Reaches (goOn token) ⟨rest, final, token, opened⟩ result next) :
    Reaches (Parse.closeBracket kind >>= goOn) ⟨token :: rest, final, last, opener :: opened⟩
      result next := by
  unfold Parse.closeBracket Parse.facing
  rw [bind_assoc]
  refine look ?_
  rw [if_pos (facing_self is), bind_assoc]
  have closed : Reaches (Parse.advance >>= goOn) ⟨token :: rest, final, last, opened⟩ result
    next := advance second
  exact closed

end Reaches

/-- What may follow an expression of a level: no argument list, and no operator that the expression
could take as its own. -/
def Ends (level : Nat) (kind : TokenKind) : Prop :=
  kind ≠ .leftParen ∧ ∀ op, BinaryOp.ofKind? kind = some op → op.level < level

/-- What may follow an expression of a level may follow one of a higher level. -/
theorem Ends.mono {level higher : Nat} {kind : TokenKind} (ends : Ends level kind)
    (le : level ≤ higher) : Ends higher kind :=
  ⟨ends.1, fun op is => Nat.lt_of_lt_of_le (ends.2 op is) le⟩

/-- A token that is no operator and no parenthesis may follow an expression. -/
theorem ends_of_none {level : Nat} {kind : TokenKind} (other : kind ≠ .leftParen)
    (none : BinaryOp.ofKind? kind = none) : Ends level kind :=
  ⟨other, fun op is => by rw [none] at is; cases is⟩

/-- Tokens that are read as a result from every state, when a token that may follow them does. -/
def Completes (reader : Nat → Reader α) (follows : TokenKind → Prop) (text : List Token)
    (result : α) : Prop :=
  ∀ depth rest final last opened, follows (rest.headD final).kind → ∃ later,
    Reaches (reader depth) ⟨text ++ rest, final, last, opened⟩ result
      ⟨rest, final, later, opened⟩

/-- Tokens that are read as an expression of a level and as the left operand of what follows. -/
def Climbs (level : Nat) (text : List Token) (expr : Expr Place) : Prop :=
  ∀ depth minimum rest final last opened, minimum ≤ level →
    Ends (level + 1) (rest.headD final).kind → ∃ later bound, rest.length < bound ∧
      ∀ result next,
        Reaches (operators (binary depth) minimum bound expr) ⟨rest, final, later, opened⟩ result
          next →
        Reaches (binary (depth + 1) minimum) ⟨text ++ rest, final, last, opened⟩ result next

/-- Operators end at a token that is none of them. -/
theorem reaches_operators_end {operand : Nat → Reader (Expr Place)} {minimum bound : Nat}
    {left : Expr Place} {rest : List Token} {final last : Token} {opened : List Token}
    (ends : Ends minimum (rest.headD final).kind) :
    Reaches (operators operand minimum bound left) ⟨rest, final, last, opened⟩ left
      ⟨rest, final, last, opened⟩ := by
  cases bound with
  | zero => exact .pure
  | succ bound =>
    unfold operators
    refine .look ?_
    split
    · rename_i op is
      have weaker := ends.2 op is
      rw [if_neg (Nat.not_le.2 weaker)]
      exact .pure
    · exact .pure

/-- An expression of a level is read alone where nothing goes on. -/
theorem Climbs.completes {level : Nat} {text : List Token} {expr : Expr Place}
    (climbs : Climbs level text expr) :
    Completes (fun depth => binary depth level) (Ends level) text expr := by
  intro depth rest final last opened ends
  cases depth with
  | zero => exact ⟨last, .tooDeep⟩
  | succ depth =>
    obtain ⟨later, bound, _, goesOn⟩ :=
      climbs depth level rest final last opened (Nat.le_refl _) (ends.mono (Nat.le_succ _))
    exact ⟨later, goesOn _ _ (reaches_operators_end ends)⟩

/-- An operand is an expression of the last level. -/
theorem climbs_of_unary {text : List Token} {expr : Expr Place}
    (completes : Completes unary (· ≠ .leftParen) text expr) : Climbs 7 text expr := by
  intro depth minimum rest final last opened _ ends
  obtain ⟨later, reaches⟩ := completes depth rest final last opened ends.1
  refine ⟨later, rest.length + 1, Nat.lt_succ_self _, fun result next goesOn => ?_⟩
  unfold binary
  exact reaches.bind (.look goesOn)

/-- An expression of a level is one of the level below. -/
theorem Climbs.higher {level : Nat} {text : List Token} {expr : Expr Place}
    (climbs : Climbs (level + 1) text expr) : Climbs level text expr :=
  fun depth minimum rest final last opened le ends =>
    climbs depth minimum rest final last opened (Nat.le_succ_of_le le) (ends.mono (Nat.le_succ _))

/-- An operator takes what was read before it as its left operand. -/
theorem Climbs.operator {level : Nat} {op : BinaryOp} {sign : Token} {before after : List Token}
    {left right : Expr Place} (levelIs : op.level = level) (first : Climbs level before left)
    (is : BinaryOp.ofKind? sign.kind = some op) (second : Climbs (level + 1) after right) :
    Climbs level (before ++ sign :: after)
      (.binary (left.note.through right.note) op left right) := by
  intro depth minimum rest final last opened le ends
  have signEnds : Ends (level + 1) sign.kind := by
    refine ⟨fun paren => ?_, fun other same => ?_⟩
    · rw [paren] at is
      cases is
    · rw [is] at same
      cases same
      omega
  obtain ⟨later, bound, enough, goesOn⟩ :=
    first depth minimum (sign :: (after ++ rest)) final last opened le signEnds
  obtain ⟨bound, rfl⟩ := Nat.exists_eq_add_of_lt enough
  obtain ⟨finish, operand⟩ :=
    second.completes depth rest final sign opened ends
  refine ⟨finish, after.length + rest.length + 1 + bound, by omega, fun result next follows => ?_⟩
  rw [List.append_assoc]
  refine goesOn result next ?_
  have rounds : (sign :: (after ++ rest)).length + bound + 1 =
      (after.length + rest.length + 1 + bound) + 1 := by simp
  rw [rounds]
  unfold operators
  refine .look ?_
  have facing : State.current ⟨sign :: (after ++ rest), final, later, opened⟩ = sign := rfl
  simp only [facing, is]
  rw [if_pos (by omega)]
  refine .advance ?_
  rw [levelIs]
  exact operand.bind follows

/-- An expression of the first level is an expression. -/
theorem Climbs.expression {text : List Token} {expr : Expr Place} (climbs : Climbs 1 text expr) :
    Completes expression (Ends 1) text expr := by
  intro depth rest final last opened ends
  cases depth with
  | zero => exact ⟨last, .tooDeep⟩
  | succ depth => exact climbs.completes depth rest final last opened ends

/-- An operand without operators in front of it. -/
theorem completes_unary {text : List Token} {expr : Expr Place}
    (noOperator : ∃ first more, text = first :: more ∧ UnaryOp.ofKind? first.kind = none)
    (completes : Completes call (· ≠ .leftParen) text expr) :
    Completes unary (· ≠ .leftParen) text expr := by
  obtain ⟨first, more, rfl, none⟩ := noOperator
  intro depth rest final last opened follows
  cases depth with
  | zero => exact ⟨last, .tooDeep⟩
  | succ depth =>
    obtain ⟨later, reaches⟩ := completes depth rest final last opened follows
    refine ⟨later, ?_⟩
    unfold unary
    refine .look ?_
    have facing : State.current ⟨first :: more ++ rest, final, last, opened⟩ = first := rfl
    simp only [facing, none]
    exact reaches

/-- An operand with an operator in front of it. -/
theorem completes_operator {op : UnaryOp} {sign : Token} {text : List Token} {operand : Expr Place}
    (is : UnaryOp.ofKind? sign.kind = some op)
    (completes : Completes unary (· ≠ .leftParen) text operand) :
    Completes unary (· ≠ .leftParen) (sign :: text)
      (.unary (sign.span.through operand.note) op operand) := by
  intro depth rest final last opened follows
  cases depth with
  | zero => exact ⟨last, .tooDeep⟩
  | succ depth =>
    obtain ⟨later, reaches⟩ := completes depth rest final sign opened follows
    refine ⟨later, ?_⟩
    unfold unary
    refine .look ?_
    have facing : State.current ⟨sign :: (text ++ rest), final, last, opened⟩ = sign := rfl
    simp only [List.cons_append, facing, is]
    exact .advance (reaches.bind .pure)

/-- A primary that nothing calls. -/
theorem completes_call {text : List Token} {expr : Expr Place}
    (completes : Completes primary (fun _ => True) text expr) :
    Completes call (· ≠ .leftParen) text expr := by
  intro depth rest final last opened follows
  cases depth with
  | zero => exact ⟨last, .tooDeep⟩
  | succ depth =>
    obtain ⟨later, reaches⟩ := completes depth rest final last opened trivial
    refine ⟨later, ?_⟩
    unfold call
    refine reaches.bind ?_
    split
    · refine .look ?_
      rw [if_neg (by simpa [State.current] using follows)]
      exact .pure
    · exact .pure

/-- A token whose kind is no literal carries no value. -/
theorem literal_eq_none {token : Token} (apt : token.Apt) (other : token.kind.isLiteral = false) :
    token.literal = none := by
  unfold Token.Apt at apt
  rw [other] at apt
  exact Option.isNone_iff_eq_none.1 (by simpa using apt)

/-- A literal. -/
theorem completes_literal {token : Token} {value : Literal} (given : token.literal = some value) :
    Completes primary (fun _ => True) [token] (.literal token.span value token.lexeme) := by
  intro depth rest final last opened _
  cases depth with
  | zero => exact ⟨last, .tooDeep⟩
  | succ depth =>
    refine ⟨token, ?_⟩
    unfold primary
    refine .look ?_
    have facing : State.current ⟨[token] ++ rest, final, last, opened⟩ = token := rfl
    simp only [facing, given]
    exact .advance .pure

/-- A name that is one word. -/
theorem completes_word {token : Token} (is : token.kind = .identifier) :
    Completes primary (fun _ => True) [token] (.read ⟨token.span, token.lexeme⟩) := by
  intro depth rest final last opened _
  cases depth with
  | zero => exact ⟨last, .tooDeep⟩
  | succ depth =>
    refine ⟨token, .relying fun apt => ?_⟩
    have noValue := literal_eq_none (apt token (by simp)) (by rw [is]; rfl)
    unfold primary
    refine .look ?_
    have facing : State.current ⟨[token] ++ rest, final, last, opened⟩ = token := rfl
    simp only [facing, noValue, is]
    exact .advance .pure

/-- An expression in parentheses. -/
theorem completes_grouped {opener closer : Token} {text : List Token} {expr : Expr Place}
    (opens : opener.kind = .leftParen) (completes : Completes expression (Ends 1) text expr)
    (closes : closer.kind = .rightParen) :
    Completes primary (fun _ => True) (opener :: (text ++ [closer])) expr := by
  intro depth rest final last opened _
  cases depth with
  | zero => exact ⟨last, .tooDeep⟩
  | succ depth =>
    obtain ⟨later, reaches⟩ := completes depth (closer :: rest) final opener (opener :: opened)
      (ends_of_none (by simp [closes]) (by simp [closes, BinaryOp.ofKind?]))
    refine ⟨closer, .relying fun apt => ?_⟩
    have noValue := literal_eq_none (apt opener (by simp)) (by rw [opens]; rfl)
    unfold primary
    refine .look ?_
    have facing : State.current ⟨opener :: (text ++ [closer]) ++ rest, final, last, opened⟩ =
      opener := rfl
    simp only [facing, noValue, opens]
    rw [List.cons_append, List.append_assoc]
    exact .openBracket opens (reaches.bind (.closeBracket closes .pure))

/-- A primary is an expression where no argument list follows. -/
theorem expression_of_primary {text : List Token} {expr : Expr Place}
    (noOperator : ∃ first more, text = first :: more ∧ UnaryOp.ofKind? first.kind = none)
    (completes : Completes primary (fun _ => True) text expr) :
    Completes expression (Ends 1) text expr :=
  (climbs_of_unary (completes_unary noOperator (completes_call completes))).higher.higher.higher
    |>.higher.higher.higher.expression

/-- A name starts with no operator. -/
theorem noOperator_of_name {text : List Token} {ident : Ident Place} (name : Name text ident) :
    ∃ first more, text = first :: more ∧ UnaryOp.ofKind? first.kind = none := by
  cases name with
  | word is => exact ⟨_, _, rfl, by rw [is]; rfl⟩
  | grouped opens => exact ⟨_, _, rfl, by rw [opens]; rfl⟩

/-- An operand without operators starts with none. -/
theorem noOperator_of_called {text : List Token} {expr : Expr Place} (called : Called text expr) :
    ∃ first more, text = first :: more ∧ UnaryOp.ofKind? first.kind = none := by
  cases called with
  | operand writes =>
    cases writes with
    | literal is => exact ⟨_, _, rfl, unary_of_literal is⟩
    | name is => exact ⟨_, _, rfl, by rw [is]; rfl⟩
    | grouped opens => exact ⟨_, _, rfl, by rw [opens]; rfl⟩
  | call name =>
    obtain ⟨first, more, rfl, none⟩ := noOperator_of_name name
    exact ⟨first, _, rfl, none⟩

/-- A name is read as a name. -/
theorem completes_name {text : List Token} {ident : Ident Place} (name : Name text ident) :
    Completes primary (fun _ => True) text (.read ident) := by
  induction name with
  | word is => exact completes_word is
  | grouped opens name closes ih =>
    exact completes_grouped opens (expression_of_primary (noOperator_of_name name) ih) closes

/-! ## Lists -/

/-- Tokens that are read as items after commas, up to a closing parenthesis. -/
structure Separates (item : Nat → Reader α) (text : List Token) (values : List α) : Prop where
  /-- They start with a comma if there are any. -/
  starts : text = [] ∨ ∃ comma more, text = comma :: more ∧ Token.kind comma = .comma
  /-- They are read, in rounds enough. -/
  reaches : ∀ depth bound (closer : Token) rest final last opened, closer.kind = .rightParen →
    text.length < bound → ∃ later,
      Reaches (repeatWhile (accept .comma) (item depth) bound)
        ⟨text ++ closer :: rest, final, last, opened⟩ values
        ⟨closer :: rest, final, later, opened⟩

/-- No items. -/
theorem Separates.none {item : Nat → Reader α} : Separates item [] [] where
  starts := .inl rfl
  reaches depth bound closer rest final last opened closes _ := by
    refine ⟨last, ?_⟩
    cases bound with
    | zero => exact .pure
    | succ bound => exact .reject (by simp [closes]) .pure

/-- Items after commas are followed by a comma or by a closing parenthesis. -/
theorem Separates.follows {item : Nat → Reader α} {text : List Token} {values : List α}
    (separates : Separates item text values) {closer : Token} (closes : closer.kind = .rightParen)
    {follows : TokenKind → Prop} (comma : follows .comma) (ending : follows .rightParen)
    (rest : List Token) (final : Token) :
    follows ((text ++ closer :: rest).headD final).kind := by
  rcases separates.starts with rfl | ⟨sign, more, rfl, is⟩
  · rw [List.nil_append, List.headD_cons, closes]
    exact ending
  · rw [List.cons_append, List.headD_cons, is]
    exact comma

/-- An item after a comma, before others. -/
theorem Separates.some {item : Nat → Reader α} {follows : TokenKind → Prop} {comma : Token}
    {text rest : List Token} {value : α} {others : List α} (between : follows .comma)
    (ending : follows .rightParen) (is : comma.kind = .comma)
    (completes : Completes item follows text value) (separates : Separates item rest others) :
    Separates item (comma :: (text ++ rest)) (value :: others) where
  starts := .inr ⟨comma, _, rfl, is⟩
  reaches depth bound closer after final last opened closes enough := by
    obtain ⟨bound, rfl⟩ := Nat.exists_eq_add_one_of_ne_zero (Nat.ne_zero_of_lt enough)
    have fewer : rest.length < bound := by
      simp only [List.length_cons, List.length_append] at enough
      omega
    obtain ⟨middle, first⟩ := completes depth (rest ++ closer :: after) final comma opened
      (separates.follows closes between ending after final)
    obtain ⟨later, second⟩ :=
      separates.reaches depth bound closer after final middle opened closes fewer
    refine ⟨later, ?_⟩
    unfold repeatWhile
    rw [List.cons_append, List.append_assoc]
    exact .accept is (first.bind (second.bind .pure))

/-- No items in parentheses. -/
theorem reaches_parenthesised_none {item : Reader α} {closer opener : Token} {rest : List Token}
    {final last : Token} {opened : List Token} (closes : closer.kind = .rightParen) :
    Reaches (parenthesised item) ⟨closer :: rest, final, last, opener :: opened⟩ ([], closer)
      ⟨rest, final, closer, opened⟩ := by
  unfold parenthesised
  refine .look ?_
  rw [if_pos (Reaches.facing_self closes)]
  exact .closeBracket closes .pure

/-- Items in parentheses. -/
theorem reaches_parenthesised_some {item : Nat → Reader α} {follows : TokenKind → Prop}
    {text more : List Token} {value : α} {others : List α} (between : follows .comma)
    (ending : follows .rightParen)
    (starts : ∃ first after, text = first :: after ∧ Token.kind first ≠ .rightParen)
    (completes : Completes item follows text value) (separates : Separates item more others)
    (depth : Nat) {closer opener : Token} {rest : List Token} {final last : Token}
    {opened : List Token} (closes : closer.kind = .rightParen) :
    Reaches (parenthesised (item depth))
      ⟨text ++ more ++ closer :: rest, final, last, opener :: opened⟩ (value :: others, closer)
      ⟨rest, final, closer, opened⟩ := by
  obtain ⟨middle, first⟩ := completes depth (more ++ closer :: rest) final last
    (opener :: opened) (separates.follows closes between ending rest final)
  obtain ⟨later, second⟩ :=
    separates.reaches depth ((more ++ closer :: rest).length + 1) closer rest final middle
      (opener :: opened) closes (by simp only [List.length_append]; omega)
  unfold parenthesised
  refine .look ?_
  obtain ⟨start, after, rfl, other⟩ := starts
  have facing : State.current ⟨start :: after ++ more ++ closer :: rest, final, last,
    opener :: opened⟩ = start := rfl
  rw [facing, if_neg (by simpa using other), List.append_assoc]
  exact first.bind (.look (second.bind (.closeBracket closes .pure)))

/-- Tokens that are read as arguments up to a closing parenthesis, inside an open one. -/
def Closes (item : Nat → Reader α) (text : List Token) (values : List α) : Prop :=
  ∀ depth (closer opener : Token) rest final last opened, closer.kind = .rightParen →
    Reaches (parenthesised (item depth))
      ⟨text ++ closer :: rest, final, last, opener :: opened⟩ (values, closer)
      ⟨rest, final, closer, opened⟩

/-- A name that is called. -/
theorem completes_arguments {opener closer : Token} {name text : List Token} {callee : Ident Place}
    {arguments : List (Expr Place)} (written : Name name callee) (opens : opener.kind = .leftParen)
    (inside : Closes expression text arguments) (closes : closer.kind = .rightParen) :
    Completes call (· ≠ .leftParen) (name ++ opener :: (text ++ [closer]))
      (.call (callee.note.through closer.span) callee arguments) := by
  intro depth rest final last opened _
  cases depth with
  | zero => exact ⟨last, .tooDeep⟩
  | succ depth =>
    obtain ⟨middle, first⟩ :=
      completes_name written depth (opener :: (text ++ closer :: rest)) final last opened trivial
    refine ⟨closer, ?_⟩
    have given := inside depth closer opener rest final opener opened closes
    unfold call
    have assoc : name ++ opener :: (text ++ [closer]) ++ rest =
      name ++ opener :: (text ++ closer :: rest) := by simp
    rw [assoc]
    refine first.bind (.look ?_)
    rw [if_pos (Reaches.facing_self opens)]
    have kept : rest <:+ text ++ closer :: rest :=
      (List.suffix_cons closer rest).trans (List.suffix_append text _)
    exact .openBracket opens (.follow kept given .pure)

/-- A comma may follow an expression. -/
theorem ends_comma : Ends 1 .comma := ends_of_none (by decide) rfl

/-- A closing parenthesis may follow an expression. -/
theorem ends_rightParen : Ends 1 .rightParen := ends_of_none (by decide) rfl

/-- An expression does not start with a closing parenthesis. -/
theorem starts_of_shaped {text : List Token} (shaped : Shaped text) :
    ∃ first after, text = first :: after ∧ Token.kind first ≠ .rightParen := by
  obtain ⟨first, after, rfl, opens⟩ := shaped.opens
  refine ⟨first, after, rfl, fun closes => ?_⟩
  rw [closes] at opens
  cases opens

mutual

/-- Tokens that write an expression of a level are read as it, and carried on. -/
theorem climbs_of_level {level : Nat} {text : List Token} {expr : Expr Place} :
    Level level text expr → Climbs level text expr
  | .operand writes => climbs_of_unary (completes_of_prefixed writes)
  | .higher writes => (climbs_of_level writes).higher
  | .operator is left sign right => .operator is (climbs_of_level left) sign (climbs_of_level right)

/-- Tokens that write an operand with operators in front are read as it. -/
theorem completes_of_prefixed {text : List Token} {expr : Expr Place} :
    Prefixed text expr → Completes unary (· ≠ .leftParen) text expr
  | .operand writes => completes_unary (noOperator_of_called writes) (completes_of_called writes)
  | .operator sign writes => completes_operator sign (completes_of_prefixed writes)

/-- Tokens that write an operand are read as it. -/
theorem completes_of_called {text : List Token} {expr : Expr Place} :
    Called text expr → Completes call (· ≠ .leftParen) text expr
  | .operand writes => completes_call (completes_of_primary writes)
  | .call name opens writes closes =>
    completes_arguments name opens (closes_of_arguments writes) closes

/-- Tokens that write a primary are read as it. -/
theorem completes_of_primary {text : List Token} {expr : Expr Place} :
    Primary text expr → Completes primary (fun _ => True) text expr
  | .literal _ given => completes_literal given
  | .name is => completes_word is
  | .grouped opens writes closes => completes_grouped opens (climbs_of_level writes).expression closes

/-- Tokens that write arguments are read as them. -/
theorem closes_of_arguments {text : List Token} {exprs : List (Expr Place)} :
    Arguments text exprs → Closes expression text exprs
  | .none => fun _ _ _ _ _ _ _ closes => reaches_parenthesised_none closes
  | .some writes rest => fun depth _ _ _ _ _ _ closes =>
    reaches_parenthesised_some ends_comma ends_rightParen
      (starts_of_shaped (shaped_of_level writes)) (climbs_of_level writes).expression
      (separates_of_further rest) depth closes

/-- Tokens that write further arguments are read as them. -/
theorem separates_of_further {text : List Token} {exprs : List (Expr Place)} :
    Further text exprs → Separates expression text exprs
  | .none => .none
  | .some is writes rest =>
    .some ends_comma ends_rightParen is (climbs_of_level writes).expression
      (separates_of_further rest)

end

/-- Tokens that write an expression are read as it. -/
theorem completes_expression {text : List Token} {expr : Expr Place}
    (writes : Expression text expr) : Completes expression (Ends 1) text expr :=
  (climbs_of_level writes).expression

end Parse

end Lag
