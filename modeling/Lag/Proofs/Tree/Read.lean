import Lag.Proofs.Tree.Regular
import Lag.Tree.Parse

/-!
# Reading gives regular trees

Readers only pass on what tokens carry: a name that they put into a tree is the lexeme of an
identifier, and a literal is the value of a token. So the program that is read from sound tokens is
regular.
-/
namespace Lag

/-- A token that carries a name if it is an identifier, and that carries values of tokens only. -/
structure Token.Sound (token : Token) : Prop where
  /-- An identifier is a name. -/
  name : token.kind = .identifier → Scan.IsName token.lexeme
  /-- A value is that of a token. -/
  value : ∀ value ∈ token.literal, Scan.IsWritten value

namespace Parse

/-- A state of a reader with sound tokens ahead. -/
structure State.Sound (state : State) : Prop where
  /-- The tokens ahead are sound. -/
  ahead : ∀ token ∈ state.ahead, token.Sound
  /-- The token for the end of the text is sound. -/
  final : state.final.Sound

/-- The token in front of sound tokens is sound. -/
theorem State.Sound.current {state : State} (sound : state.Sound) : state.current.Sound := by
  unfold State.current
  cases ahead : state.ahead with
  | nil => exact sound.final
  | cons token rest => exact sound.ahead token (by rw [ahead]; exact List.mem_cons_self)

/-- A reader that keeps tokens sound and whose result has a property. -/
def Gives {α : Type} (reader : Reader α) (property : α → Prop) : Prop :=
  ∀ state : State, state.Sound → ∀ result next, reader state = .ok (result, next) →
    next.Sound ∧ property result

namespace Gives

variable {α β : Type}

/-- A result has a property that it has anyway. -/
theorem pure {property : α → Prop} {result : α} (holds : property result) :
    Gives (Pure.pure result) property := by
  intro state sound given next read
  have same : (Except.ok (result, state) : Except Error _) = .ok (given, next) := read
  cases same
  exact ⟨sound, holds⟩

/-- A property of a result may be weakened. -/
theorem mono {reader : Reader α} {property weaker : α → Prop} (gives : Gives reader property)
    (weaken : ∀ result, property result → weaker result) : Gives reader weaker := by
  intro state sound result next read
  obtain ⟨kept, holds⟩ := gives state sound result next read
  exact ⟨kept, weaken result holds⟩

/-- A reader goes on with a result that has its property. -/
theorem bind {reader : Reader α} {next : α → Reader β} {between : α → Prop} {property : β → Prop}
    (first : Gives reader between) (rest : ∀ middle, between middle → Gives (next middle) property) :
    Gives (reader >>= next) property := by
  intro state sound result last read
  rw [bind_apply] at read
  cases ran : reader state with
  | error error =>
    rw [ran] at read
    cases read
  | ok reached =>
    obtain ⟨middle, after⟩ := reached
    rw [ran] at read
    obtain ⟨kept, holds⟩ := first state sound middle after ran
    exact rest middle holds after kept result last read

/-- A reader that only fails gives nothing. -/
theorem fails {property : α → Prop} {reader : Reader α}
    (fails : ∀ state, ∃ error, reader state = .error error) : Gives reader property := by
  intro state _ result next read
  obtain ⟨error, failed⟩ := fails state
  rw [failed] at read
  cases read

/-- A reader that does not change what it keeps gives what it looks at. -/
theorem looks {property : α → Prop} {look : State → α}
    (holds : ∀ state : State, state.Sound → property (look state)) :
    Gives (fun state => .ok (look state, state)) property := by
  intro state sound result next read
  cases read
  exact ⟨sound, holds state sound⟩

/-- A look at what a reader keeps says nothing. -/
theorem peeks {look : State → α} : Gives (fun state => .ok (look state, state)) fun _ => True :=
  looks fun _ _ => trivial

/-- The token in front is sound. -/
theorem current : Gives current Token.Sound := looks fun _ sound => sound.current

/-- A look at the token in front says nothing about it. -/
theorem facing (kind : TokenKind) : Gives (facing kind) fun _ => True := peeks

/-- Fewer sound tokens are sound. -/
theorem advance : Gives advance Token.Sound := by
  intro state sound result next read
  unfold Parse.advance at read
  cases ahead : state.ahead with
  | nil =>
    rw [ahead] at read
    cases read
    exact ⟨sound, sound.final⟩
  | cons token rest =>
    rw [ahead] at read
    cases read
    have inside := sound.ahead
    rw [ahead] at inside
    exact ⟨⟨fun other later => inside other (List.mem_cons_of_mem _ later), sound.final⟩,
      inside _ List.mem_cons_self⟩

/-- A token of a kind that is consumed is sound and of that kind. -/
theorem expect (kind : TokenKind) (expected : String) :
    Gives (expect kind expected) fun token => token.Sound ∧ token.kind = kind := by
  intro state sound result next read
  have opened : Parse.expect kind expected state =
      if state.current.kind == kind then Parse.advance state
      else .error (state.failure expected) := by
    show (if state.current.kind == kind then Parse.advance else unexpected expected) state = _
    split <;> rfl
  rw [opened] at read
  by_cases is : state.current.kind = kind
  · rw [if_pos (by simpa using is)] at read
    obtain ⟨kept, good⟩ := advance state sound result next read
    refine ⟨kept, good, ?_⟩
    rw [← is]
    unfold Parse.advance at read
    unfold State.current
    cases ahead : state.ahead with
    | nil =>
      rw [ahead] at read
      cases read
      rfl
    | cons token rest =>
      rw [ahead] at read
      cases read
      rfl
  · rw [if_neg (by simpa using is)] at read
    cases read

/-- Changing which brackets are open changes no token. -/
theorem opened (change : State → List Token) :
    Gives (modify fun state => { state with opened := change state }) fun _ => True := by
  intro state sound result next read
  have same : (Except.ok ((), { state with opened := change state }) : Except Error _) =
    .ok (result, next) := read
  cases same
  exact ⟨⟨sound.ahead, sound.final⟩, trivial⟩

/-- A token that is consumed if it is there leaves sound tokens. -/
theorem accept (kind : TokenKind) : Gives (accept kind) fun _ => True := by
  refine bind (facing kind) fun found _ => ?_
  cases found with
  | true => exact bind advance fun _ _ => pure trivial
  | false => exact pure trivial

/-- An opening bracket leaves sound tokens. -/
theorem openBracket (kind : TokenKind) (expected : String) :
    Gives (openBracket kind expected) fun _ => True :=
  bind (expect kind expected) fun _ _ => opened _

/-- A closing bracket leaves sound tokens. -/
theorem closeBracket (kind : TokenKind) : Gives (closeBracket kind) fun _ => True := by
  refine bind (facing kind) fun found _ => ?_
  cases found with
  | true => exact bind (opened _) fun _ _ => advance.mono fun _ _ => trivial
  | false =>
    refine fails fun state => ?_
    cases opened : state.opened with
    | nil => exact ⟨_, by simp only [Bool.false_eq_true, if_false, opened]; rfl⟩
    | cons opener rest => exact ⟨_, by simp only [Bool.false_eq_true, if_false, opened]; rfl⟩

/-- A span says nothing about tokens. -/
theorem spanFrom (start : Token) : Gives (spanFrom start) fun _ => True := peeks

/-- A bound says nothing about tokens. -/
theorem rounds : Gives rounds fun _ => True := peeks

/-- Repeated items have the property of one. -/
theorem repeatWhile {condition : Reader Bool} {item : Reader α} {property : α → Prop}
    (looks : Gives condition fun _ => True) (gives : Gives item property) (bound : Nat) :
    Gives (repeatWhile condition item bound) fun items => ∀ item ∈ items, property item := by
  induction bound with
  | zero => exact pure (by simp)
  | succ bound ih =>
    refine bind looks fun goesOn _ => ?_
    cases goesOn with
    | false => exact pure (by simp)
    | true =>
      refine bind gives fun first firstHolds => bind ih fun rest restHolds => pure ?_
      intro item inside
      rcases List.mem_cons.1 inside with rfl | later
      · exact firstHolds
      · exact restHolds item later

/-- Items in parentheses have the property of one. -/
theorem parenthesised {item : Reader α} {property : α → Prop} (gives : Gives item property) :
    Gives (parenthesised item) fun read => ∀ item ∈ read.1, property item := by
  refine bind (facing .rightParen) fun empty _ => ?_
  cases empty with
  | true => exact bind (closeBracket _) fun _ _ => pure (by simp)
  | false =>
    refine bind gives fun first firstHolds => bind rounds fun bound _ => ?_
    refine bind (repeatWhile (accept .comma) gives bound) fun rest restHolds => ?_
    refine bind (closeBracket _) fun _ _ => pure ?_
    intro item inside
    rcases List.mem_cons.1 inside with rfl | later
    · exact firstHolds
    · exact restHolds item later

/-- A reader goes on with what it read if a condition holds. -/
theorem optional {condition : Bool} {item : Reader α} {next : Option α → Reader β}
    {property : α → Prop} {goal : β → Prop} (gives : Gives item property)
    (rest : ∀ given : Option α, (∀ value ∈ given, property value) → Gives (next given) goal) :
    Gives (if condition then (some <$> item) >>= next else Pure.pure none >>= next) goal := by
  cases condition with
  | true =>
    simp only [if_true, map_eq_pure_bind, bind_assoc, pure_bind]
    exact bind gives fun value holds => rest (some value) (by simpa using holds)
  | false =>
    simp only [Bool.false_eq_true, if_false, pure_bind]
    exact rest none (by simp)

/-- A reader goes on with what it read unless a condition holds. -/
theorem optionalUnless {condition : Bool} {item : Reader α} {next : Option α → Reader β}
    {property : α → Prop} {goal : β → Prop} (gives : Gives item property)
    (rest : ∀ given : Option α, (∀ value ∈ given, property value) → Gives (next given) goal) :
    Gives (if condition then Pure.pure none >>= next else (some <$> item) >>= next) goal := by
  cases condition with
  | true => exact @optional α β false item next property goal gives rest
  | false => exact @optional α β true item next property goal gives rest

end Gives

/-- Expressions are all regular if each of them is. -/
theorem allRegular_of_mem {α : Type} {exprs : List (Expr α)}
    (regular : ∀ expr ∈ exprs, expr.Regular) : Expr.AllRegular exprs := by
  induction exprs with
  | nil => trivial
  | cons expr rest ih =>
    exact ⟨regular expr List.mem_cons_self,
      ih fun other later => regular other (List.mem_cons_of_mem _ later)⟩

/-- Statements are all regular if each of them is. -/
theorem allRegular_body_of_mem {α : Type} {body : List (Stmt α)}
    (regular : ∀ stmt ∈ body, stmt.Regular) : Stmt.AllRegular body := by
  induction body with
  | nil => trivial
  | cons stmt rest ih =>
    exact ⟨regular stmt List.mem_cons_self,
      ih fun other later => regular other (List.mem_cons_of_mem _ later)⟩

/-- A type that is read can be written. -/
theorem gives_typeName : Gives typeName TypeName.Regular := by
  refine .bind .current fun token _ => ?_
  split
  · rename_i type found isType
    refine .bind .advance fun _ _ => .pure ?_
    exact List.mem_of_find?_eq_some found
  · exact .fails fun state => ⟨_, rfl⟩

/-- Operators between regular operands are regular. -/
theorem gives_operators {operand : Nat → Reader (Expr Place)}
    (gives : ∀ level, Gives (operand level) Expr.Regular) (minimum bound : Nat) {left : Expr Place}
    (regular : left.Regular) : Gives (operators operand minimum bound left) Expr.Regular := by
  induction bound generalizing left with
  | zero => exact .pure regular
  | succ bound ih =>
    unfold operators
    refine .bind .current fun token _ => ?_
    split
    · split
      · refine .bind .advance fun _ _ => .bind (gives _) fun right rightRegular => ?_
        exact ih ⟨regular, rightRegular⟩
      · exact .pure regular
    · exact .pure regular

mutual

/-- An expression that is read is regular. -/
theorem gives_expression : ∀ depth : Nat, Gives (expression depth) Expr.Regular
  | 0 => .fails fun state => ⟨_, rfl⟩
  | depth + 1 => by
    unfold expression
    exact gives_binary depth 1

/-- Operators that are read with their operands are regular. -/
theorem gives_binary : ∀ depth minimum : Nat, Gives (binary depth minimum) Expr.Regular
  | 0, _ => .fails fun state => ⟨_, rfl⟩
  | depth + 1, minimum => by
    unfold binary
    refine .bind (gives_unary depth) fun left regular => ?_
    refine .bind .rounds fun bound _ => ?_
    exact gives_operators (gives_binary depth) minimum bound regular

/-- An operand that is read is regular. -/
theorem gives_unary : ∀ depth : Nat, Gives (unary depth) Expr.Regular
  | 0 => .fails fun state => ⟨_, rfl⟩
  | depth + 1 => by
    unfold unary
    refine .bind .current fun token _ => ?_
    split
    · refine .bind .advance fun _ _ => .bind (gives_unary depth) fun operand regular => ?_
      exact .pure regular
    · exact gives_call depth

/-- A call that is read is regular. -/
theorem gives_call : ∀ depth : Nat, Gives (call depth) Expr.Regular
  | 0 => .fails fun state => ⟨_, rfl⟩
  | depth + 1 => by
    unfold call
    refine .bind (gives_primary depth) fun callee regular => ?_
    split
    · refine .bind (.facing _) fun opens _ => ?_
      split
      · refine .bind (.openBracket _ _) fun _ _ => ?_
        refine .bind (.parenthesised (gives_expression depth)) fun read inside => .pure ?_
        exact allRegular_of_mem inside
      · exact .pure regular
    · exact .pure regular

/-- A literal, a name or an expression in parentheses that is read is regular. -/
theorem gives_primary : ∀ depth : Nat, Gives (primary depth) Expr.Regular
  | 0 => .fails fun state => ⟨_, rfl⟩
  | depth + 1 => by
    unfold primary
    refine .bind .current fun token sound => ?_
    split
    · rename_i value given
      exact .bind .advance fun _ _ => .pure (sound.value value given)
    · exact .bind .advance fun _ _ => .pure trivial
    · refine .bind (.openBracket _ _) fun _ _ => ?_
      refine .bind (gives_expression depth) fun inner regular => ?_
      exact .bind (.closeBracket _) fun _ _ => .pure regular
    · exact .fails fun state => ⟨_, rfl⟩

end

/-- A declaration of a variable that is read is regular. -/
theorem gives_binding : ∀ depth : Nat, Gives (binding depth) Binding.Regular
  | 0 => .fails fun state => ⟨_, rfl⟩
  | depth + 1 => by
    unfold binding
    refine .bind .advance fun start _ => ?_
    refine .bind (.expect _ _) fun name isName => ?_
    refine .bind (.accept _) fun typed _ => ?_
    refine .optional gives_typeName fun type written => ?_
    refine .bind (.expect _ _) fun _ _ => ?_
    refine .bind (gives_expression depth) fun value regular => ?_
    refine .bind (.expect _ _) fun _ _ => ?_
    refine .bind (.spanFrom start) fun span _ => .pure ?_
    exact ⟨isName.1.name isName.2, written, regular⟩

/-- An assignment that is read is regular. -/
theorem gives_assignment : ∀ depth : Nat, Gives (assignment depth) Stmt.Regular
  | 0 => .fails fun state => ⟨_, rfl⟩
  | depth + 1 => by
    unfold assignment
    refine .bind .advance fun target _ => .bind .advance fun _ _ => ?_
    refine .bind (gives_expression depth) fun value regular => ?_
    refine .bind (.expect _ _) fun _ _ => ?_
    exact .bind (.spanFrom target) fun span _ => .pure regular

/-- A return that is read is regular. -/
theorem gives_leaving : ∀ depth : Nat, Gives (leaving depth) Stmt.Regular
  | 0 => .fails fun state => ⟨_, rfl⟩
  | depth + 1 => by
    unfold leaving
    refine .bind .advance fun start _ => ?_
    refine .bind (.facing _) fun empty _ => ?_
    refine .optionalUnless (gives_expression depth) fun value regular => ?_
    refine .bind (.expect _ _) fun _ _ => ?_
    exact .bind (.spanFrom start) fun span _ => .pure regular

mutual

/-- A statement that is read is regular. -/
theorem gives_statement : ∀ depth : Nat, Gives (statement depth) Stmt.Regular
  | 0 => .fails fun state => ⟨_, rfl⟩
  | depth + 1 => by
    unfold statement
    refine .bind .current fun token _ => ?_
    split
    · exact .bind (gives_binding depth) fun binding regular => .pure regular
    · exact (gives_conditional depth).mono fun _ both => both.1
    · exact gives_whileLoop depth
    · exact gives_forLoop depth
    · exact gives_leaving depth
    · exact .bind (gives_block depth) fun read regular => .pure regular
    · refine .bind .peeks fun assigns _ => ?_
      split
      · exact gives_assignment depth
      · refine .bind .current fun start _ => ?_
        refine .bind (gives_expression depth) fun value regular => ?_
        refine .bind (.expect _ _) fun _ _ => ?_
        exact .bind (.spanFrom start) fun span _ => .pure regular

/-- A conditional that is read is regular, and may follow a failed test. -/
theorem gives_conditional : ∀ depth : Nat,
    Gives (conditional depth) fun stmt => stmt.Regular ∧ stmt.isBranch = true
  | 0 => .fails fun state => ⟨_, rfl⟩
  | depth + 1 => by
    unfold conditional
    refine .bind .advance fun start _ => ?_
    refine .bind (gives_expression depth) fun test regular => ?_
    refine .bind (gives_block depth) fun body inside => ?_
    refine .bind (.accept _) fun otherwise _ => ?_
    split
    · refine .bind (.facing _) fun again _ => ?_
      split
      · refine .bind (gives_conditional depth) fun other both => ?_
        exact .bind (.spanFrom start) fun span _ => .pure ⟨⟨regular, inside, both.2, both.1⟩, rfl⟩
      · refine .bind (gives_block depth) fun other otherInside => ?_
        exact .bind (.spanFrom start) fun span _ => .pure ⟨⟨regular, inside, rfl, otherInside⟩, rfl⟩
    · exact .bind (.spanFrom start) fun span _ => .pure ⟨⟨regular, inside⟩, rfl⟩

/-- A loop with a test that is read is regular. -/
theorem gives_whileLoop : ∀ depth : Nat, Gives (whileLoop depth) Stmt.Regular
  | 0 => .fails fun state => ⟨_, rfl⟩
  | depth + 1 => by
    unfold whileLoop
    refine .bind .advance fun start _ => ?_
    refine .bind (gives_expression depth) fun test regular => ?_
    refine .bind (gives_block depth) fun body inside => ?_
    exact .bind (.spanFrom start) fun span _ => .pure ⟨regular, inside⟩

/-- A loop over integers that is read is regular. -/
theorem gives_forLoop : ∀ depth : Nat, Gives (forLoop depth) Stmt.Regular
  | 0 => .fails fun state => ⟨_, rfl⟩
  | depth + 1 => by
    unfold forLoop
    refine .bind .advance fun start _ => ?_
    refine .bind (.expect _ _) fun counter isName => ?_
    refine .bind (.expect _ _) fun _ _ => ?_
    refine .bind (gives_expression depth) fun first firstRegular => ?_
    refine .bind (.expect _ _) fun _ _ => ?_
    refine .bind (gives_expression depth) fun bound boundRegular => ?_
    refine .bind (gives_block depth) fun body inside => ?_
    refine .bind (.spanFrom start) fun span _ => .pure ?_
    exact ⟨isName.1.name isName.2, firstRegular, boundRegular, inside⟩

/-- The statements of a block that is read are regular. -/
theorem gives_block : ∀ depth : Nat, Gives (block depth) fun read => Stmt.AllRegular read.2
  | 0 => .fails fun state => ⟨_, rfl⟩
  | depth + 1 => by
    unfold block
    refine .bind .current fun start _ => ?_
    refine .bind (.openBracket _ _) fun _ _ => ?_
    refine .bind .rounds fun bound _ => ?_
    refine .bind (.repeatWhile .peeks (gives_statement depth) bound)
      fun body inside => ?_
    refine .bind (.closeBracket _) fun _ _ => ?_
    exact .bind (.spanFrom start) fun span _ => .pure (allRegular_body_of_mem inside)

end

/-- A parameter that is read is regular. -/
theorem gives_param : Gives param Param.Regular := by
  unfold param
  refine .bind .current fun start _ => ?_
  refine .bind (.expect _ _) fun name isName => ?_
  refine .bind (.expect _ _) fun _ _ => ?_
  refine .bind gives_typeName fun type written => ?_
  exact .bind (.spanFrom start) fun span _ => .pure ⟨isName.1.name isName.2, written⟩

/-- A function that is read is regular. -/
theorem gives_function : ∀ depth : Nat, Gives (function depth) Function.Regular
  | 0 => .fails fun state => ⟨_, rfl⟩
  | depth + 1 => by
    unfold function
    refine .bind .advance fun start _ => ?_
    refine .bind (.expect _ _) fun name isName => ?_
    refine .bind (.openBracket _ _) fun _ _ => ?_
    refine .bind (.parenthesised gives_param) fun params inside => ?_
    refine .bind (.accept _) fun typed _ => ?_
    refine .optional gives_typeName fun result written => ?_
    refine .bind (gives_block depth) fun body regular => ?_
    refine .bind (.spanFrom start) fun span _ => .pure ?_
    exact ⟨isName.1.name isName.2, inside, written, regular⟩

/-- A declaration that is read is regular. -/
theorem gives_declaration (depth : Nat) : Gives (declaration depth) Declaration.Regular := by
  unfold declaration
  refine .bind .current fun token _ => ?_
  split
  · exact .bind (gives_function depth) fun declared regular => .pure regular
  · exact .bind (gives_binding depth) fun declared regular => .pure regular
  · exact .fails fun state => ⟨_, rfl⟩

/-- A program that is read is regular. -/
theorem gives_program (depth : Nat) (file : Option String) :
    Gives (program depth file) Program.Regular := by
  unfold program
  refine .bind .current fun start _ => ?_
  refine .bind .rounds fun bound _ => ?_
  refine .bind (.repeatWhile .peeks (gives_declaration depth) bound)
    fun declarations regular => ?_
  exact .bind .current fun token _ => .pure regular

end Parse

end Lag
