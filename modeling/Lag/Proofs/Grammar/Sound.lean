import Lag.Proofs.Grammar.Reads
import Lag.Proofs.Grammar.Shape

/-!
# Readers follow the grammar

What a reader consumes writes what it returns. An operand of operators is followed by no operator
that it could have taken, which is why operators group to the left. Five steps of depth for each
token ahead are enough for an expression.
-/
namespace Lag

open Grammar

namespace Parse

variable {α : Type}

/-- A reader whose result is written by the tokens it consumes, from every state with fewer tokens
ahead than a limit. -/
def Parses (limit : Nat) (reader : Reader α) (writes : List Token → α → Prop) : Prop :=
  ∀ state, Reads state limit reader fun consumed result next =>
    writes consumed result ∧ next.opened = state.opened

/-- No operator of at least a level is in front. -/
def State.Stops (state : State) (level : Nat) : Prop :=
  ∀ op, BinaryOp.ofKind? state.current.kind = some op → op.level < level

/-- The levels of operators end at the sixth. -/
theorem level_lt (op : BinaryOp) : op.level < 7 := by cases op <;> decide

/-- An expression of a level is one of every lower level. -/
theorem lower_level {level lower : Nat} {text : List Token} {expr : Expr Place}
    (le : lower ≤ level) (writes : Level level text expr) : Level lower text expr := by
  induction level with
  | zero => rwa [Nat.le_zero.1 le]
  | succ level ih =>
    rcases Nat.le_succ_iff.1 le with below | rfl
    · exact ih below (.higher writes)
    · exact writes

mutual

/-- An expression that is a name is written as one. -/
theorem name_of_level {level : Nat} {text : List Token} {expr : Expr Place} {ident : Ident Place} :
    Level level text expr → expr = .read ident → Name text ident
  | .operand writes, is => name_of_prefixed writes is
  | .higher writes, is => name_of_level writes is
  | .operator _ _ _ _, is => nomatch is

/-- An operand with operators in front that is a name is written as one. -/
theorem name_of_prefixed {text : List Token} {expr : Expr Place} {ident : Ident Place} :
    Prefixed text expr → expr = .read ident → Name text ident
  | .operand writes, is => name_of_called writes is
  | .operator _ _, is => nomatch is

/-- A call that is a name is written as one. -/
theorem name_of_called {text : List Token} {expr : Expr Place} {ident : Ident Place} :
    Called text expr → expr = .read ident → Name text ident
  | .operand writes, is => name_of_primary writes is
  | .call _ _ _ _, is => nomatch is

/-- A primary that is a name is written as one. -/
theorem name_of_primary {text : List Token} {expr : Expr Place} {ident : Ident Place} :
    Primary text expr → expr = .read ident → Name text ident
  | .literal _ _, is => nomatch is
  | .name kind, is => by cases is; exact .word kind
  | .grouped opens writes closes, is => .grouped opens (name_of_level writes is) closes

end

/-- A token of a kind does not end the text unless its kind is that of the end. -/
theorem goesOn_of_kind {state : State} {kind : TokenKind} (is : state.current.kind = kind)
    (inner : kind ≠ .endOfText) : state.current.kind ≠ .endOfText := by
  rwa [is]

/-- The sign of an operator of two operands does not end the text. -/
theorem goesOn_of_binary {state : State} {op : BinaryOp}
    (is : BinaryOp.ofKind? state.current.kind = some op) : state.current.kind ≠ .endOfText := by
  intro ends
  rw [ends] at is
  cases is

/-- The sign of an operator of one operand does not end the text. -/
theorem goesOn_of_unary {state : State} {op : UnaryOp}
    (is : UnaryOp.ofKind? state.current.kind = some op) : state.current.kind ≠ .endOfText := by
  intro ends
  rw [ends] at is
  cases is

/-- Items after commas, up to what is no comma. -/
theorem parses_separated {item : Reader α} {writes : List Token → α → Prop}
    {further : List Token → List α → Prop} (none : further [] [])
    (some : ∀ {comma text value rest others}, Token.kind comma = .comma → writes text value →
      further rest others → further (comma :: (text ++ rest)) (value :: others))
    (bound : Nat) {limit : Nat} (parses : ∀ lower ≤ limit, Parses lower item writes) :
    Parses limit (repeatWhile (accept .comma) item bound) further := by
  induction bound generalizing limit with
  | zero => exact fun state => .pure ⟨none, rfl⟩
  | succ bound ih =>
    intro state
    unfold repeatWhile
    refine .accept (by decide) (fun comma after is opened passed => ?_) (.pure ⟨none, rfl⟩)
    refine (parses _ (Nat.sub_le _ _) after).bind fun text value next passedOn written => ?_
    have later : Parses (limit - 1 - text.length) (repeatWhile (accept .comma) item bound)
        further :=
      ih fun lower le => parses lower (by omega)
    refine (later next).bind fun rest others last _ listed => .pure ?_
    refine ⟨?_, listed.2.trans (written.2.trans opened)⟩
    rw [List.append_nil]
    exact some is written.1 listed.1

/-- Items with commas between them up to a closing parenthesis, inside an open parenthesis. -/
theorem reads_parenthesised {item : Reader α} {writes : List Token → α → Prop}
    {further listed : List Token → List α → Prop} (empty : listed [] [])
    (first : ∀ {text value rest others}, writes text value → further rest others →
      listed (text ++ rest) (value :: others))
    (none : further [] [])
    (some : ∀ {comma text value rest others}, Token.kind comma = .comma → writes text value →
      further rest others → further (comma :: (text ++ rest)) (value :: others))
    {limit : Nat} (parses : ∀ lower ≤ limit, Parses lower item writes) {state : State}
    {opener : Token} {outer : List Token} (opened : state.opened = opener :: outer) :
    Reads state limit (parenthesised item) fun consumed read after =>
      ∃ text, consumed = text ++ [read.2] ∧ read.2.kind = .rightParen ∧ listed text read.1 ∧
        after.opened = outer := by
  unfold parenthesised
  refine .look ?_
  split
  · refine .closeBracket (by decide) opened fun closer after is closed _ _ => .pure ?_
    exact ⟨[], rfl, is, empty, closed⟩
  · refine (parses limit (Nat.le_refl _) state).bind fun text value next passed written => ?_
    refine .look ?_
    have later : Parses (limit - text.length)
        (repeatWhile (accept .comma) item (next.ahead.length + 1)) further :=
      parses_separated none some _ fun lower le => parses lower (by omega)
    refine (later next).bind fun rest others last _ separated => ?_
    have stillOpen : last.opened = opener :: outer :=
      separated.2.trans (written.2.trans opened)
    refine .closeBracket (by decide) stillOpen fun closer after is closed _ _ => .pure ?_
    exact ⟨text ++ rest, by simp, is, first written.1 separated.1, closed⟩

/-- A written type. -/
theorem parses_typeName (limit : Nat) : Parses limit typeName Written := by
  intro state
  unfold typeName
  refine .look ?_
  split
  · rename_i type found isType
    have goesOn : state.current.kind ≠ .endOfText := by
      intro ends
      rw [ends] at isType
      cases isType
    exact .advance goesOn fun after opened _ _ => .pure ⟨.type isType found, opened⟩
  · exact .unexpected (by decide)

/-- Operators that are taken group what was read before them to the left. -/
theorem reads_operators {operand : Nat → Reader (Expr Place)} {limit : Nat}
    (parses : ∀ lower ≤ limit - 1, ∀ level ≤ 7, ∀ state,
      Reads state lower (operand level) fun consumed expr next =>
        Level level consumed expr ∧ next.opened = state.opened ∧ next.Stops level)
    {minimum level bound : Nat} {state : State} {before : List Token} {left : Expr Place}
    (written : Level level before left) (le : minimum ≤ level) (stops : state.Stops (level + 1))
    (enough : state.ahead.length < bound) :
    Reads state limit (operators operand minimum bound left) fun consumed expr next =>
      Level minimum (before ++ consumed) expr ∧ next.opened = state.opened ∧
        next.Stops minimum := by
  induction bound generalizing state before left level limit with
  | zero => omega
  | succ bound ih =>
    unfold operators
    refine .look ?_
    split
    · rename_i op is
      split
      · rename_i taken
        have below : op.level ≤ level := Nat.lt_succ_iff.1 (stops op is)
        refine .advance (goesOn_of_binary is) fun after opened _ passed => ?_
        have operandReads := parses (limit - 1) (Nat.le_refl _) (op.level + 1) (level_lt op) after
        refine operandReads.bind fun consumed right next passedOn read => ?_
        obtain ⟨rightWritten, kept, rightStops⟩ := read
        have grouped := Level.operator rfl (lower_level below written) is rightWritten
        have fewer : next.ahead.length < bound := by
          have first := passed.length
          have second := passedOn.length
          simp only [List.length_singleton] at first
          omega
        have operands : ∀ lower ≤ limit - 1 - consumed.length - 1, ∀ level ≤ 7, ∀ state,
            Reads state lower (operand level) fun consumed expr next =>
              Level level consumed expr ∧ next.opened = state.opened ∧ next.Stops level :=
          fun lower le => parses lower (by omega)
        refine (ih operands grouped taken rightStops fewer).mono fun more expr last _ holds => ?_
        obtain ⟨whole, stillOpen, lastStops⟩ := holds
        refine ⟨?_, stillOpen.trans (kept.trans opened), lastStops⟩
        simpa using whole
      · rename_i weaker
        refine .pure ⟨by simpa using lower_level le written, rfl, fun other same => ?_⟩
        rw [is] at same
        cases same
        omega
    · rename_i noOperator
      refine .pure ⟨by simpa using lower_level le written, rfl, fun other same => ?_⟩
      rw [noOperator] at same
      cases same

mutual

/-- An expression. -/
theorem parses_expression : ∀ depth {limit : Nat}, 5 * limit ≤ depth →
    Parses limit (expression depth) Expression
  | 0, _, deep => fun _ => .tooDeep (by omega)
  | depth + 1, _, deep => fun state => by
    unfold expression
    refine (reads_binary depth (by omega) (by decide) state).mono fun text expr next _ read => ?_
    exact ⟨read.1, read.2.1⟩

/-- Operators of two operands with their operands. -/
theorem reads_binary : ∀ depth {limit level : Nat}, 5 * limit ≤ depth + 1 → level ≤ 7 →
    ∀ state, Reads state limit (binary depth level) fun consumed expr next =>
      Level level consumed expr ∧ next.opened = state.opened ∧ next.Stops level
  | 0, _, _, deep, _ => fun _ => .tooDeep (by omega)
  | depth + 1, limit, level, deep, le => fun state => by
    unfold binary
    refine (parses_unary depth (by omega) state).bind fun text left next _ read => ?_
    refine .look ?_
    have written : Level 7 text left := .operand read.1
    have stops : next.Stops 8 := fun op _ => Nat.lt_succ_of_lt (level_lt op)
    have operands : ∀ lower ≤ limit - text.length - 1, ∀ level ≤ 7, ∀ state,
        Reads state lower (binary depth level) fun consumed expr next =>
          Level level consumed expr ∧ next.opened = state.opened ∧ next.Stops level :=
      fun lower fewer level small => reads_binary depth (by omega) small
    have later := reads_operators operands written le stops (Nat.lt_succ_self _)
    refine later.mono fun more expr last _ holds => ?_
    exact ⟨holds.1, holds.2.1.trans read.2, holds.2.2⟩

/-- An operand with the operators in front of it. -/
theorem parses_unary : ∀ depth {limit : Nat}, 5 * limit ≤ depth + 2 →
    Parses limit (unary depth) Prefixed
  | 0, _, deep => fun _ => .tooDeep (by omega)
  | depth + 1, _, deep => fun state => by
    unfold unary
    refine .look ?_
    split
    · rename_i op is
      refine .advance (goesOn_of_unary is) fun after opened _ _ => ?_
      refine (parses_unary depth (by omega) after).bind fun text operand next _ read => ?_
      refine .pure ⟨?_, read.2.trans opened⟩
      rw [List.append_nil]
      exact .operator is read.1
    · refine (parses_call depth (by omega) state).mono fun text expr next _ read => ?_
      exact ⟨.operand read.1, read.2⟩

/-- An operand without operators. -/
theorem parses_call : ∀ depth {limit : Nat}, 5 * limit ≤ depth + 3 →
    Parses limit (call depth) Called
  | 0, _, deep => fun _ => .tooDeep (by omega)
  | depth + 1, limit, deep => fun state => by
    unfold call
    refine (parses_primary depth (by omega) state).bind fun name callee next _ read => ?_
    split
    · rename_i ident
      refine .look ?_
      split
      · refine .openBracket (by decide) (by decide) fun opener after is opened _ => ?_
        have arguments : ∀ lower ≤ limit - name.length - 1,
            Parses lower (expression depth) Expression :=
          fun lower le => parses_expression depth (by omega)
        have inside := reads_parenthesised Arguments.none Arguments.some Further.none Further.some
          arguments opened
        refine inside.bind fun consumed found last _ holds => ?_
        obtain ⟨text, rfl, closes, written, closed⟩ := holds
        refine .pure ⟨?_, closed.trans read.2⟩
        rw [List.append_nil]
        exact .call (name_of_primary read.1 rfl) is written closes
      · refine .pure ⟨?_, read.2⟩
        rw [List.append_nil]
        exact .operand read.1
    · refine .pure ⟨?_, read.2⟩
      rw [List.append_nil]
      exact .operand read.1

/-- A literal, a name or an expression in parentheses. -/
theorem parses_primary : ∀ depth {limit : Nat}, 5 * limit ≤ depth + 4 →
    Parses limit (primary depth) Primary
  | 0, _, deep => fun _ => .tooDeep (by omega)
  | depth + 1, _, deep => fun state => .relying fun scanned => by
    have apt := scanned.current
    unfold primary
    refine .look ?_
    split
    · rename_i value given
      have isLiteral : state.current.kind.isLiteral = true := by
        rw [← apt, given]
        rfl
      have goesOn : state.current.kind ≠ .endOfText := by
        intro ends
        rw [ends] at isLiteral
        cases isLiteral
      exact .advance goesOn fun after opened _ _ => .pure ⟨.literal isLiteral given, opened⟩
    · rename_i is
      exact .advance (goesOn_of_kind is (by decide)) fun after opened _ _ =>
        .pure ⟨.name is, opened⟩
    · refine .openBracket (by decide) (by decide) fun opener after is opened _ => ?_
      refine (parses_expression depth (by omega) after).bind fun text inner next _ read => ?_
      refine .closeBracket (by decide) (read.2.trans opened) fun closer last closes closed _ _ => ?_
      exact .pure ⟨.grouped is read.1 closes, closed⟩
    · exact .unexpected (by decide)

end

/-- A type after a sign, or none. -/
theorem reads_typed {kind : TokenKind} {state : State} {limit : Nat}
    {next : Option (TypeName Place) → Reader α} {post : List Token → α → State → Prop}
    (inner : kind ≠ .endOfText)
    (rest : ∀ text type after, Typed kind text type → after.opened = state.opened →
      Reads after (limit - text.length) (next type) fun more result last =>
        post (text ++ more) result last) :
    Reads state limit
      (accept kind >>= fun found =>
        if found = true then (some <$> typeName) >>= next else pure none >>= next) post := by
  refine .accept inner (fun sign after is opened _ => ?_) ?_
  · rw [if_pos rfl, map_eq_pure_bind, bind_assoc]
    refine (parses_typeName _ after).bind fun text type last _ read => ?_
    have later := rest (sign :: text) (some type) last (.some is read.1) (read.2.trans opened)
    rw [List.length_cons, Nat.add_comm, ← Nat.sub_sub] at later
    exact later
  · rw [if_neg (by decide)]
    exact rest [] none state .none rfl

/-- A declaration of a variable, at its first word. -/
theorem reads_binding : ∀ depth {limit : Nat}, 5 * limit ≤ depth + 4 → ∀ state : State,
    state.current.kind = .letWord →
      Reads state limit (binding depth) fun consumed binding next =>
        Declares consumed binding ∧ next.opened = state.opened
  | 0, _, deep => fun _ _ => .tooDeep (by omega)
  | depth + 1, _, deep => fun state isLet => by
    unfold binding
    refine .advance (goesOn_of_kind isLet (by decide)) fun afterLet openedLet _ _ => ?_
    refine .expect (by decide) (by decide) fun name afterName isName openedName _ _ => ?_
    refine reads_typed (by decide) fun typeTokens type afterType typed openedType => ?_
    refine .expect (by decide) (by decide) fun equals afterEquals isEquals openedEquals _ _ => ?_
    refine (parses_expression depth (by omega) afterEquals).bind
      fun text value afterValue _ read => ?_
    refine .expect (by decide) (by decide) fun stop last isStop openedStop lastRead _ => ?_
    refine .look (.pure ⟨?_, ?_⟩)
    · rw [lastRead]
      exact .binding isLet isName typed isEquals read.1 isStop
    · rw [openedStop, read.2, openedEquals, openedType, openedName, openedLet]

/-- Items as long as a condition on the state holds. With rounds enough, it holds no longer in the
end. -/
theorem reads_repeated (goesOn : State → Bool) {item : Reader α} {writes : List Token → α → Prop}
    {many : List Token → List α → Prop} (none : many [] [])
    (some : ∀ {text value rest others}, writes text value → many rest others →
      many (text ++ rest) (value :: others))
    (consumes : ∀ {text value}, writes text value → text ≠ []) (bound : Nat) {limit : Nat}
    (reads : ∀ lower ≤ limit, ∀ state : State, goesOn state = true →
      Reads state lower item fun consumed value next =>
        writes consumed value ∧ next.opened = state.opened) (state : State) :
    Reads state limit (repeatWhile (fun state => .ok (goesOn state, state)) item bound)
      fun consumed values next => many consumed values ∧ next.opened = state.opened ∧
        (state.ahead.length < bound → goesOn next = false) := by
  induction bound generalizing limit state with
  | zero => exact .pure ⟨none, rfl, fun impossible => absurd impossible (Nat.not_lt_zero _)⟩
  | succ bound ih =>
    unfold repeatWhile
    refine .look ?_
    split
    · rename_i again
      refine (reads limit (Nat.le_refl _) state again).bind fun text value next passed read => ?_
      have items : ∀ lower ≤ limit - text.length, ∀ state : State, goesOn state = true →
          Reads state lower item fun consumed value next =>
            writes consumed value ∧ next.opened = state.opened :=
        fun lower le => reads lower (by omega)
      refine (ih items next).bind fun rest others last _ listed => .pure ?_
      obtain ⟨written, opened, ends⟩ := listed
      refine ⟨?_, opened.trans read.2, fun enough => ends ?_⟩
      · rw [List.append_nil]
        exact some read.1 written
      · have length := passed.length
        have positive := List.length_pos_iff.2 (consumes read.1)
        omega
    · rename_i stops
      exact .pure ⟨none, rfl, fun _ => by simpa using stops⟩

/-- An assignment, at the name of the variable. -/
theorem reads_assignment : ∀ depth {limit : Nat}, 5 * limit ≤ depth + 4 → ∀ state : State,
    state.current.kind = .identifier → (state.ahead.tail.headD state.final).kind = .assign →
      Reads state limit (assignment depth) fun consumed stmt next =>
        Statement consumed stmt ∧ next.opened = state.opened
  | 0, _, deep => fun _ _ _ => .tooDeep (by omega)
  | depth + 1, _, deep => fun state isName isAssign => by
    unfold assignment
    refine .advance (goesOn_of_kind isName (by decide)) fun afterName openedName _ passed => ?_
    have second : afterName.current.kind = .assign := by
      rw [State.current, passed.final]
      rw [passed.ahead] at isAssign
      exact isAssign
    refine .advance (goesOn_of_kind second (by decide)) fun afterEquals openedEquals _ _ => ?_
    refine (parses_expression depth (by omega) afterEquals).bind
      fun text value afterValue _ read => ?_
    refine .expect (by decide) (by decide) fun stop last isStop openedStop lastRead _ => ?_
    refine .look (.pure ⟨?_, ?_⟩)
    · rw [lastRead]
      exact .assign isName second read.1 isStop
    · rw [openedStop, read.2, openedEquals, openedName]

/-- A return, at its word. -/
theorem reads_leaving : ∀ depth {limit : Nat}, 5 * limit ≤ depth + 4 → ∀ state : State,
    state.current.kind = .returnWord →
      Reads state limit (leaving depth) fun consumed stmt next =>
        Statement consumed stmt ∧ next.opened = state.opened
  | 0, _, deep => fun _ _ => .tooDeep (by omega)
  | depth + 1, _, deep => fun state isReturn => by
    unfold leaving
    refine .advance (goesOn_of_kind isReturn (by decide)) fun afterWord openedWord _ _ => ?_
    refine .look ?_
    split
    · rw [pure_bind]
      refine .expect (by decide) (by decide) fun stop last isStop openedStop lastRead _ => ?_
      refine .look (.pure ⟨?_, openedStop.trans openedWord⟩)
      rw [lastRead]
      exact .leave isReturn isStop
    · rw [map_eq_pure_bind, bind_assoc]
      refine (parses_expression depth (by omega) afterWord).bind
        fun text value afterValue _ read => ?_
      rw [pure_bind]
      refine .expect (by decide) (by decide) fun stop last isStop openedStop lastRead _ => ?_
      refine .look (.pure ⟨?_, ?_⟩)
      · rw [lastRead]
        exact .leaveWith isReturn read.1 isStop
      · rw [openedStop, read.2, openedWord]

mutual

/-- A statement. -/
theorem parses_statement : ∀ depth {limit : Nat}, 5 * limit ≤ depth - 1 →
    Parses limit (statement depth) Statement
  | 0, _, deep => fun _ => .tooDeep (by omega)
  | depth + 1, _, deep => fun state => by
    unfold statement
    refine .look ?_
    split
    · rename_i is
      refine (reads_binding depth (by omega) state is).bind fun text binding next _ read => ?_
      refine .pure ⟨?_, read.2⟩
      rw [List.append_nil]
      exact .declare read.1
    · rename_i is
      refine (reads_conditional depth (by omega) state is).mono fun text stmt next _ read => ?_
      exact ⟨.conditional read.1, read.2.1⟩
    · rename_i is
      exact reads_whileLoop depth (by omega) state is
    · rename_i is
      exact reads_forLoop depth (by omega) state is
    · rename_i is
      exact reads_leaving depth (by omega) state is
    · refine (reads_block depth (by omega) state).bind fun text read next _ holds => ?_
      refine .pure ⟨?_, holds.2.1⟩
      rw [List.append_nil]
      exact .block holds.1
    · refine .look ?_
      split
      · rename_i assigns
        simp only [Bool.and_eq_true, beq_iff_eq] at assigns
        exact reads_assignment depth (by omega) state assigns.1 assigns.2
      · refine .look ?_
        refine (parses_expression depth (by omega) state).bind fun text value next passed read => ?_
        obtain ⟨first, more, rfl, _⟩ := (shaped_of_level read.1).opens
        refine .expect (by decide) (by decide) fun stop last isStop openedStop lastRead _ => ?_
        refine .look (.pure ⟨?_, openedStop.trans read.2⟩)
        rw [lastRead, passed.current]
        exact .evaluate read.1 isStop

/-- A conditional, at its word. -/
theorem reads_conditional : ∀ depth {limit : Nat}, 5 * limit ≤ depth + 2 → ∀ state : State,
    state.current.kind = .ifWord →
      Reads state limit (conditional depth) fun consumed stmt next =>
        Conditional consumed stmt ∧ next.opened = state.opened ∧
          next.last.span.stop = stmt.note.stop
  | 0, _, deep => fun _ _ => .tooDeep (by omega)
  | depth + 1, _, deep => fun state isIf => by
    unfold conditional
    refine .advance (goesOn_of_kind isIf (by decide)) fun afterIf openedIf _ _ => ?_
    refine (parses_expression depth (by omega) afterIf).bind
      fun condition test afterTest _ tested => ?_
    refine (reads_block depth (by omega) afterTest).bind fun text body afterBody _ read => ?_
    refine .accept (by decide) (fun elseWord afterElse isElse openedElse _ => ?_) ?_
    · rw [if_pos rfl]
      refine .look ?_
      split
      · rename_i again
        refine (reads_conditional depth (by omega) afterElse (by simpa using again)).bind
          fun other next last _ holds => ?_
        refine .look (.pure ⟨?_, ?_, rfl⟩)
        · rw [List.append_nil, through_eq holds.2.2]
          exact .chained isIf tested.1 read.1 isElse holds.1
        · rw [holds.2.1, openedElse, read.2.1, tested.2, openedIf]
      · refine (reads_block depth (by omega) afterElse).bind fun other otherBody last _ holds => ?_
        refine .look (.pure ⟨?_, ?_, rfl⟩)
        · rw [List.append_nil, through_eq holds.2.2]
          exact .otherwise isIf tested.1 read.1 isElse holds.1
        · rw [holds.2.1, openedElse, read.2.1, tested.2, openedIf]
    · rw [if_neg (by decide)]
      refine .look (.pure ⟨?_, ?_, rfl⟩)
      · rw [List.append_nil, through_eq read.2.2]
        exact .plain isIf tested.1 read.1
      · rw [read.2.1, tested.2, openedIf]

/-- A loop with a test, at its word. -/
theorem reads_whileLoop : ∀ depth {limit : Nat}, 5 * limit ≤ depth + 2 → ∀ state : State,
    state.current.kind = .whileWord →
      Reads state limit (whileLoop depth) fun consumed stmt next =>
        Statement consumed stmt ∧ next.opened = state.opened
  | 0, _, deep => fun _ _ => .tooDeep (by omega)
  | depth + 1, _, deep => fun state isWhile => by
    unfold whileLoop
    refine .advance (goesOn_of_kind isWhile (by decide)) fun afterWhile openedWhile _ _ => ?_
    refine (parses_expression depth (by omega) afterWhile).bind
      fun condition test afterTest _ tested => ?_
    refine (reads_block depth (by omega) afterTest).bind fun text body last _ read => ?_
    refine .look (.pure ⟨?_, ?_⟩)
    · rw [List.append_nil, through_eq read.2.2]
      exact .whileLoop isWhile tested.1 read.1
    · rw [read.2.1, tested.2, openedWhile]

/-- A loop over integers, at its word. -/
theorem reads_forLoop : ∀ depth {limit : Nat}, 5 * limit ≤ depth + 2 → ∀ state : State,
    state.current.kind = .forWord →
      Reads state limit (forLoop depth) fun consumed stmt next =>
        Statement consumed stmt ∧ next.opened = state.opened
  | 0, _, deep => fun _ _ => .tooDeep (by omega)
  | depth + 1, _, deep => fun state isFor => by
    unfold forLoop
    refine .advance (goesOn_of_kind isFor (by decide)) fun afterFor openedFor _ _ => ?_
    refine .expect (by decide) (by decide) fun counter afterCounter isCounter openedC _ _ => ?_
    refine .expect (by decide) (by decide) fun inside afterIn isIn openedIn _ _ => ?_
    refine (parses_expression depth (by omega) afterIn).bind
      fun start first afterFirst _ firstRead => ?_
    refine .expect (by decide) (by decide) fun dots afterDots isDots openedDots _ _ => ?_
    refine (parses_expression depth (by omega) afterDots).bind
      fun upTo bound afterBound _ boundRead => ?_
    refine (reads_block depth (by omega) afterBound).bind fun text body last _ read => ?_
    refine .look (.pure ⟨?_, ?_⟩)
    · rw [List.append_nil, through_eq read.2.2]
      exact .forLoop isFor isCounter isIn firstRead.1 isDots boundRead.1 read.1
    · rw [read.2.1, boundRead.2, openedDots, firstRead.2, openedIn, openedC, openedFor]

/-- A block. -/
theorem reads_block : ∀ depth {limit : Nat}, 5 * limit ≤ depth + 3 → ∀ state : State,
    Reads state limit (block depth) fun consumed read next =>
      Block consumed read.1 read.2 ∧ next.opened = state.opened ∧
        next.last.span.stop = read.1.stop
  | 0, _, deep => fun _ => .tooDeep (by omega)
  | depth + 1, limit, deep => fun state => by
    unfold block
    refine .look ?_
    refine .openBracket (by decide) (by decide) fun opener afterOpener isOpener opened passed => ?_
    refine .look ?_
    have statements : ∀ lower ≤ limit - 1, ∀ state : State,
        (state.current.kind != .rightBrace && state.current.kind != .endOfText) = true →
          Reads state lower (statement depth) fun consumed stmt next =>
            Statement consumed stmt ∧ next.opened = state.opened :=
      fun lower le state _ => parses_statement depth (by omega) state
    have items := reads_repeated _ Statements.none Statements.some ne_nil_of_statement
      (afterOpener.ahead.length + 1) statements afterOpener
    refine items.bind fun text body afterBody _ read => ?_
    refine .closeBracket (by decide) (read.2.1.trans opened)
      fun closer last isCloser closed lastRead _ => ?_
    refine .look (.pure ⟨?_, closed, rfl⟩)
    rw [lastRead, passed.current]
    exact .braces isOpener read.1 isCloser

end

/-- A parameter. -/
theorem parses_param (limit : Nat) : Parses limit param Parameter := by
  intro state
  unfold param
  refine .look ?_
  refine .expect (by decide) (by decide) fun name afterName isName openedName _ passed => ?_
  refine .expect (by decide) (by decide) fun colon afterColon isColon openedColon _ _ => ?_
  refine (parses_typeName _ afterColon).bind fun text type last passedType read => ?_
  refine .look (.pure ⟨?_, ?_⟩)
  · obtain ⟨written, _⟩ := read
    rw [List.append_nil, passed.current, passedType.last]
    cases written with
    | type isType found => exact .typed isName isColon (.type isType found)
  · rw [read.2, openedColon, openedName]

/-- A function, at its first word. -/
theorem reads_function : ∀ depth {limit : Nat}, 5 * limit ≤ depth + 3 → ∀ state : State,
    state.current.kind = .fnWord →
      Reads state limit (function depth) fun consumed function next =>
        Declared consumed (.function function) ∧ next.opened = state.opened
  | 0, _, deep => fun _ _ => .tooDeep (by omega)
  | depth + 1, limit, deep => fun state isFn => by
    unfold function
    refine .advance (goesOn_of_kind isFn (by decide)) fun afterFn openedFn _ _ => ?_
    refine .expect (by decide) (by decide) fun name afterName isName openedName _ _ => ?_
    refine .openBracket (by decide) (by decide) fun opener afterOpener isOpener opened _ => ?_
    have parameters : ∀ lower ≤ limit - 1 - 1 - 1, Parses lower param Parameter :=
      fun lower _ => parses_param lower
    have inside := reads_parenthesised Parameters.none Parameters.some FurtherParameters.none
      FurtherParameters.some parameters opened
    refine inside.bind fun consumed read afterCloser _ holds => ?_
    obtain ⟨given, rfl, isCloser, written, closed⟩ := holds
    refine reads_typed (by decide) fun typeTokens result afterType typed openedType => ?_
    refine (reads_block depth (by omega) afterType).bind fun text body last _ blockRead => ?_
    refine .look (.pure ⟨?_, ?_⟩)
    · rw [List.append_nil, through_eq blockRead.2.2]
      simpa using Declared.function isFn isName isOpener written isCloser typed blockRead.1
    · rw [blockRead.2.1, openedType, closed, openedName, openedFn]

/-- A declaration of a function or of a variable. -/
theorem parses_declaration (depth : Nat) {limit : Nat} (deep : 5 * limit ≤ depth + 3) :
    Parses limit (declaration depth) Declared := by
  intro state
  unfold declaration
  refine .look ?_
  split
  · rename_i is
    refine (reads_function depth deep state is).bind fun text function next _ read => ?_
    refine .pure ⟨?_, read.2⟩
    rw [List.append_nil]
    exact read.1
  · rename_i is
    refine (reads_binding depth (by omega) state is).bind fun text binding next _ read => ?_
    refine .pure ⟨?_, read.2⟩
    rw [List.append_nil]
    exact .binding read.1
  · exact .unexpected (by decide)

/-- A program, up to the end of the text. -/
theorem reads_program (depth : Nat) (file : Option String) {limit : Nat}
    (deep : 5 * limit ≤ depth + 3) (state : State) :
    Reads state limit (program depth file) fun consumed program next =>
      Grammar.Program file (consumed ++ [next.final]) program ∧ next.ahead = [] := by
  refine .relying fun scanned => ?_
  unfold program
  refine .look (.look ?_)
  have declarations : ∀ lower ≤ limit, ∀ state : State, (state.current.kind != .endOfText) = true →
      Reads state lower (declaration depth) fun consumed declared next =>
        Declared consumed declared ∧ next.opened = state.opened :=
    fun lower le state _ => parses_declaration depth (by omega) state
  have items := reads_repeated _ Declarations.none Declarations.some ne_nil_of_declared
    (state.ahead.length + 1) declarations state
  refine items.bind fun text declared last passed read => ?_
  refine .look (.pure ?_)
  obtain ⟨written, _, ends⟩ := read
  have finished : last.ahead = [] := by
    have atEnd := ends (Nat.lt_succ_self _)
    cases ahead : last.ahead with
    | nil => rfl
    | cons token rest =>
      have inner := (passed.scanned scanned).inner token (by simp [ahead])
      simp [State.current, ahead, inner] at atEnd
  have first : state.current = text.headD last.final := by
    rw [State.current, passed.ahead, finished, List.append_nil, passed.final]
  have final : last.current = last.final := by
    rw [State.current, finished]
    rfl
  refine ⟨?_, finished⟩
  rw [List.append_nil, first, final]
  exact .upToEnd written (by rw [passed.final]; exact scanned.final)

end Parse

end Lag
