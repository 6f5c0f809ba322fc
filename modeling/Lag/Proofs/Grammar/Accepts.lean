import Lag.Proofs.Grammar.Complete

/-!
# Readers accept programs

The statements, functions and programs that the grammar derives are read, up to the end of the
text. A conditional without an alternative must not be followed by the word of one; the other
statements end with a token of their own.
-/
namespace Lag

open Grammar

namespace Parse

variable {α : Type} {rest : List Token} {final last : Token} {opened : List Token}
  {result : α} {next : State}

/-- A written type is read. -/
theorem reaches_typeName {text : List Token} {type : TypeName Place} (written : Written text type)
    (last : Token) : ∃ later : Token, later.span.stop = type.note.stop ∧
      Reaches typeName ⟨text ++ rest, final, last, opened⟩ type ⟨rest, final, later, opened⟩ := by
  cases written with
  | @type token _ isType found =>
    refine ⟨token, rfl, ?_⟩
    unfold typeName
    refine .look ?_
    have facing : State.current ⟨[token] ++ rest, final, last, opened⟩ = token := rfl
    simp only [facing, found, isType]
    exact .advance .pure

/-- A type after a sign is read, or none where the sign is missing. -/
theorem reaches_typed {kind : TokenKind} {text : List Token} {type : Option (TypeName Place)}
    (typed : Typed kind text type) (other : (rest.headD final).kind ≠ kind) :
    ∃ later, ∀ (goOn : Option (TypeName Place) → Reader α) result next,
      Reaches (goOn type) ⟨rest, final, later, opened⟩ result next →
      Reaches
        (accept kind >>= fun found =>
          if found = true then (some <$> typeName) >>= goOn else pure none >>= goOn)
        ⟨text ++ rest, final, last, opened⟩ result next := by
  cases typed with
  | none => exact ⟨last, fun goOn result next second => .reject other second⟩
  | @some sign _ _ is written =>
    obtain ⟨later, _, reads⟩ := reaches_typeName written sign
    refine ⟨later, fun goOn result next second => .accept is ?_⟩
    rw [if_pos rfl, map_eq_pure_bind, bind_assoc]
    exact reads.bind second

/-- A declaration of a variable is read. -/
theorem completes_binding {text : List Token} {declared : Binding Place}
    (writes : Declares text declared) : Completes binding (fun _ => True) text declared := by
  intro depth rest final last opened _
  cases writes with
  | @binding word name equals stop annotation text type value isLet isName typed isEquals value
      isStop =>
    cases depth with
    | zero => exact ⟨last, .tooDeep⟩
    | succ depth =>
      obtain ⟨later, reads⟩ := completes_expression value depth (stop :: rest) final equals opened
        (ends_of_none (by simp [isStop]) (by simp [isStop, BinaryOp.ofKind?]))
      obtain ⟨_, annotated⟩ := reaches_typed typed
        (show ((equals :: (text ++ stop :: rest)).headD final).kind ≠ .colon by simp [isEquals])
      refine ⟨stop, ?_⟩
      unfold binding
      simp only [List.cons_append, List.append_assoc, List.nil_append]
      refine .advance (.expect isName (annotated _ _ _ ?_))
      exact .expect isEquals (reads.bind (.expect isStop (.look .pure)))

/-- An assignment is read. -/
theorem completes_assignment {target equals stop : Token} {text : List Token} {value : Expr Place}
    (writes : Expression text value) (isStop : stop.kind = .semicolon) :
    Completes assignment (fun _ => True) (target :: equals :: (text ++ [stop]))
      (.assign (target.span.through stop.span) ⟨target.span, target.lexeme⟩ value) := by
  intro depth rest final last opened _
  cases depth with
  | zero => exact ⟨last, .tooDeep⟩
  | succ depth =>
    obtain ⟨later, reads⟩ := completes_expression writes depth (stop :: rest) final equals opened
      (ends_of_none (by simp [isStop]) (by simp [isStop, BinaryOp.ofKind?]))
    refine ⟨stop, ?_⟩
    unfold assignment
    simp only [List.cons_append, List.append_assoc, List.nil_append]
    exact .advance (.advance (reads.bind (.expect isStop (.look .pure))))

/-- A return without a value is read. -/
theorem completes_leave {word stop : Token} (isStop : stop.kind = .semicolon) :
    Completes leaving (fun _ => True) [word, stop]
      (.leave (word.span.through stop.span) none) := by
  intro depth rest final last opened _
  cases depth with
  | zero => exact ⟨last, .tooDeep⟩
  | succ depth =>
    refine ⟨stop, ?_⟩
    unfold leaving
    simp only [List.cons_append, List.nil_append]
    refine .advance (.look ?_)
    rw [if_pos (Reaches.facing_self isStop), pure_bind]
    exact .expect isStop (.look .pure)

/-- A return with a value is read. -/
theorem completes_leaveWith {word stop : Token} {text : List Token} {value : Expr Place}
    (writes : Expression text value) (isStop : stop.kind = .semicolon) :
    Completes leaving (fun _ => True) (word :: (text ++ [stop]))
      (.leave (word.span.through stop.span) (some value)) := by
  intro depth rest final last opened _
  cases depth with
  | zero => exact ⟨last, .tooDeep⟩
  | succ depth =>
    obtain ⟨later, reads⟩ := completes_expression writes depth (stop :: rest) final word opened
      (ends_of_none (by simp [isStop]) (by simp [isStop, BinaryOp.ofKind?]))
    refine ⟨stop, ?_⟩
    unfold leaving
    simp only [List.cons_append, List.append_assoc, List.nil_append]
    refine .advance (.look ?_)
    obtain ⟨first, more, rfl, opens⟩ := (shaped_of_level writes).opens
    have facing : State.current ⟨first :: more ++ stop :: rest, final, word, opened⟩ = first := rfl
    have other : first.kind ≠ .semicolon := by
      intro same
      rw [same] at opens
      cases opens
    rw [facing, if_neg (by simpa using other), map_eq_pure_bind, bind_assoc]
    refine reads.bind ?_
    rw [pure_bind]
    exact .expect isStop (.look .pure)

/-- A reader goes on after it has looked for a name before an assignment sign. -/
theorem reaches_facingAssignment {state : State} {goOn : Bool → Reader α} (found : Bool)
    (is : (state.current.kind == .identifier &&
      (state.ahead.tail.headD state.final).kind == .assign) = found)
    (second : Reaches (goOn found) state result next) :
    Reaches (facingAssignment >>= goOn) state result next := by
  subst is
  exact second

/-- A look at the token in front. -/
theorem current_bind (goOn : Token → Reader α) (state : State) :
    (current >>= goOn) state = goOn state.current state := rfl

/-- A statement that starts like an expression is an assignment or an expression. -/
theorem statement_eq {depth : Nat} {state : State}
    (opens : state.current.kind.opensExpression = true) :
    statement (depth + 1) state = (do
      if ← facingAssignment then assignment depth
      else
        let start ← current
        let value ← expression depth
        let _ ← expect .semicolon "';'"
        return Stmt.evaluate (← spanFrom start) value : Reader (Stmt Place)) state := by
  unfold statement
  rw [current_bind]
  generalize state.current.kind = kind at opens
  cases kind <;> first | rfl | cases opens

/-- An expression as a statement is read. -/
theorem completes_evaluate {first stop : Token} {more : List Token} {value : Expr Place}
    (writes : Expression (first :: more) value) (isStop : stop.kind = .semicolon) :
    Completes statement (fun _ => True) (first :: (more ++ [stop]))
      (.evaluate (first.span.through stop.span) value) := by
  intro depth rest final last opened _
  cases depth with
  | zero => exact ⟨last, .tooDeep⟩
  | succ depth =>
    obtain ⟨later, reads⟩ := completes_expression writes depth (stop :: rest) final last opened
      (ends_of_none (by simp [isStop]) (by simp [isStop, BinaryOp.ofKind?]))
    have shaped := shaped_of_level writes
    obtain ⟨_, _, same, opens⟩ := shaped.opens
    cases same
    refine ⟨stop, fun apt => ?_⟩
    have whole : first :: (more ++ [stop]) ++ rest = first :: more ++ stop :: rest := by simp
    rw [whole] at apt ⊢
    have facing : State.current ⟨first :: more ++ stop :: rest, final, last, opened⟩ = first := rfl
    rw [statement_eq (by rw [facing]; exact opens)]
    -- After a name comes another token of the expression or the semicolon, never an assignment sign.
    have second : ((first :: more ++ stop :: rest).tail.headD final).kind ≠ .assign := by
      cases more with
      | nil => simp [isStop]
      | cons token others => exact shaped.unassigned token (by simp)
    have reaches : Reaches (do
        if ← facingAssignment then assignment depth
        else
          let start ← current
          let value ← expression depth
          let _ ← expect .semicolon "';'"
          return Stmt.evaluate (← spanFrom start) value : Reader (Stmt Place))
        ⟨first :: more ++ stop :: rest, final, last, opened⟩
        (.evaluate (first.span.through stop.span) value) ⟨rest, final, stop, opened⟩ := by
      refine reaches_facingAssignment false ?_ ?_
      · refine Bool.eq_false_iff.2 fun assigns => ?_
        rw [Bool.and_eq_true] at assigns
        exact second (eq_of_beq assigns.2)
      rw [if_neg (by decide)]
      exact .look (reads.bind (.expect isStop (.look .pure)))
    exact reaches apt

/-! ## Repetitions -/

/-- Tokens that are read as items one after another, as long as a condition on the token in front
holds; every item starts with a token of certain kinds. -/
structure Repeats (goesOn opens : TokenKind → Bool) (item : Nat → Reader α) (text : List Token)
    (values : List α) : Prop where
  /-- They start with a token that starts an item if there are any. -/
  starts : text = [] ∨ ∃ first more, text = first :: more ∧ opens (Token.kind first) = true
  /-- They are read, in rounds enough. -/
  reaches : ∀ depth bound rest final last opened, goesOn (rest.headD final).kind = false →
    text.length < bound → ∃ later,
      Reaches (repeatWhile (fun state => .ok (goesOn state.current.kind, state)) (item depth) bound)
        ⟨text ++ rest, final, last, opened⟩ values ⟨rest, final, later, opened⟩

section Repeats

variable {goesOn opens : TokenKind → Bool} {item : Nat → Reader α}

/-- No items. -/
theorem Repeats.none : Repeats goesOn opens item [] [] where
  starts := .inl rfl
  reaches depth bound rest final last opened stops _ := by
    refine ⟨last, ?_⟩
    cases bound with
    | zero => exact .pure
    | succ bound =>
      unfold repeatWhile
      refine .look ?_
      have facing : State.current ⟨rest, final, last, opened⟩ = rest.headD final := rfl
      rw [List.nil_append, facing, stops]
      exact .pure

/-- An item before others. -/
theorem Repeats.some {follows : TokenKind → Prop} {text rest : List Token} {value : α}
    {others : List α} (going : ∀ kind, opens kind = true → goesOn kind = true)
    (between : ∀ kind, opens kind = true → follows kind)
    (ending : ∀ kind, goesOn kind = false → follows kind)
    (starts : ∃ first more, text = first :: more ∧ opens (Token.kind first) = true)
    (completes : Completes item follows text value)
    (repeats : Repeats goesOn opens item rest others) :
    Repeats goesOn opens item (text ++ rest) (value :: others) where
  starts := by
    obtain ⟨first, more, rfl, starting⟩ := starts
    exact .inr ⟨first, _, rfl, starting⟩
  reaches depth bound after final last opened stops enough := by
    obtain ⟨first, more, rfl, starting⟩ := starts
    obtain ⟨bound, rfl⟩ := Nat.exists_eq_add_one_of_ne_zero (Nat.ne_zero_of_lt enough)
    have fewer : rest.length < bound := by
      simp only [List.length_append, List.length_cons] at enough
      omega
    have following : follows ((rest ++ after).headD final).kind := by
      rcases repeats.starts with rfl | ⟨start, tokens, rfl, again⟩
      · exact ending _ stops
      · exact between _ again
    obtain ⟨middle, reads⟩ := completes depth (rest ++ after) final last opened following
    obtain ⟨later, second⟩ :=
      repeats.reaches depth bound after final middle opened stops fewer
    refine ⟨later, ?_⟩
    unfold repeatWhile
    refine .look ?_
    have facing : State.current ⟨first :: more ++ rest ++ after, final, last, opened⟩ = first := rfl
    rw [facing, going _ starting, if_pos rfl, List.append_assoc]
    exact reads.bind (second.bind .pure)

end Repeats

/-- Whether a block goes on with a token. -/
def insideKind (kind : TokenKind) : Bool := kind != .rightBrace && kind != .endOfText

/-- A block goes on with a token that starts a statement. -/
theorem insideKind_of_opens (kind : TokenKind) (opens : kind.opensStatement = true) :
    insideKind kind = true := by
  cases kind <;> first | rfl | cases opens

/-- No statement starts with the word of an alternative. -/
theorem ne_elseWord_of_opens (kind : TokenKind) (opens : kind.opensStatement = true) :
    kind ≠ .elseWord := by
  rintro rfl
  cases opens

/-- What ends a block is no word of an alternative. -/
theorem ne_elseWord_of_ends (kind : TokenKind) (ends : insideKind kind = false) :
    kind ≠ .elseWord := by
  rintro rfl
  cases ends

/-! ## Statements -/

/-- Tokens that are read as a block. -/
def CompletesBlock (text : List Token) (place : Place) (body : List (Stmt Place)) : Prop :=
  ∀ depth rest final last opened, ∃ later : Token, later.span.stop = place.stop ∧
    Reaches (block depth) ⟨text ++ rest, final, last, opened⟩ (place, body)
      ⟨rest, final, later, opened⟩

/-- Tokens that are read as a conditional. -/
def CompletesConditional (text : List Token) (stmt : Stmt Place) : Prop :=
  ∀ depth rest final last opened, (rest.headD final).kind ≠ .elseWord →
    ∃ later : Token, later.span.stop = stmt.note.stop ∧
      Reaches (conditional depth) ⟨text ++ rest, final, last, opened⟩ stmt
        ⟨rest, final, later, opened⟩

/-- A statement is read by the reader that its first token chooses. -/
theorem completes_chosen {kind : TokenKind} {reader : Nat → Reader (Stmt Place)}
    {follows : TokenKind → Prop} {first : Token} {more : List Token} {stmt : Stmt Place}
    (is : first.kind = kind)
    (chosen : ∀ depth (state : State), state.current.kind = kind →
      statement (depth + 1) state = reader depth state)
    (completes : Completes reader follows (first :: more) stmt) :
    Completes statement follows (first :: more) stmt := by
  intro depth rest final last opened following
  cases depth with
  | zero => exact ⟨last, .tooDeep⟩
  | succ depth =>
    obtain ⟨later, reads⟩ := completes depth rest final last opened following
    refine ⟨later, fun apt => ?_⟩
    have facing : (State.current ⟨first :: more ++ rest, final, last, opened⟩).kind = kind := is
    rw [chosen depth _ facing]
    exact reads apt

/-- A declaration of a variable is a statement. -/
theorem completes_declare {text : List Token} {declared : Binding Place}
    (writes : Declares text declared) :
    Completes statement (· ≠ .elseWord) text (.declare declared) := by
  have completes : Completes (fun depth => do return Stmt.declare (← binding depth))
      (· ≠ .elseWord) text (Stmt.declare declared) := by
    intro depth rest final last opened _
    obtain ⟨later, reads⟩ := completes_binding writes depth rest final last opened trivial
    exact ⟨later, reads.bind .pure⟩
  cases writes with
  | binding isLet =>
    exact completes_chosen isLet (fun _ _ is => by unfold statement; rw [current_bind, is]) completes

/-- An assignment is a statement. -/
theorem completes_assign {target equals stop : Token} {text : List Token} {value : Expr Place}
    (isName : target.kind = .identifier) (isAssign : equals.kind = .assign)
    (writes : Expression text value) (isStop : stop.kind = .semicolon) :
    Completes statement (· ≠ .elseWord) (target :: equals :: (text ++ [stop]))
      (.assign (target.span.through stop.span) ⟨target.span, target.lexeme⟩ value) := by
  intro depth rest final last opened _
  cases depth with
  | zero => exact ⟨last, .tooDeep⟩
  | succ depth =>
    obtain ⟨later, reads⟩ :=
      completes_assignment writes isStop depth rest final last opened trivial
    refine ⟨later, ?_⟩
    unfold statement
    refine .look ?_
    simp only [List.cons_append] at reads ⊢
    have facing : State.current ⟨target :: equals :: (text ++ [stop] ++ rest), final, last, opened⟩ =
      target := rfl
    simp only [facing, isName]
    refine reaches_facingAssignment true (by simp [State.current, isName, isAssign]) ?_
    rw [if_pos rfl]
    exact reads

/-- A block is a statement. -/
theorem completes_block {text : List Token} {place : Place} {body : List (Stmt Place)}
    (opens : ∃ first more, text = first :: more ∧ Token.kind first = .leftBrace)
    (block : CompletesBlock text place body) :
    Completes statement (· ≠ .elseWord) text (.block place body) := by
  have completes : Completes
      (fun depth => do
        let read ← Parse.block depth
        return Stmt.block read.1 read.2)
      (· ≠ .elseWord) text (Stmt.block place body) := by
    intro depth rest final last opened _
    obtain ⟨later, _, reads⟩ := block depth rest final last opened
    exact ⟨later, reads.bind .pure⟩
  obtain ⟨first, more, rfl, is⟩ := opens
  exact completes_chosen is (fun _ _ is => by unfold statement; rw [current_bind, is]) completes

/-- A conditional is a statement. -/
theorem completes_conditional {text : List Token} {stmt : Stmt Place}
    (opens : ∃ first more, text = first :: more ∧ Token.kind first = .ifWord)
    (conditional : CompletesConditional text stmt) :
    Completes statement (· ≠ .elseWord) text stmt := by
  have completes : Completes Parse.conditional (· ≠ .elseWord) text stmt := by
    intro depth rest final last opened following
    obtain ⟨later, _, reads⟩ := conditional depth rest final last opened following
    exact ⟨later, reads⟩
  obtain ⟨first, more, rfl, is⟩ := opens
  exact completes_chosen is (fun _ _ is => by unfold statement; rw [current_bind, is]) completes

/-- A block starts with a left brace. -/
theorem opens_of_block {text : List Token} {place : Place} {body : List (Stmt Place)}
    (writes : Block text place body) :
    ∃ first more, text = first :: more ∧ Token.kind first = .leftBrace := by
  cases writes with
  | braces is => exact ⟨_, _, rfl, is⟩

/-- A block may follow an expression. -/
theorem ends_of_block {text : List Token} {place : Place} {body : List (Stmt Place)}
    (writes : Block text place body) (rest : List Token) (final : Token) :
    Ends 1 ((text ++ rest).headD final).kind := by
  obtain ⟨first, more, rfl, is⟩ := opens_of_block writes
  rw [List.cons_append, List.headD_cons, is]
  exact ends_of_none (by decide) rfl

/-- A conditional starts with its word. -/
theorem opens_of_conditional {text : List Token} {stmt : Stmt Place}
    (writes : Conditional text stmt) :
    ∃ first more, text = first :: more ∧ Token.kind first = .ifWord := by
  cases writes with
  | plain is => exact ⟨_, _, rfl, is⟩
  | otherwise is => exact ⟨_, _, rfl, is⟩
  | chained is => exact ⟨_, _, rfl, is⟩

/-- A loop with a test is a statement. -/
theorem completes_while {word : Token} {condition text : List Token} {test : Expr Place}
    {place : Place} {body : List (Stmt Place)} (isWhile : word.kind = .whileWord)
    (tested : Expression condition test) (braces : Block text place body)
    (block : CompletesBlock text place body) :
    Completes statement (· ≠ .elseWord) (word :: (condition ++ text))
      (.whileLoop (word.span.through place) test place body) := by
  refine completes_chosen isWhile (fun _ _ is => by unfold statement; rw [current_bind, is]) ?_
  intro depth rest final last opened _
  cases depth with
  | zero => exact ⟨last, .tooDeep⟩
  | succ depth =>
    obtain ⟨middle, first⟩ := completes_expression tested depth (text ++ rest) final word opened
      (ends_of_block braces rest final)
    obtain ⟨later, ends, second⟩ := block depth rest final middle opened
    refine ⟨later, ?_⟩
    unfold whileLoop
    rw [List.cons_append, List.append_assoc, ← through_eq ends]
    exact .advance (first.bind (second.bind (.look .pure)))

/-- A loop over integers is a statement. -/
theorem completes_for {word counter inside dots : Token} {start limit text : List Token}
    {initial bound : Expr Place} {place : Place} {body : List (Stmt Place)}
    (isFor : word.kind = .forWord) (isCounter : counter.kind = .identifier)
    (isIn : inside.kind = .inWord) (starts : Expression start initial)
    (isDots : dots.kind = .range) (limits : Expression limit bound)
    (braces : Block text place body) (block : CompletesBlock text place body) :
    Completes statement (· ≠ .elseWord)
      (word :: counter :: inside :: (start ++ dots :: (limit ++ text)))
      (.forLoop (word.span.through place) counter.lexeme initial bound place body) := by
  refine completes_chosen isFor (fun _ _ is => by unfold statement; rw [current_bind, is]) ?_
  intro depth rest final last opened _
  cases depth with
  | zero => exact ⟨last, .tooDeep⟩
  | succ depth =>
    obtain ⟨_, first⟩ := completes_expression starts depth (dots :: (limit ++ (text ++ rest))) final
      inside opened (ends_of_none (by simp [isDots]) (by simp [isDots, BinaryOp.ofKind?]))
    obtain ⟨middle, second⟩ := completes_expression limits depth (text ++ rest) final dots opened
      (ends_of_block braces rest final)
    obtain ⟨later, ends, third⟩ := block depth rest final middle opened
    refine ⟨later, ?_⟩
    unfold forLoop
    simp only [List.cons_append, List.append_assoc]
    rw [← through_eq ends]
    exact .advance (.expect isCounter (.expect isIn (first.bind (.expect isDots
      (second.bind (third.bind (.look .pure)))))))

/-- Statements in braces are read as a block. -/
theorem completesBlock_of_repeats {opener closer : Token} {text : List Token}
    {body : List (Stmt Place)} (isOpener : opener.kind = .leftBrace)
    (repeats : Repeats insideKind TokenKind.opensStatement statement text body)
    (isCloser : closer.kind = .rightBrace) :
    CompletesBlock (opener :: (text ++ [closer])) (opener.span.through closer.span) body := by
  intro depth rest final last opened
  refine ⟨closer, rfl, ?_⟩
  cases depth with
  | zero => exact .tooDeep
  | succ depth =>
    obtain ⟨later, reads⟩ := repeats.reaches depth ((text ++ closer :: rest).length + 1)
      (closer :: rest) final opener (opener :: opened) (by simp [isCloser, insideKind])
      (by simp only [List.length_append]; omega)
    unfold block
    simp only [List.cons_append, List.append_assoc, List.nil_append]
    exact .look (.openBracket isOpener (.look (reads.bind (.closeBracket isCloser (.look .pure)))))

/-- A conditional without an alternative is read. -/
theorem completes_plain {word : Token} {condition text : List Token} {test : Expr Place}
    {place : Place} {body : List (Stmt Place)} (tested : Expression condition test)
    (braces : Block text place body) (block : CompletesBlock text place body) :
    CompletesConditional (word :: (condition ++ text))
      (.ifThen (word.span.through place) test place body) := by
  intro depth rest final last opened following
  cases depth with
  | zero => exact ⟨⟨.endOfText, "", place, none⟩, rfl, .tooDeep⟩
  | succ depth =>
    obtain ⟨middle, first⟩ := completes_expression tested depth (text ++ rest) final word opened
      (ends_of_block braces rest final)
    obtain ⟨later, ends, second⟩ := block depth rest final middle opened
    refine ⟨later, ends, ?_⟩
    unfold conditional
    rw [List.cons_append, List.append_assoc, ← through_eq ends]
    exact .advance (first.bind (second.bind (.reject following (.look .pure))))

/-- A conditional with a block as its alternative is read. -/
theorem completes_otherwise {word elseWord : Token} {condition text other : List Token}
    {test : Expr Place} {place otherPlace : Place} {body otherBody : List (Stmt Place)}
    (tested : Expression condition test) (braces : Block text place body)
    (block : CompletesBlock text place body) (isElse : elseWord.kind = .elseWord)
    (otherBraces : Block other otherPlace otherBody)
    (otherBlock : CompletesBlock other otherPlace otherBody) :
    CompletesConditional (word :: (condition ++ (text ++ elseWord :: other)))
      (.ifElse (word.span.through otherPlace) test place body (.block otherPlace otherBody)) := by
  intro depth rest final last opened _
  cases depth with
  | zero => exact ⟨⟨.endOfText, "", otherPlace, none⟩, rfl, .tooDeep⟩
  | succ depth =>
    obtain ⟨middle, first⟩ := completes_expression tested depth
      (text ++ elseWord :: (other ++ rest)) final word opened (ends_of_block braces _ final)
    obtain ⟨_, _, second⟩ := block depth (elseWord :: (other ++ rest)) final middle opened
    obtain ⟨later, ends, third⟩ := otherBlock depth rest final elseWord opened
    refine ⟨later, ends, ?_⟩
    obtain ⟨start, more, rfl, isBrace⟩ := opens_of_block otherBraces
    unfold conditional
    simp only [List.cons_append, List.append_assoc] at first second third ⊢
    rw [← through_eq ends]
    refine .advance (first.bind (second.bind (.accept isElse ?_)))
    rw [if_pos rfl]
    refine .look ?_
    have facing : State.current ⟨start :: (more ++ rest), final, elseWord, opened⟩ = start := rfl
    rw [facing, if_neg (by simp [isBrace])]
    exact .follow (List.suffix_append (start :: more) rest) third (.look .pure)

/-- A conditional with a conditional as its alternative is read. -/
theorem completes_chained {word elseWord : Token} {condition text other : List Token}
    {test : Expr Place} {place : Place} {body : List (Stmt Place)} {next : Stmt Place}
    (tested : Expression condition test) (braces : Block text place body)
    (block : CompletesBlock text place body) (isElse : elseWord.kind = .elseWord)
    (writes : Conditional other next) (conditional : CompletesConditional other next) :
    CompletesConditional (word :: (condition ++ (text ++ elseWord :: other)))
      (.ifElse (word.span.through next.note) test place body next) := by
  intro depth rest final last opened following
  cases depth with
  | zero => exact ⟨⟨.endOfText, "", next.note, none⟩, rfl, .tooDeep⟩
  | succ depth =>
    obtain ⟨middle, first⟩ := completes_expression tested depth
      (text ++ elseWord :: (other ++ rest)) final word opened (ends_of_block braces _ final)
    obtain ⟨_, _, second⟩ := block depth (elseWord :: (other ++ rest)) final middle opened
    obtain ⟨later, ends, third⟩ := conditional depth rest final elseWord opened following
    refine ⟨later, ends, ?_⟩
    obtain ⟨start, more, rfl, isIf⟩ := opens_of_conditional writes
    unfold Parse.conditional
    simp only [List.cons_append, List.append_assoc] at first second third ⊢
    rw [← through_eq ends]
    refine .advance (first.bind (second.bind (.accept isElse ?_)))
    rw [if_pos rfl]
    refine .look ?_
    rw [if_pos (Reaches.facing_self isIf)]
    exact .follow (List.suffix_append (start :: more) rest) third (.look .pure)

mutual

/-- Tokens that write a statement are read as it. -/
theorem completes_of_statement {text : List Token} {stmt : Stmt Place} :
    Statement text stmt → Completes statement (· ≠ .elseWord) text stmt
  | .declare writes => completes_declare writes
  | .assign isName isAssign writes isStop => completes_assign isName isAssign writes isStop
  | .leave isReturn isStop =>
    completes_chosen isReturn (fun _ _ is => by unfold statement; rw [current_bind, is])
      fun depth rest final last opened _ =>
        completes_leave isStop depth rest final last opened trivial
  | .leaveWith isReturn writes isStop =>
    completes_chosen isReturn (fun _ _ is => by unfold statement; rw [current_bind, is])
      fun depth rest final last opened _ =>
        completes_leaveWith writes isStop depth rest final last opened trivial
  | .evaluate writes isStop => fun depth rest final last opened _ =>
    completes_evaluate writes isStop depth rest final last opened trivial
  | .block writes => completes_block (opens_of_block writes) (completes_of_block writes)
  | .conditional writes =>
    completes_conditional (opens_of_conditional writes) (completes_of_conditional writes)
  | .whileLoop isWhile tested braces =>
    completes_while isWhile tested braces (completes_of_block braces)
  | .forLoop isFor isCounter isIn starts isDots limits braces =>
    completes_for isFor isCounter isIn starts isDots limits braces (completes_of_block braces)

/-- Tokens that write a conditional are read as it. -/
theorem completes_of_conditional {text : List Token} {stmt : Stmt Place} :
    Conditional text stmt → CompletesConditional text stmt
  | .plain _ tested braces => completes_plain tested braces (completes_of_block braces)
  | .otherwise _ tested braces isElse other =>
    completes_otherwise tested braces (completes_of_block braces) isElse other
      (completes_of_block other)
  | .chained _ tested braces isElse writes =>
    completes_chained tested braces (completes_of_block braces) isElse writes
      (completes_of_conditional writes)

/-- Tokens that write a block are read as it. -/
theorem completes_of_block {text : List Token} {place : Place} {body : List (Stmt Place)} :
    Block text place body → CompletesBlock text place body
  | .braces isOpener writes isCloser =>
    completesBlock_of_repeats isOpener (repeats_of_statements writes) isCloser

/-- Tokens that write statements are read as them. -/
theorem repeats_of_statements {text : List Token} {body : List (Stmt Place)} :
    Statements text body → Repeats insideKind TokenKind.opensStatement statement text body
  | .none => .none
  | .some writes rest =>
    .some insideKind_of_opens ne_elseWord_of_opens ne_elseWord_of_ends (opens_of_statement writes)
      (completes_of_statement writes) (repeats_of_statements rest)

end

end Parse

end Lag
