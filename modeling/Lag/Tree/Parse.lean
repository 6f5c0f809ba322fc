import Lag.Source.Diagnostic
import Lag.Token.Scan
import Lag.Tree.Numbering

/-!
# Reading trees

A program is read from its tokens by recursive descent. The reader keeps the tokens ahead, the
token read last, and the opening brackets that are still unmatched, innermost first; a bracket that
stays open is reported at the place where it was opened.

Binary operators are read by their level: a run of operators whose level is at least a minimum is
grouped to the left, and the right operand of an operator is a run of stronger ones.

The readers call each other to a limited depth. Each call takes one step of the depth, and a
reader without steps left fails with `Cause.tooDeep`. Repetitions are loops and take no steps; they
end because every round consumes a token, and their bound is the number of tokens ahead.
-/
namespace Lag.Parse

/-- Why tokens are no program. -/
inductive Cause where
  /-- Something else is expected. -/
  | unexpected (expected : String) (found : Token)
  /-- Something is expected where the text ends. -/
  | unexpectedEnd (expected : String)
  /-- An opening bracket is not closed. -/
  | unclosed (opener found : Token)
  /-- A closing bracket has no opening one. -/
  | unopened (found : Token)
  /-- The constructs are nested too deeply. -/
  | tooDeep
  deriving Repr

/-- The code of a cause. -/
def Cause.code : Cause → String
  | .unexpected _ _ => "E101"
  | .unexpectedEnd _ => "E102"
  | .unclosed _ _ => "E103"
  | .unopened _ => "E104"
  | .tooDeep => "E105"

/-- The kind of bracket that closes an opening bracket. -/
def closing : TokenKind → TokenKind
  | .leftBrace => .rightBrace
  | _ => .rightParen

/-- The wording of a cause. -/
def Cause.message : Cause → String
  | .unexpected expected found => "expected " ++ expected ++ ", found " ++ found.describe
  | .unexpectedEnd expected => "unexpected end of input, expected " ++ expected
  | .unclosed opener found =>
    "unmatched " ++ opener.describe ++ " opened at " ++ opener.span.startText ++ ": expected " ++
      (closing opener.kind).spelling?.getD "closing delimiter" ++ ", found " ++ found.describe
  | .unopened found => "unmatched closing " ++ found.describe
  | .tooDeep => "expression too deeply nested"

/-- The advice on constructs that are nested too deeply. -/
def nestingHint : String := "split the expression using intermediate 'let' bindings"

/-- A failure of a reader: its cause, its place, and whether the source line is quoted. -/
structure Error where
  /-- The cause. -/
  cause : Cause
  /-- The place. -/
  span : Source.Span
  /-- Whether the source line is quoted. -/
  quotes : Bool
  deriving Repr

/-- The diagnostic of a failure, which may quote a line of the source. -/
def Error.diagnostic (lines : Array String) (error : Error) : Source.Diagnostic where
  code := error.cause.code
  message := error.cause.message
  span := some error.span
  sourceLine := if error.quotes then Text.lineAt? lines error.span.start.line else none
  hints := match error.cause with
    | .tooDeep => [nestingHint]
    | _ => []

/-- What a reader keeps. -/
structure State where
  /-- The tokens ahead, without the end of the text. -/
  ahead : List Token
  /-- The token for the end of the text. -/
  final : Token
  /-- The token read last. -/
  last : Token
  /-- The unmatched opening brackets, innermost first. -/
  opened : List Token := []
  deriving Repr

/-- The token in front. -/
def State.current (state : State) : Token := state.ahead.headD state.final

/-- The failure of a reader that expected something else than the token in front. A closing
bracket that would close the innermost open one is an unexpected token like any other. -/
def State.failure (state : State) (expected : String) : Error :=
  let found := state.current
  if found.kind = .endOfText then
    match state.opened with
    | opener :: _ => ⟨.unclosed opener found, found.span, false⟩
    | [] => ⟨.unexpectedEnd expected, found.span, false⟩
  else if (found.kind = .rightBrace ∨ found.kind = .rightParen) ∧
      state.opened.head?.map (closing ·.kind) ≠ some found.kind then
    ⟨.unopened found, found.span, true⟩
  else ⟨.unexpected expected found, found.span, true⟩

/-- A reader. -/
abbrev Reader := StateT State (Except Error)

/-- A reader goes on with what another one gives, from the state after it. -/
theorem bind_apply {α β : Type} (reader : Reader α) (next : α → Reader β) (state : State) :
    (reader >>= next) state = match reader state with
      | .ok (middle, after) => next middle after
      | .error error => .error error := by
  show (StateT.bind reader next) state = _
  unfold StateT.bind
  cases reader state <;> rfl

/-- The token in front. -/
def current : Reader Token := fun state => .ok (state.current, state)

/-- Whether the token in front is of a kind. -/
def facing (kind : TokenKind) : Reader Bool := fun state =>
  .ok (state.current.kind == kind, state)

/-- Consume the token in front; the end of the text stays in front. -/
def advance : Reader Token := fun state =>
  match state.ahead with
  | [] => .ok (state.final, state)
  | token :: rest => .ok (token, { state with ahead := rest, last := token })

/-- Fail at the token in front. -/
def unexpected {α : Type} (expected : String) : Reader α := fun state =>
  .error (state.failure expected)

/-- Fail because no step of the depth is left. -/
def tooDeep {α : Type} : Reader α := fun state =>
  .error ⟨.tooDeep, state.current.span, true⟩

/-- Consume a token of a kind. -/
def expect (kind : TokenKind) (expected : String) : Reader Token := do
  if ← facing kind then advance else unexpected expected

/-- Consume a token of a kind if it is in front. -/
def accept (kind : TokenKind) : Reader Bool := do
  if ← facing kind then
    let _ ← advance
    return true
  else return false

/-- Consume an opening bracket and remember it. -/
def openBracket (kind : TokenKind) (expected : String) : Reader Unit := do
  let token ← expect kind expected
  modify fun state => { state with opened := token :: state.opened }

/-- A closing bracket is asked for while no bracket is open. The readers of constructs never do so:
each of them closes brackets that it has opened. -/
def noneOpen (state : State) : Error :=
  ⟨.unexpected "closing delimiter" state.current, state.current.span, true⟩

/-- Consume the closing bracket of the innermost open bracket. -/
def closeBracket (kind : TokenKind) : Reader Token := do
  if ← facing kind then
    modify fun state => { state with opened := state.opened.tail }
    advance
  else fun state =>
    match state.opened with
    | opener :: _ => .error ⟨.unclosed opener state.current, state.current.span, true⟩
    | [] => .error (noneOpen state)

/-- The span from a token to the token read last. -/
def spanFrom (start : Token) : Reader Source.Span := fun state =>
  .ok (start.span.through state.last.span, state)

/-- A bound for a repetition: one more than the number of tokens ahead. -/
def rounds : Reader Nat := fun state => .ok (state.ahead.length + 1, state)

/-- Read items as long as a condition holds, at most a number of times. -/
def repeatWhile {α : Type} (condition : Reader Bool) (item : Reader α) : Nat → Reader (List α)
  | 0 => return []
  | bound + 1 => do
    if ← condition then
      let first ← item
      return first :: (← repeatWhile condition item bound)
    else return []

/-- Read items with commas between them up to a closing parenthesis, which is consumed. -/
def parenthesised {α : Type} (item : Reader α) : Reader (List α × Token) := do
  if ← facing .rightParen then return ([], ← closeBracket .rightParen)
  let first ← item
  let rest ← repeatWhile (accept .comma) item (← rounds)
  return (first :: rest, ← closeBracket .rightParen)

/-- The trees as they are read. -/
abbrev Place := Source.Span

/-- Read a written type. -/
def typeName : Reader (TypeName Place) := do
  let token ← current
  match Ty.ofName? token.lexeme, token.kind.isType with
  | some type, true =>
    let _ ← advance
    return ⟨token.span, type⟩
  | _, _ => unexpected "type"

/-- Read operators of at least a level and their right operands, and group them to the left of
what was read before. -/
def operators (operand : Nat → Reader (Expr Place)) (minimum : Nat) :
    Nat → Expr Place → Reader (Expr Place)
  | 0, left => return left
  | bound + 1, left => do
    match BinaryOp.ofKind? (← current).kind with
    | some op =>
      if minimum ≤ op.level then
        let _ ← advance
        let right ← operand (op.level + 1)
        operators operand minimum bound (.binary (left.note.through right.note) op left right)
      else return left
    | none => return left

mutual

/-- Read an expression. -/
def expression : Nat → Reader (Expr Place)
  | 0 => tooDeep
  | depth + 1 => binary depth 1

/-- Read an expression whose operators are at least of a level. -/
def binary : Nat → Nat → Reader (Expr Place)
  | 0, _ => tooDeep
  | depth + 1, minimum => do
    let left ← unary depth
    operators (binary depth) minimum (← rounds) left

/-- Read an operand with the operators in front of it. -/
def unary : Nat → Reader (Expr Place)
  | 0 => tooDeep
  | depth + 1 => do
    match UnaryOp.ofKind? (← current).kind with
    | some op =>
      let token ← advance
      let operand ← unary depth
      return .unary (token.span.through operand.note) op operand
    | none => call depth

/-- Read an operand without an operator, with the arguments that follow a name. -/
def call : Nat → Reader (Expr Place)
  | 0 => tooDeep
  | depth + 1 => do
    let callee ← primary depth
    match callee with
    | .read ident =>
      if ← facing .leftParen then
        openBracket .leftParen "'('"
        let (arguments, stop) ← parenthesised (expression depth)
        return .call (ident.note.through stop.span) ident arguments
      else return callee
    | _ => return callee

/-- Read a literal, a name, or an expression in parentheses. -/
def primary : Nat → Reader (Expr Place)
  | 0 => tooDeep
  | depth + 1 => do
    let token ← current
    match token.literal, token.kind with
    | some value, _ =>
      let _ ← advance
      return .literal token.span value token.lexeme
    | none, .identifier =>
      let _ ← advance
      return .read ⟨token.span, token.lexeme⟩
    | none, .leftParen =>
      openBracket .leftParen "'('"
      let inner ← expression depth
      let _ ← closeBracket .rightParen
      return inner
    | none, _ => unexpected "expression"

end

/-- Read a declaration of a variable, at its first word. -/
def binding : Nat → Reader (Binding Place)
  | 0 => tooDeep
  | depth + 1 => do
    let start ← advance
    let name ← expect .identifier "variable name"
    let type ← if ← accept .colon then some <$> typeName else pure none
    let _ ← expect .assign "'='"
    let value ← expression depth
    let _ ← expect .semicolon "';'"
    return ⟨← spanFrom start, name.lexeme, type, value⟩

/-- Read an assignment, at the name of the variable. -/
def assignment : Nat → Reader (Stmt Place)
  | 0 => tooDeep
  | depth + 1 => do
    let target ← advance
    let _ ← advance
    let value ← expression depth
    let _ ← expect .semicolon "';'"
    return .assign (← spanFrom target) ⟨target.span, target.lexeme⟩ value

/-- Read a return, at its word. -/
def leaving : Nat → Reader (Stmt Place)
  | 0 => tooDeep
  | depth + 1 => do
    let start ← advance
    let value ← if ← facing .semicolon then pure none else some <$> expression depth
    let _ ← expect .semicolon "';'"
    return .leave (← spanFrom start) value

/-- Whether a name and an assignment sign are in front. -/
def facingAssignment : Reader Bool := fun state =>
  let found := state.current.kind == .identifier &&
    (state.ahead.tail.headD state.final).kind == .assign
  .ok (found, state)

/-- Whether a statement may be in front of the end of a block. -/
def insideBlock : Reader Bool := fun state =>
  .ok (state.current.kind != .rightBrace && state.current.kind != .endOfText, state)

mutual

/-- Read a statement. -/
def statement : Nat → Reader (Stmt Place)
  | 0 => tooDeep
  | depth + 1 => do
    match (← current).kind with
    | .letWord => return .declare (← binding depth)
    | .ifWord => conditional depth
    | .whileWord => whileLoop depth
    | .forWord => forLoop depth
    | .returnWord => leaving depth
    | .leftBrace =>
      let (span, body) ← block depth
      return .block span body
    | _ =>
      if ← facingAssignment then assignment depth
      else
        let start ← current
        let value ← expression depth
        let _ ← expect .semicolon "';'"
        return .evaluate (← spanFrom start) value

/-- Read a conditional, at its word. -/
def conditional : Nat → Reader (Stmt Place)
  | 0 => tooDeep
  | depth + 1 => do
    let start ← advance
    let test ← expression depth
    let (bodySpan, body) ← block depth
    if ← accept .elseWord then
      if ← facing .ifWord then
        let otherwise ← conditional depth
        return .ifElse (← spanFrom start) test bodySpan body otherwise
      else
        let (otherSpan, other) ← block depth
        return .ifElse (← spanFrom start) test bodySpan body (.block otherSpan other)
    else return .ifThen (← spanFrom start) test bodySpan body

/-- Read a loop with a test, at its word. -/
def whileLoop : Nat → Reader (Stmt Place)
  | 0 => tooDeep
  | depth + 1 => do
    let start ← advance
    let test ← expression depth
    let (bodySpan, body) ← block depth
    return .whileLoop (← spanFrom start) test bodySpan body

/-- Read a loop over integers, at its word. -/
def forLoop : Nat → Reader (Stmt Place)
  | 0 => tooDeep
  | depth + 1 => do
    let start ← advance
    let counter ← expect .identifier "loop variable"
    let _ ← expect .inWord "'in'"
    let first ← expression depth
    let _ ← expect .range "'..'"
    let bound ← expression depth
    let (bodySpan, body) ← block depth
    return .forLoop (← spanFrom start) counter.lexeme first bound bodySpan body

/-- Read a block: its place and its statements. -/
def block : Nat → Reader (Place × List (Stmt Place))
  | 0 => tooDeep
  | depth + 1 => do
    let start ← current
    openBracket .leftBrace "'\x7b'"
    let body ← repeatWhile insideBlock (statement depth) (← rounds)
    let _ ← closeBracket .rightBrace
    return (← spanFrom start, body)

end

/-- Read a parameter. -/
def param : Reader (Param Place) := do
  let start ← current
  let name ← expect .identifier "parameter name"
  let _ ← expect .colon "':'"
  let type ← typeName
  return ⟨← spanFrom start, name.lexeme, type⟩

/-- Read a function, at its first word. -/
def function : Nat → Reader (Function Place)
  | 0 => tooDeep
  | depth + 1 => do
    let start ← advance
    let name ← expect .identifier "function name"
    openBracket .leftParen "'('"
    let (params, _) ← parenthesised param
    let result ← if ← accept .arrow then some <$> typeName else pure none
    let (bodySpan, body) ← block depth
    return ⟨← spanFrom start, name.lexeme, params, result, bodySpan, body⟩

/-- Read a declaration. -/
def declaration (depth : Nat) : Reader (Declaration Place) := do
  match (← current).kind with
  | .fnWord => return .function (← function depth)
  | .letWord => return .binding (← binding depth)
  | _ => unexpected "'fn' or 'let'"

/-- Whether the text has not ended. -/
def beforeEnd : Reader Bool := fun state => .ok (state.current.kind != .endOfText, state)

/-- Read a program. -/
def program (depth : Nat) (file : Option String) : Reader (Program Place) := do
  let start ← current
  let declarations ← repeatWhile beforeEnd (declaration depth) (← rounds)
  return ⟨start.span.through (← current).span, declarations, file⟩

/-- The steps that the readers of a program have. -/
def depthLimit : Nat := 984

/-- The program that tokens form, read to a depth. The last token is the end of the text. -/
def ofTokens (depth : Nat) (file : Option String) (tokens : List Token) :
    Except Error (Program Node) :=
  let final := tokens.getLastD ⟨.endOfText, "", ⟨file, {}, {}⟩, none⟩
  let ahead := tokens.dropLast
  match program depth file ⟨ahead, final, ahead.headD final, []⟩ with
  | .ok (program, _) => .ok program.number
  | .error error => .error error

end Lag.Parse

namespace Lag

/-- Why a source text is no program. -/
inductive SourceError where
  /-- The text is no sequence of tokens. -/
  | token (error : Scan.Error)
  /-- The tokens are no program. -/
  | tree (error : Parse.Error)
  deriving Repr

/-- The program that a source text writes. -/
def Program.ofText (source : String) (file : Option String) : Except SourceError (Program Node) :=
  match Scan.scan source file with
  | (_, some error) => .error (.token error)
  | (tokens, none) =>
    match Parse.ofTokens Parse.depthLimit file tokens with
    | .ok program => .ok program
    | .error error => .error (.tree error)

end Lag
