import Lag.Host.Lower
import Lag.Host.Print
import Mathlib.Algebra.GroupWithZero.Nat

/-!
# Writing modules line by line

A module is written in one walk over the checked tree. The walk appends lines to a page, with the
indentation of the moment in front of them, and names symbols on first use. It looks up the symbol
of every name and declaration and the types of the operands of a quotient, and it fails where one
is missing. A name is searched for without a bound, so the walk may not end, either.

Operators that lean to the left are taken up in a loop: the operators and their right operands wait
until the leftmost operand is written.
-/
namespace Lag

open Host (Level Operator)

/-- What a walk needs and does not find. -/
inductive Gap where
  /-- The symbol of a name or a declaration. -/
  | symbol
  /-- The declaration of a symbol. -/
  | declaration
  /-- The type of an operand. -/
  | type
  /-- The call for a built-in function. -/
  | template
  /-- An argument of such a call. -/
  | argument
  /-- The statements after a failed test. -/
  | branch
  /-- The digits of an integer: it is too long to be written. -/
  | digits
  deriving DecidableEq, Repr

/-- What is written so far. -/
structure Page where
  /-- The lines. -/
  lines : List String := []
  /-- The level of indentation of the next line. -/
  level : Nat := 0
  /-- The names that symbols have. -/
  names : Host.Names := []
  deriving DecidableEq, Repr

/-- The text of a page. -/
def Page.text (page : Page) : String := "\n".intercalate page.lines ++ "\n"

/-- A part of the walk: it changes the page and gives a value, it fails, or it does not end. -/
abbrev Writer := StateT Page (ExceptT Gap Option)

/-- What a part of the walk does on a page; none if it does not end. -/
def Writer.on {α : Type} (writer : Writer α) (page : Page) : Option (Except Gap (α × Page)) :=
  (StateT.run writer page).run

/-! ## Names -/

/-- The symbol of a name or a declaration. -/
def symbolOf (mark : Mark) : Writer Symbol :=
  match mark.symbol with
  | some symbol => pure symbol
  | none => throw .symbol

/-- The type of an expression. -/
def typeOf (expr : Expr Mark) : Writer Ty :=
  match expr.note.type with
  | some type => pure type
  | none => throw .type

/-- The host name of a symbol, which is searched for when the symbol is first used. -/
def useName (symbol : Symbol) : Writer String := do
  match symbol.origin with
  | none => throw .declaration
  | some origin =>
    let page ← get
    match List.lookup origin page.names with
    | some name => pure name
    | none =>
      let name ← (ExceptT.lift (Host.search page.names.taken symbol.name 0) : ExceptT Gap Option _)
      set { page with names := (origin, name) :: page.names }
      pure name

/-- The host name of a name or a declaration. -/
def nameOf (mark : Mark) : Writer String := do
  let symbol ← symbolOf mark
  useName symbol

/-- The host names of some names or declarations. -/
def namesOf : List Mark → Writer (List String)
  | [] => pure []
  | mark :: rest => do
    let name ← nameOf mark
    let names ← namesOf rest
    pure (name :: names)

/-! ## Lines -/

/-- The blanks in front of a line of a level. -/
def margin (level : Nat) : String := String.ofList (List.replicate (4 * level) ' ')

/-- Append a line. -/
def emit (text : String) : Writer Unit :=
  modify fun page => { page with lines := page.lines ++ [margin page.level ++ text] }

/-- Append whole lines. -/
def emitAll (lines : List String) : Writer Unit :=
  modify fun page => { page with lines := page.lines ++ lines }

/-- Write one level deeper. -/
def deeper {α : Type} (writer : Writer α) : Writer α := do
  modify fun page => { page with level := page.level + 1 }
  let value ← writer
  modify fun page => { page with level := page.level - 1 }
  pure value

/-- Write a line that does nothing unless there are more lines than before. -/
def fillSuite (before : Page) : Writer Unit := do
  let page ← get
  if page.lines.length = before.lines.length then emit "pass" else pure ()

/-- Write a body, which is never empty. -/
def writeSuite (writer : Writer Unit) : Writer Unit :=
  deeper do
    let before ← get
    writer
    fillSuite before

/-! ## Expressions -/

/-- Convert a text to a float if that is noted. -/
def Mark.wrap (mark : Mark) (text : String) : String :=
  if mark.widened then "float(" ++ text ++ ")" else text

/-- How strongly an operator binds in the host. -/
def UnaryOp.hostLevel : UnaryOp → Level
  | .not => Host.notLevel
  | .negate => Host.negateLevel

/-- The text of an operator in front of its operand. -/
def UnaryOp.hostText : UnaryOp → String
  | .not => "not "
  | .negate => "-"

/-- How strongly the text of an expression binds. -/
def Expr.hostLevel (expr : Expr Mark) : Level :=
  if expr.note.widened then Host.atomLevel
  else
    match expr with
    | .unary _ op _ => op.hostLevel
    | .binary _ op _ _ => (op.lower false).level
    | _ => Host.atomLevel

/-- The host operator for an operator. Only a quotient asks for the types of its operands, and for
that of the right one only if the left one is an integer. -/
def writeOperator (op : BinaryOp) (left right : Expr Mark) : Writer Operator :=
  if op = .divide then do
    let leftType ← typeOf left
    if leftType = .int then do
      let rightType ← typeOf right
      pure (op.lower (rightType = .int))
    else pure (op.lower false)
  else pure (op.lower false)

/-- Write a literal. -/
def Literal.write : Literal → Writer String
  | .int value =>
    if value < 10 ^ Number.digitLimit then pure (toString value) else throw .digits
  | .float value =>
    pure (if value == Number.infinity then "float('inf')" else Number.floatText value)
  | .string value => pure (Text.quoted value)
  | .bool value => pure (if value then "True" else "False")

/-- Write a call of a function on the texts of its arguments. -/
def Ident.writeCall (callee : Ident Mark) (arguments : List String) : Writer String := do
  let symbol ← symbolOf callee.note
  if symbol.kind = .builtin then
    match Builtin.ofName? symbol.name, arguments with
    | none, _ => throw .template
    | some _, [] => throw .argument
    | some builtin, _ :: _ => pure (Host.builtinText builtin arguments)
  else do
    let name ← useName symbol
    pure (name ++ "(" ++ ", ".intercalate arguments ++ ")")

/-- An operator that waits for its left operand. -/
structure Waiting where
  /-- The operator. -/
  op : BinaryOp
  /-- Writes the right operand. -/
  right : Writer String
  /-- Decides on the host operator. -/
  operator : Writer Operator

/-- Take up the operators that wait, from the innermost on, after a left operand of a level. -/
def takeUp : List Waiting → Level → String → Writer String
  | [], _, left => pure left
  | next :: rest, level, left => do
    let right ← next.right
    let operator ← next.operator
    takeUp rest (next.op.lower false).level
      (Host.atLevel (next.op.lower false).leftLevel level left ++ " " ++ operator.spelling ++ " " ++
        right)

mutual

/-- Write an expression and the operators that wait for it. -/
def Expr.writeSpine (waiting : List Waiting) : Expr Mark → Writer String
  | .literal mark value _ => do
    let text ← value.write
    takeUp waiting Host.atomLevel (mark.wrap text)
  | .read ident => do
    let name ← nameOf ident.note
    takeUp waiting Host.atomLevel (ident.note.wrap name)
  | .unary mark op operand => do
    let text ← operand.writeSpine []
    takeUp waiting (if mark.widened then Host.atomLevel else op.hostLevel)
      (mark.wrap (op.hostText ++ Host.atLevel op.hostLevel operand.hostLevel text))
  | .binary mark op left right =>
    let here : Waiting := {
      op
      right := do
        let text ← right.writeSpine []
        pure (Host.atLevel (op.lower false).rightLevel right.hostLevel text)
      operator := writeOperator op left right }
    if mark.widened then do
      let text ← left.writeSpine [here]
      takeUp waiting Host.atomLevel (mark.wrap text)
    else left.writeSpine (here :: waiting)
  | .call mark callee arguments => do
    let texts ← Expr.writeAll arguments
    let text ← callee.writeCall texts
    takeUp waiting Host.atomLevel (mark.wrap text)

/-- Write expressions. -/
def Expr.writeAll : List (Expr Mark) → Writer (List String)
  | [] => pure []
  | expr :: rest => do
    let text ← expr.writeSpine []
    let texts ← Expr.writeAll rest
    pure (text :: texts)

end

/-- Write an expression. -/
def Expr.write (expr : Expr Mark) : Writer String := expr.writeSpine []

/-! ## Statements -/

/-- Whether a statement is a conditional. -/
def Stmt.isConditional {α : Type} : Stmt α → Bool
  | .ifThen _ _ _ _ | .ifElse _ _ _ _ _ => true
  | _ => false

/-- Write the declaration of a variable. -/
def Binding.write (binding : Binding Mark) : Writer Unit := do
  let name ← nameOf binding.note
  let value ← binding.value.write
  emit (name ++ " = " ++ value)

mutual

/-- Write a statement; a conditional starts with a word. -/
def Stmt.write (word : String) : Stmt Mark → Writer Unit
  | .declare binding => binding.write
  | .assign _ target value => do
    let name ← nameOf target.note
    let text ← value.write
    emit (name ++ " = " ++ text)
  | .leave _ none => emit "return"
  | .leave _ (some value) => do
    let text ← value.write
    emit ("return " ++ text)
  | .evaluate _ value => do
    let text ← value.write
    emit text
  | .block _ body => Stmt.writeAll body
  | .ifThen _ test _ body => do
    let text ← test.write
    emit (word ++ " " ++ text ++ ":")
    writeSuite (Stmt.writeAll body)
  | .ifElse _ test _ body (.block _ other) => do
    let text ← test.write
    emit (word ++ " " ++ text ++ ":")
    writeSuite (Stmt.writeAll body)
    emit "else:"
    writeSuite (Stmt.writeAll other)
  | .ifElse _ test _ body otherwise => do
    let text ← test.write
    emit (word ++ " " ++ text ++ ":")
    writeSuite (Stmt.writeAll body)
    if otherwise.isConditional then Stmt.write "elif" otherwise else throw .branch
  | .whileLoop _ test _ body => do
    let text ← test.write
    emit ("while " ++ text ++ ":")
    writeSuite (Stmt.writeAll body)
  | .forLoop mark _ first bound _ body => do
    let start ← first.write
    let stop ← bound.write
    let name ← nameOf mark
    emit ("for " ++ name ++ " in range(" ++ start ++ ", " ++ stop ++ "):")
    writeSuite (Stmt.writeAll body)

/-- Write statements. -/
def Stmt.writeAll : List (Stmt Mark) → Writer Unit
  | [] => pure ()
  | stmt :: rest => do
    stmt.write "if"
    Stmt.writeAll rest

end

/-! ## Functions and modules -/

mutual

/-- The names that a statement assigns to, in order. -/
def Stmt.targets {α : Type} : Stmt α → List (Ident α)
  | .assign _ target _ => [target]
  | .declare _ | .leave _ _ | .evaluate _ _ => []
  | .block _ body => Stmt.allTargets body
  | .ifThen _ _ _ body => Stmt.allTargets body
  | .ifElse _ _ _ body otherwise => Stmt.allTargets body ++ otherwise.targets
  | .whileLoop _ _ _ body => Stmt.allTargets body
  | .forLoop _ _ _ _ _ body => Stmt.allTargets body

/-- The names that statements assign to, in order. -/
def Stmt.allTargets {α : Type} : List (Stmt α) → List (Ident α)
  | [] => []
  | stmt :: rest => stmt.targets ++ Stmt.allTargets rest

end

/-- Collect the host names of those variables of the module that names stand for, each once. -/
def collectGlobals : List (Ident Mark) → List String → Writer (List String)
  | [], found => pure found
  | target :: rest, found => do
    let symbol ← symbolOf target.note
    if symbol.inModule && symbol.kind == .variable then do
      let name ← useName symbol
      collectGlobals rest (if found.contains name then found else found ++ [name])
    else collectGlobals rest found

/-- Write the line that lists names of the module, if there are any. -/
def writeGlobals (names : List String) : Writer Unit :=
  if names.isEmpty then pure () else emit ("global " ++ ", ".intercalate names)

/-- Write a function. -/
def Function.write (function : Function Mark) : Writer Unit := do
  let params ← namesOf (function.params.map (·.note))
  let name ← nameOf function.note
  emit ("def " ++ name ++ "(" ++ ", ".intercalate params ++ "):")
  let assigned ← collectGlobals (Stmt.allTargets function.body) []
  deeper (writeGlobals assigned)
  writeSuite (Stmt.writeAll function.body)

/-- Write functions with two empty lines in front of each. -/
def Function.writeAll : List (Function Mark) → Writer Unit
  | [] => pure ()
  | function :: rest => do
    emitAll ["", ""]
    function.write
    Function.writeAll rest

/-- Write the declarations of variables. -/
def Binding.writeAll : List (Binding Mark) → Writer Unit
  | [] => pure ()
  | binding :: rest => do
    binding.write
    Binding.writeAll rest

/-- Write the function that gives the variables of a module their first values. -/
def writeInitial (bindings : List (Binding Mark)) : Writer Unit := do
  emit "def __lag_init__():"
  deeper do
    let names ← namesOf (bindings.map (·.note))
    writeGlobals names
    Binding.writeAll bindings
    if names.isEmpty then emit "pass"

/-- Write the rows of the table of exports. -/
def writeExports : List (Function Mark) → Writer Unit
  | [] => pure ()
  | function :: rest => do
    let name ← nameOf function.note
    emit (margin 1 ++ Text.quoted function.name ++ ": " ++ name ++ ",")
    writeExports rest

/-- Write the table of exports. -/
def writeTable (functions : List (Function Mark)) : Writer Unit :=
  if functions.isEmpty then emit "__lag_exports__ = \x7b\x7d"
  else do
    emit "__lag_exports__ = \x7b"
    writeExports functions
    emit "\x7d"

/-- The note of a declaration. -/
def Declaration.note {α : Type} : Declaration α → α
  | .function declared => declared.note
  | .binding declared => declared.note

/-- Write a module. The functions and variables of the module are named before everything else. -/
def Program.writer (title : String) (program : Program Mark) : Writer Unit := do
  let _ ← namesOf (program.declarations.map Declaration.note)
  emitAll ((Host.prelude title).map Host.Line.toText)
  Function.writeAll program.functions
  emitAll ["", ""]
  writeInitial program.bindings
  emitAll ["", ""]
  writeTable program.functions

/-- The page that a module is written on, or what the walk does not find; none if it does not
end. -/
def Program.write (title : String) (program : Program Mark) : Option (Except Gap Page) :=
  ((program.writer title).on {}).map fun outcome => outcome.map (·.2)

end Lag
