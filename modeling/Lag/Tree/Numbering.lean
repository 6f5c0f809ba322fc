import Lag.Tree

/-!
# Numbering

The constructs of a program are numbered in the order in which they are written, each before its
children, from zero for the program itself. The number of a declaration is the identity of the
variable or function that it declares.
-/
namespace Lag

/-- A node with the next number. -/
def Node.take (span : Source.Span) : StateM Nat Node := fun next => (⟨span, next⟩, next + 1)

/-- Number a name. -/
def Ident.number (ident : Ident Source.Span) : StateM Nat (Ident Node) := do
  return ⟨← Node.take ident.note, ident.name⟩

/-- Number a written type. -/
def TypeName.number (type : TypeName Source.Span) : StateM Nat (TypeName Node) := do
  return ⟨← Node.take type.note, type.type⟩

/-- Number a written type that may be missing. -/
def TypeName.number? : Option (TypeName Source.Span) → StateM Nat (Option (TypeName Node))
  | none => return none
  | some type => return some (← type.number)

mutual

/-- Number an expression. -/
def Expr.number : Expr Source.Span → StateM Nat (Expr Node)
  | .literal span value lexeme => do return .literal (← Node.take span) value lexeme
  | .read ident => do return .read (← ident.number)
  | .unary span op operand => do
    let node ← Node.take span
    return .unary node op (← operand.number)
  | .binary span op left right => do
    let node ← Node.take span
    let left ← left.number
    return .binary node op left (← right.number)
  | .call span callee arguments => do
    let node ← Node.take span
    let callee ← callee.number
    return .call node callee (← Expr.numberAll arguments)

/-- Number expressions. -/
def Expr.numberAll : List (Expr Source.Span) → StateM Nat (List (Expr Node))
  | [] => return []
  | expr :: rest => do
    let expr ← expr.number
    return expr :: (← Expr.numberAll rest)

end

/-- Number a declaration of a variable. -/
def Binding.number (binding : Binding Source.Span) : StateM Nat (Binding Node) := do
  let node ← Node.take binding.note
  let type ← TypeName.number? binding.type
  return ⟨node, binding.name, type, ← binding.value.number⟩

mutual

/-- Number a statement. -/
def Stmt.number : Stmt Source.Span → StateM Nat (Stmt Node)
  | .declare binding => do return .declare (← binding.number)
  | .assign span target value => do
    let node ← Node.take span
    let target ← target.number
    return .assign node target (← value.number)
  | .leave span none => do return .leave (← Node.take span) none
  | .leave span (some value) => do
    let node ← Node.take span
    return .leave node (some (← value.number))
  | .evaluate span value => do
    let node ← Node.take span
    return .evaluate node (← value.number)
  | .block span body => do
    let node ← Node.take span
    return .block node (← Stmt.numberAll body)
  | .ifThen span test bodySpan body => do
    let node ← Node.take span
    let test ← test.number
    let bodyNode ← Node.take bodySpan
    return .ifThen node test bodyNode (← Stmt.numberAll body)
  | .ifElse span test bodySpan body otherwise => do
    let node ← Node.take span
    let test ← test.number
    let bodyNode ← Node.take bodySpan
    let body ← Stmt.numberAll body
    return .ifElse node test bodyNode body (← otherwise.number)
  | .whileLoop span test bodySpan body => do
    let node ← Node.take span
    let test ← test.number
    let bodyNode ← Node.take bodySpan
    return .whileLoop node test bodyNode (← Stmt.numberAll body)
  | .forLoop span counter first bound bodySpan body => do
    let node ← Node.take span
    let first ← first.number
    let bound ← bound.number
    let bodyNode ← Node.take bodySpan
    return .forLoop node counter first bound bodyNode (← Stmt.numberAll body)

/-- Number statements. -/
def Stmt.numberAll : List (Stmt Source.Span) → StateM Nat (List (Stmt Node))
  | [] => return []
  | stmt :: rest => do
    let stmt ← stmt.number
    return stmt :: (← Stmt.numberAll rest)

end

/-- Number a parameter. -/
def Param.number (param : Param Source.Span) : StateM Nat (Param Node) := do
  let node ← Node.take param.note
  return ⟨node, param.name, ← param.type.number⟩

/-- Number a function. -/
def Function.number (function : Function Source.Span) : StateM Nat (Function Node) := do
  let node ← Node.take function.note
  let params ← function.params.mapM Param.number
  let result ← TypeName.number? function.result
  let bodyNode ← Node.take function.bodyNote
  return ⟨node, function.name, params, result, bodyNode, ← Stmt.numberAll function.body⟩

/-- Number a declaration. -/
def Declaration.number : Declaration Source.Span → StateM Nat (Declaration Node)
  | .function declared => do return .function (← declared.number)
  | .binding declared => do return .binding (← declared.number)

/-- Number a program, from zero for the program itself. -/
def Program.number (program : Program Source.Span) : Program Node :=
  let numbered : StateM Nat (Program Node) := do
    let node ← Node.take program.note
    return ⟨node, ← program.declarations.mapM Declaration.number, program.file⟩
  (numbered 0).1

end Lag
