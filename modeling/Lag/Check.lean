import Lag.Check.Failure
import Lag.Check.Mark

/-!
# Checking programs

The check walks a program from the top down and from left to right. It collects failures and notes
types, symbols and conversions on the tree. An expression at fault gets the type `error`, which
agrees with everything, so that one fault is reported once. When the failures reach their limit,
the remaining declarations and statements are passed over.

Operators that lean to the left are checked in a loop: the walk goes down the left operands and
leaves the right ones pending, then takes them up from the inside out.

The walk goes down a limited number of steps (`Depth`); where the steps run out the check stops,
and the failures found so far stand.
-/
namespace Lag.Check

/-- The steps that are left to go down, or none for no limit. -/
abbrev Depth := Option Nat

/-- The failures found so far, and how many there may be. -/
structure Journal where
  /-- The number of failures at which the check passes over the rest. -/
  limit : Nat
  /-- The failures, in order. -/
  failures : Array Failure := #[]
  deriving Repr, Inhabited

/-- Whether the failures have reached their limit. -/
def Journal.full (journal : Journal) : Bool := decide (journal.limit ≤ journal.failures.size)

/-- A check: it adds failures to the journal, and gives no result where the steps run out. -/
abbrev Checker := OptionT (StateM Journal)

/-- Report a failure at a construct. -/
def report (cause : Cause) (span : Source.Span) (kind : Kind) (place : Source.Span) :
    Checker Unit := modify fun journal =>
  { journal with failures := journal.failures.push ⟨cause, span, kind, place⟩ }

/-- Report a failure at an expression. -/
def reportAt {α : Type} (cause : Cause) (expr : Expr α) (node : Node) : Checker Unit :=
  report cause node.span expr.kind node.span

/-- Whether the rest is passed over. -/
def full : Checker Bool := do return (← get).full

/-- Go down some steps. -/
def descend (steps : Nat) : Depth → Checker Depth
  | none => return none
  | some left => if steps ≤ left then return some (left - steps) else failure

/-- An expression with its type. -/
abbrev Typed := Expr Mark × Ty

/-- The type of an operation, if the operands fit it; the second part says whether they do. -/
def operationType (op : BinaryOp) (left right : Ty) : Ty × Bool :=
  let numeric := left.isNumeric && right.isNumeric
  if left.isError || right.isError then
    (if op.isArithmetic then .error else .bool, true)
  else if op.isArithmetic then
    if numeric then (if left = .int ∧ right = .int then .int else .float, true)
    else if op = .add ∧ left = .string ∧ right = .string then (.string, true)
    else (.error, false)
  else if op.isOrder then (.bool, numeric)
  else if op.isEquality then (.bool, (left.common? right).isSome && left != .void)
  else (.bool, left == .bool && right == .bool)

/-- The type of an operator applied to operands of two types. -/
def operation (node : Node) (op : BinaryOp) (left right : Ty) : Checker Ty := do
  let (type, fits) := operationType op left right
  unless fits do report (.operands op left right) node.span .binary node.span
  return type

/-- The type of an operator in front of an operand. -/
def signType (node : Node) (op : UnaryOp) (operand : Ty) : Checker Ty := do
  match op with
  | .not =>
    unless operand.isError || operand == .bool do
      report (.notOperand operand) node.span .unary node.span
    return .bool
  | .negate =>
    if operand.isError || operand.isNumeric then return operand
    report (.negateOperand operand) node.span .unary node.span
    return .error

/-- Put a value in a place: report it when it does not fit, and note its conversion. -/
def put (place : Ty) (value : Typed) (cause : Cause) (span : Source.Span) (kind : Kind)
    (construct : Source.Span) : Checker (Expr Mark) := do
  let (expr, type) := value
  if type.isError || place.isError then return expr
  if !place.accepts type then
    report cause span kind construct
    return expr
  return if place.widens type then expr.widen else expr

/-- The symbol of a name; a search takes a step for every scope it visits. -/
def find (table : SymbolTable) (depth : Depth) (name : String) : Checker (Option Symbol) := do
  let _ ← descend (table.reach name + 1) depth
  return table.lookup? name

/-- Check a name that is read. -/
def reading (table : SymbolTable) (depth : Depth) (ident : Ident Node) : Checker Typed := do
  let node := ident.note
  match ← find table depth ident.name with
  | none =>
    report (.undeclared ident.name) node.span .identifier node.span
    return (.read ⟨.typed node .error, ident.name⟩, .error)
  | some symbol =>
    if symbol.kind.isFunction then
      report (.functionValue ident.name) node.span .identifier node.span
      return (.read ⟨.full node symbol .error, ident.name⟩, .error)
    else return (.read ⟨.full node symbol symbol.type, ident.name⟩, symbol.type)

/-- Put arguments into the parameters of a function. -/
def putArguments (callee : String) : List (String × Ty) → List Typed → Checker (List (Expr Mark))
  | (param, place) :: params, (expr, type) :: arguments => do
    let span := expr.note.node.span
    let expr ← put place (expr, type) (.argument param callee place type) span expr.kind span
    return expr :: (← putArguments callee params arguments)
  | _, arguments => return arguments.map (·.1)

/-- Check a call whose arguments are checked; the symbol is that of the name before it. -/
def finishCall (node : Node) (callee : Ident Node) (symbol : Option Symbol)
    (arguments : List Typed) : Checker Typed := do
  let place := callee.note.span
  let exprs := arguments.map (·.1)
  let result (mark : Mark) (exprs : List (Expr Mark)) (type : Ty) : Typed :=
    (.call (.typed node type) ⟨mark, callee.name⟩ exprs, type)
  match symbol with
  | none =>
    report (.undeclaredCallee callee.name) place .call node.span
    return result (.bare callee.note) exprs .error
  | some symbol =>
    match symbol.signature with
    | none =>
      report (.variableCallee callee.name symbol.type) place .call node.span
      return result (.bound callee.note symbol) exprs .error
    | some signature =>
      let mark := Mark.full callee.note symbol symbol.type
      if arguments.length ≠ signature.params.length then
        report (.arity callee.name signature.params.length arguments.length) node.span .call
          node.span
        return result mark exprs signature.result
      else
        let exprs ← putArguments callee.name signature.params arguments
        return result mark exprs signature.result

/-- A right operand that waits for its left operand: the operation and the check of the operand. -/
structure Pending where
  /-- The operation. -/
  node : Node
  /-- The operator. -/
  op : BinaryOp
  /-- The check of the right operand. -/
  right : Checker Typed

/-- Take up pending right operands, the innermost first. -/
def takeUp : List Pending → Typed → Checker Typed
  | [], left => return left
  | pending :: outer, (left, leftType) => do
    let (right, rightType) ← pending.right
    let type ← operation pending.node pending.op leftType rightType
    takeUp outer (.binary (.typed pending.node type) pending.op left right, type)

mutual

/-- Check an expression that is the leftmost operand of pending operations, and take these up. -/
def spine (table : SymbolTable) : Depth → List Pending → Expr Node → Checker Typed
  | depth, pending, .literal node value lexeme => do
    let _ ← descend 2 depth
    takeUp pending (.literal (.typed node value.type) value lexeme, value.type)
  | depth, pending, .read ident => do
    let inner ← descend 2 depth
    takeUp pending (← reading table inner ident)
  | depth, pending, .unary node op operand => do
    let inner ← descend 2 depth
    let (operand, operandType) ← spine table inner [] operand
    let type ← signType node op operandType
    takeUp pending (.unary (.typed node type) op operand, type)
  | depth, pending, .binary node op left right => do
    let inner ← if pending.isEmpty then descend 2 depth else pure depth
    spine table inner (⟨node, op, spine table inner [] right⟩ :: pending) left
  | depth, pending, .call node callee arguments => do
    let inner ← descend 2 depth
    let symbol ← find table inner callee.name
    let checked ← exprs table inner arguments
    takeUp pending (← finishCall node callee symbol checked)

/-- Check the arguments of a call, one step further down. -/
def exprs (table : SymbolTable) : Depth → List (Expr Node) → Checker (List Typed)
  | _, [] => return []
  | depth, expr :: rest => do
    let inner ← descend 1 depth
    let first ← spine table inner [] expr
    return first :: (← exprs table depth rest)

end

/-- Check an expression. -/
def expr (table : SymbolTable) (depth : Depth) (expr : Expr Node) : Checker Typed :=
  spine table depth [] expr

/-- The type that is written for a variable or parameter, which cannot hold nothing. -/
def writtenType (type : TypeName Node) (kind : Kind) (owner : Node) : Checker Ty := do
  if type.type = .void then
    report .voidVariable type.note.span kind owner.span
    return .error
  return type.type

/-- Check the declaration of a variable; its name is visible only afterwards. -/
def binding (inModule : Bool) (table : SymbolTable) (depth : Depth) (binding : Binding Node) :
    Checker (Binding Mark × SymbolTable) := do
  let inner ← descend 1 depth
  let span := binding.value.note.span
  let place := binding.note.span
  let (value, found) ← expr table inner binding.value
  let type ←
    if found = .void then
      report (.initialVoid binding.name) span .declare place
      pure .error
    else pure found
  let (value, type) ← match binding.type with
    | none => pure (value, type)
    | some written =>
      let declared ← writtenType written .declare binding.note
      let value ←
        put declared (value, type) (.initial binding.name declared type) span .declare place
      pure (value, declared)
  let symbol : Symbol := ⟨binding.name, .variable, type, true, inModule, some binding.note.id, none⟩
  let written := binding.type.map (TypeName.map Mark.bare)
  match table.define? symbol with
  | some table => return (⟨.bound binding.note symbol, binding.name, written, value⟩, table)
  | none =>
    report (.redeclared binding.name) place .declare place
    return (⟨.bare binding.note, binding.name, written, value⟩, table)

/-- Check an assignment. -/
def assignment (table : SymbolTable) (depth : Depth) (node : Node) (target : Ident Node)
    (value : Expr Node) : Checker (Stmt Mark) := do
  let inner ← descend 1 depth
  let (expr, type) ← expr table inner value
  let span := target.note.span
  match ← find table inner target.name with
  | none =>
    report (.undeclared target.name) span .identifier span
    return .assign (.bare node) (target.map Mark.bare) expr
  | some symbol =>
    let target' : Ident Mark := ⟨.full target.note symbol symbol.type, target.name⟩
    if symbol.kind.isFunction then
      report (.assignedFunction target.name) span .assign node.span
      return .assign (.bare node) target' expr
    else if !symbol.mutable then
      report (.assignedCounter target.name) span .assign node.span
      return .assign (.bare node) target' expr
    else
      let expr ← put symbol.type (expr, type) (.assigned target.name symbol.type type)
        value.note.span .assign node.span
      return .assign (.bare node) target' expr

/-- Check a test. -/
def test (word : String) (table : SymbolTable) (depth : Depth) (value : Expr Node) :
    Checker (Expr Mark) := do
  let inner ← descend 1 depth
  let (expr, type) ← expr table inner value
  unless type == .bool || type.isError do reportAt (.test word type) value value.note
  return expr

/-- Check a bound of a loop over integers. -/
def bound (table : SymbolTable) (depth : Depth) (value : Expr Node) : Checker (Expr Mark) := do
  let (expr, type) ← expr table depth value
  unless type == .int || type.isError do reportAt (.bound type) value value.note
  return expr

/-- Check a return from a function with a result of a type. -/
def leaving (result : Ty) (table : SymbolTable) (depth : Depth) (node : Node) :
    Option (Expr Node) → Checker (Stmt Mark)
  | none => do
    let _ ← descend 1 depth
    unless result == .void do report (.returnedNothing result) node.span .leave node.span
    return .leave (.bare node) none
  | some value => do
    let inner ← descend 1 depth
    let (expr, type) ← expr table inner value
    let span := value.note.span
    if result = .void then
      report (.returnedVoid type) span .leave node.span
      return .leave (.bare node) (some expr)
    else
      let expr ← put result (expr, type) (.returned result type) span .leave node.span
      return .leave (.bare node) (some expr)

mutual

/-- Check a statement of a function with a result of a type, and the scope after it. -/
def stmt (result : Ty) : Depth → SymbolTable → Stmt Node → Checker (Stmt Mark × SymbolTable)
  | depth, table, .declare binding => do
    let inner ← descend 1 depth
    if ← full then return (.declare (binding.map Mark.bare), table)
    let (binding, table) ← Check.binding false table inner binding
    return (.declare binding, table)
  | depth, table, .assign node target value => do
    let inner ← descend 1 depth
    if ← full then return ((Stmt.assign node target value).map Mark.bare, table)
    return (← assignment table inner node target value, table)
  | depth, table, .leave node value => do
    let inner ← descend 1 depth
    if ← full then return ((Stmt.leave node value).map Mark.bare, table)
    return (← leaving result table inner node value, table)
  | depth, table, .evaluate node value => do
    let inner ← descend 1 depth
    if ← full then return ((Stmt.evaluate node value).map Mark.bare, table)
    let (expr, _) ← expr table inner value
    return (.evaluate (.bare node) expr, table)
  | depth, table, .block node body => do
    let inner ← descend 1 depth
    if ← full then return ((Stmt.block node body).map Mark.bare, table)
    let innermost ← descend 1 inner
    let body ← stmts result innermost (table.push "block") body
    return (.block (.bare node) body, table)
  | depth, table, .ifThen node condition bodyNode body => do
    let inner ← descend 1 depth
    if ← full then return ((Stmt.ifThen node condition bodyNode body).map Mark.bare, table)
    let inside ← descend 1 inner
    let condition ← test "if" table inside condition
    let innermost ← descend 1 inside
    let body ← stmts result innermost (table.push "block") body
    return (.ifThen (.bare node) condition (.bare bodyNode) body, table)
  | depth, table, .ifElse node condition bodyNode body otherwise => do
    let inner ← descend 1 depth
    if ← full then
      return ((Stmt.ifElse node condition bodyNode body otherwise).map Mark.bare, table)
    let inside ← descend 1 inner
    let condition ← test "if" table inside condition
    let innermost ← descend 1 inside
    let body ← stmts result innermost (table.push "block") body
    let otherwise ← alternative result inside table otherwise
    return (.ifElse (.bare node) condition (.bare bodyNode) body otherwise, table)
  | depth, table, .whileLoop node condition bodyNode body => do
    let inner ← descend 1 depth
    if ← full then return ((Stmt.whileLoop node condition bodyNode body).map Mark.bare, table)
    let condition ← test "while" table inner condition
    let innermost ← descend 1 inner
    let body ← stmts result innermost (table.push "block") body
    return (.whileLoop (.bare node) condition (.bare bodyNode) body, table)
  | depth, table, .forLoop node counter first last bodyNode body => do
    let inner ← descend 1 depth
    if ← full then
      return ((Stmt.forLoop node counter first last bodyNode body).map Mark.bare, table)
    let inside ← descend 1 inner
    let first ← bound table inside first
    let last ← bound table inside last
    let symbol : Symbol := ⟨counter, .counter, .int, false, false, some node.id, none⟩
    let around := table.push "for"
    let loop := (around.define? symbol).getD around
    let innermost ← descend 1 inside
    let body ← stmts result innermost (loop.push "block") body
    return (.forLoop (.bound node symbol) counter first last (.bare bodyNode) body, table)

/-- Check what a conditional does when its test fails: a block, or a further conditional, which
is checked whatever the number of failures. -/
def alternative (result : Ty) : Depth → SymbolTable → Stmt Node → Checker (Stmt Mark)
  | depth, table, .ifThen node condition bodyNode body => do
    let inside ← descend 1 depth
    let condition ← test "if" table inside condition
    let innermost ← descend 1 inside
    let body ← stmts result innermost (table.push "block") body
    return .ifThen (.bare node) condition (.bare bodyNode) body
  | depth, table, .ifElse node condition bodyNode body otherwise => do
    let inside ← descend 1 depth
    let condition ← test "if" table inside condition
    let innermost ← descend 1 inside
    let body ← stmts result innermost (table.push "block") body
    let otherwise ← alternative result inside table otherwise
    return .ifElse (.bare node) condition (.bare bodyNode) body otherwise
  | depth, table, .block node body => do
    let innermost ← descend 1 depth
    let body ← stmts result innermost (table.push "block") body
    return .block (.bare node) body
  | _, _, other => return other.map Mark.bare

/-- Check the statements of a block, each in the scope that the ones before it leave. -/
def stmts (result : Ty) : Depth → SymbolTable → List (Stmt Node) → Checker (List (Stmt Mark))
  | _, _, [] => return []
  | depth, table, first :: rest => do
    let (first, table) ← stmt result depth table first
    return first :: (← stmts result depth table rest)

end

mutual

/-- Whether every path through a statement ends in a return. -/
def alwaysLeaves : Depth → Stmt Node → Checker Bool
  | depth, .leave _ _ => do
    let _ ← descend 1 depth
    return true
  | depth, .block _ body => do
    let inner ← descend 3 depth
    someLeaves inner body
  | depth, .ifElse _ _ _ body otherwise => do
    let inner ← descend 1 depth
    let inside ← descend 3 inner
    if ← someLeaves inside body then alwaysLeaves inner otherwise else return false
  | depth, _ => do
    let _ ← descend 1 depth
    return false

/-- Whether one of some statements always ends in a return. -/
def someLeaves : Depth → List (Stmt Node) → Checker Bool
  | _, [] => return false
  | depth, first :: rest => do
    if ← alwaysLeaves depth first then return true else someLeaves depth rest

end

/-- The types of parameters as they are written. -/
def paramTypes : List (Param Node) → Checker (List (String × Ty))
  | [] => return []
  | param :: rest => do
    let type ← writtenType param.type .param param.note
    return (param.name, type) :: (← paramTypes rest)

/-- Declare a function in the scope of the module: the scope after it, and the symbol unless the
name is taken. -/
def register (table : SymbolTable) (function : Function Node) :
    Checker (SymbolTable × Option Symbol) := do
  let params ← paramTypes function.params
  let signature : Signature := ⟨params, (function.result.map (·.type)).getD .void⟩
  let symbol : Symbol := ⟨function.name, .function, signature.type, false, true,
    some function.note.id, some signature⟩
  match table.define? symbol with
  | some table => return (table, some symbol)
  | none =>
    let place := function.note.span
    report (.redeclared function.name) place .function place
    return (table, none)

/-- Declare the functions of a program; the symbols are in the order of the declarations, with
none for a variable and for a function whose name is taken. -/
def registerAll (table : SymbolTable) :
    List (Declaration Node) → Checker (SymbolTable × List (Option Symbol))
  | [] => return (table, [])
  | .binding _ :: rest => do
    let (table, symbols) ← registerAll table rest
    return (table, none :: symbols)
  | .function declared :: rest => do
    let (table, symbol) ← register table declared
    let (table, symbols) ← registerAll table rest
    return (table, symbol :: symbols)

/-- Declare parameters of given types. -/
def declareParams (table : SymbolTable) :
    List (Param Node × Ty) → Checker (SymbolTable × List (Param Mark))
  | [] => return (table, [])
  | (param, type) :: rest => do
    let symbol : Symbol := ⟨param.name, .parameter, type, true, false, some param.note.id, none⟩
    let written := param.type.map Mark.bare
    match table.define? symbol with
    | some table =>
      let (table, params) ← declareParams table rest
      return (table, ⟨.bound param.note symbol, param.name, written⟩ :: params)
    | none =>
      let place := param.note.span
      report (.redeclared param.name) place .param place
      let (table, params) ← declareParams table rest
      return (table, ⟨.bare param.note, param.name, written⟩ :: params)

/-- Check a function that is declared as a symbol. -/
def function (table : SymbolTable) (depth : Depth) (function : Function Node) (symbol : Symbol) :
    Checker (Function Mark) := do
  let inner ← descend 1 depth
  let signature := symbol.signature.getD ⟨[], .void⟩
  let (scope, params) ← declareParams (table.push ("fn " ++ function.name))
    (function.params.zip (signature.params.map (·.2)))
  let innermost ← descend 1 inner
  let body ← stmts signature.result innermost (scope.push "block") function.body
  if signature.result ≠ .void then
    let below ← descend 3 inner
    unless ← someLeaves below function.body do
      report (.missingReturn function.name signature.result) function.note.span .function
        function.note.span
  return ⟨.bound function.note symbol, function.name, params,
    function.result.map (TypeName.map Mark.bare), .bare function.bodyNote, body⟩

/-- Check declarations; each function comes with its symbol. A function whose name is taken is
passed over, as is everything once the failures have reached their limit. -/
def declarations (depth : Depth) (table : SymbolTable) :
    List (Declaration Node × Option Symbol) → Checker (List (Declaration Mark))
  | [] => return []
  | (declaration, symbol) :: rest => do
    let passed := match declaration.map Mark.bare, symbol with
      | .function declared, some symbol =>
        .function { declared with note := { declared.note with symbol := some symbol } }
      | other, _ => other
    if ← full then return passed :: (← declarations depth table rest)
    match declaration, symbol with
    | .function declared, some symbol =>
      let declared ← function table depth declared symbol
      return .function declared :: (← declarations depth table rest)
    | .function _, none => return passed :: (← declarations depth table rest)
    | .binding declared, _ =>
      let (declared, table) ← binding true table depth declared
      return .binding declared :: (← declarations depth table rest)

/-- Check a program. -/
def program (depth : Depth) (program : Program Node) : Checker (Program Mark) := do
  let (table, symbols) ← registerAll (SymbolTable.initial.push "module") program.declarations
  let checked ← declarations depth table (program.declarations.zip symbols)
  return ⟨.bare program.note, checked, program.file⟩

/-- What a check finds: the failures in order, and the tree with notes when there are none. -/
structure Result where
  /-- The failures. -/
  failures : List Failure
  /-- The tree with notes. -/
  program : Option (Program Mark)
  deriving Repr, Inhabited

/-- The steps that the check of a declaration has. -/
def depthLimit : Nat := 985

/-- Check a program with a limit on the failures, down to a depth. Where the steps run out, that
is one more failure, and the whole program is at fault. -/
def run (depth : Depth) (limit : Nat) (tree : Program Node) : Result :=
  let (checked, journal) := (program depth tree).run ⟨limit, #[]⟩
  let found := journal.failures.toList
  let place := tree.note.span
  match checked with
  | none => ⟨found ++ [⟨.tooDeep, place, .program, place⟩], none⟩
  | some checked => ⟨found, if found.isEmpty then some checked else none⟩

end Lag.Check

namespace Lag

/-- Check a program with a limit on the failures. -/
def Program.check (program : Program Node) (limit : Nat) : Check.Result :=
  Check.run (some Check.depthLimit) limit program

end Lag
