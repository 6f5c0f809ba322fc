import Lag.Check.Mark
import Lag.Proofs.Tree.Regular

/-!
# The typing rules

The rules relate a scope to the constructs that are well typed in it. They are stated on trees
with notes, so that a derivation also says which symbol every name stands for and where an integer
is converted: a name carries the symbol that its scope finds for it, a declaration the symbol that
it adds to the scope, and an expression is noted as converted exactly where an integer stands in
the place of a float.

Statements thread the scope: a declaration extends it for the statements after it, and a body is
checked in a scope of its own.
-/
namespace Lag

/-- Whether the type is one of values. -/
def Ty.isValue : Ty → Bool
  | .int | .float | .bool | .string => true
  | _ => false

namespace Typing

/-- The operators with the types of their operands and of their results. -/
inductive Operation : BinaryOp → Ty → Ty → Ty → Prop where
  /-- Integers give an integer. -/
  | integers {op : BinaryOp} (arithmetic : op.isArithmetic = true) : Operation op .int .int .int
  /-- Numbers, one of them a float, give a float. -/
  | floats {op : BinaryOp} {left right : Ty} (arithmetic : op.isArithmetic = true)
      (leftNumber : left.isNumeric = true) (rightNumber : right.isNumeric = true)
      (float : left = .float ∨ right = .float) : Operation op left right .float
  /-- Texts are joined. -/
  | texts : Operation .add .string .string .string
  /-- Numbers have an order. -/
  | order {op : BinaryOp} {left right : Ty} (order : op.isOrder = true)
      (leftNumber : left.isNumeric = true) (rightNumber : right.isNumeric = true) :
      Operation op left right .bool
  /-- Numbers are tested for equality. -/
  | numbers {op : BinaryOp} {left right : Ty} (equality : op.isEquality = true)
      (leftNumber : left.isNumeric = true) (rightNumber : right.isNumeric = true) :
      Operation op left right .bool
  /-- Values of one type are tested for equality. -/
  | same {op : BinaryOp} {type : Ty} (equality : op.isEquality = true)
      (value : type.isValue = true) : Operation op type type .bool
  /-- Truth values are joined. -/
  | truths {op : BinaryOp} (logic : op = .and ∨ op = .or) : Operation op .bool .bool .bool

mutual

/-- The expressions that are well typed in a scope, with their types before a conversion. -/
inductive HasType (table : SymbolTable) : Expr Mark → Ty → Prop where
  /-- A literal has the type of its value. -/
  | literal {mark : Mark} {value : Literal} {lexeme : String}
      (noted : mark.type = some value.type) : HasType table (.literal mark value lexeme) value.type
  /-- A variable has the type of its symbol. -/
  | read {ident : Ident Mark} {symbol : Symbol} (found : table.lookup? ident.name = some symbol)
      (readable : symbol.kind.isFunction = false) (bound : ident.note.symbol = some symbol)
      (noted : ident.note.type = some symbol.type) : HasType table (.read ident) symbol.type
  /-- A truth value is negated. -/
  | not {mark : Mark} {operand : Expr Mark} (noted : mark.type = some .bool)
      (truth : HasType table operand .bool) (plain : operand.note.widened = false) :
      HasType table (.unary mark .not operand) .bool
  /-- The sign of a number is changed. -/
  | negate {mark : Mark} {operand : Expr Mark} {type : Ty} (noted : mark.type = some type)
      (number : type.isNumeric = true) (typed : HasType table operand type)
      (plain : operand.note.widened = false) : HasType table (.unary mark .negate operand) type
  /-- An operator has the type of its operation. -/
  | binary {mark : Mark} {op : BinaryOp} {left right : Expr Mark} {leftType rightType type : Ty}
      (noted : mark.type = some type) (leftTyped : HasType table left leftType)
      (leftPlain : left.note.widened = false) (rightTyped : HasType table right rightType)
      (rightPlain : right.note.widened = false) (fits : Operation op leftType rightType type) :
      HasType table (.binary mark op left right) type
  /-- A call has the type of the result of the function. -/
  | call {mark : Mark} {callee : Ident Mark} {arguments : List (Expr Mark)} {symbol : Symbol}
      {signature : Signature} (noted : mark.type = some signature.result)
      (found : table.lookup? callee.name = some symbol) (bound : callee.note.symbol = some symbol)
      (signed : symbol.signature = some signature)
      (fits : Arguments table signature.params arguments) :
      HasType table (.call mark callee arguments) signature.result

/-- The expressions that fit a place of a type. -/
inductive Fits (table : SymbolTable) : Ty → Expr Mark → Prop where
  /-- A value fits a place of its type. -/
  | same {type : Ty} {expr : Expr Mark} (typed : HasType table expr type)
      (value : type.isValue = true) (plain : expr.note.widened = false) : Fits table type expr
  /-- An integer fits the place of a float and is converted. -/
  | widened {expr : Expr Mark} (typed : HasType table expr .int)
      (converted : expr.note.widened = true) : Fits table .float expr
  /-- Any value fits a place of any type. -/
  | any {type : Ty} {expr : Expr Mark} (typed : HasType table expr type)
      (value : type.isValue = true) (plain : expr.note.widened = false) : Fits table .any expr

/-- The arguments that fit parameters. -/
inductive Arguments (table : SymbolTable) : List (String × Ty) → List (Expr Mark) → Prop where
  /-- No arguments fit no parameters. -/
  | nil : Arguments table [] []
  /-- Each argument fits its parameter. -/
  | cons {param : String} {place : Ty} {params : List (String × Ty)} {expr : Expr Mark}
      {rest : List (Expr Mark)} (fits : Fits table place expr)
      (others : Arguments table params rest) :
      Arguments table ((param, place) :: params) (expr :: rest)

end

/-- The symbol that the declaration of a variable of a type introduces. -/
def variableSymbol (inModule : Bool) (binding : Binding Mark) (type : Ty) : Symbol :=
  ⟨binding.name, .variable, type, true, inModule, some binding.note.node.id, none⟩

/-- The declarations of variables that are well typed in a scope, with the scope after them. -/
inductive Declares (inModule : Bool) (table : SymbolTable) (binding : Binding Mark) :
    SymbolTable → Prop where
  /-- The first value fits the type, which is the written one if there is one. -/
  | intro {type : Ty} {next : SymbolTable} (value : type.isValue = true)
      (written : binding.type.map (·.type) = some type ∨
        binding.type = none ∧ binding.value.note.widened = false)
      (fits : Fits table type binding.value)
      (bound : binding.note.symbol = some (variableSymbol inModule binding type))
      (fresh : table.define? (variableSymbol inModule binding type) = some next) :
      Declares inModule table binding next

/-- The symbol of the variable of a loop. -/
def counterSymbol (mark : Mark) (counter : String) : Symbol :=
  ⟨counter, .counter, .int, false, false, some mark.node.id, none⟩

mutual

/-- The statements that are well typed in a scope of a function with a result of a type, with the
scope after them. -/
inductive Follows (result : Ty) : SymbolTable → Stmt Mark → SymbolTable → Prop where
  /-- A variable is declared. -/
  | declare {table next : SymbolTable} {binding : Binding Mark}
      (declared : Declares false table binding next) : Follows result table (.declare binding) next
  /-- A variable that may be changed gets a value that fits it. -/
  | assign {table : SymbolTable} {mark : Mark} {target : Ident Mark} {value : Expr Mark}
      {symbol : Symbol} (found : table.lookup? target.name = some symbol)
      (readable : symbol.kind.isFunction = false) (changes : symbol.mutable = true)
      (bound : target.note.symbol = some symbol) (noted : target.note.type = some symbol.type)
      (fits : Fits table symbol.type value) : Follows result table (.assign mark target value) table
  /-- A function without a result is left. -/
  | leaveNothing {table : SymbolTable} {mark : Mark} (void : result = .void) :
      Follows result table (.leave mark none) table
  /-- A function is left with a value that fits its result. -/
  | leave {table : SymbolTable} {mark : Mark} {value : Expr Mark} (valued : result ≠ .void)
      (fits : Fits table result value) : Follows result table (.leave mark (some value)) table
  /-- An expression is evaluated, whatever its type. -/
  | evaluate {table : SymbolTable} {mark : Mark} {value : Expr Mark} {type : Ty}
      (typed : HasType table value type) (plain : value.note.widened = false) :
      Follows result table (.evaluate mark value) table
  /-- A block has a scope of its own. -/
  | block {table : SymbolTable} {mark : Mark} {body : List (Stmt Mark)}
      (inside : Body result (table.push "block") body) :
      Follows result table (.block mark body) table
  /-- A test is a truth value. -/
  | ifThen {table : SymbolTable} {mark bodyMark : Mark} {test : Expr Mark} {body : List (Stmt Mark)}
      (truth : HasType table test .bool) (plain : test.note.widened = false)
      (inside : Body result (table.push "block") body) :
      Follows result table (.ifThen mark test bodyMark body) table
  /-- What happens when a test fails is a block or a conditional. -/
  | ifElse {table : SymbolTable} {mark bodyMark : Mark} {test : Expr Mark} {body : List (Stmt Mark)}
      {otherwise : Stmt Mark} (truth : HasType table test .bool)
      (plain : test.note.widened = false) (inside : Body result (table.push "block") body)
      (branch : otherwise.isBranch = true) (other : Follows result table otherwise table) :
      Follows result table (.ifElse mark test bodyMark body otherwise) table
  /-- The test of a loop is a truth value. -/
  | whileLoop {table : SymbolTable} {mark bodyMark : Mark} {test : Expr Mark}
      {body : List (Stmt Mark)} (truth : HasType table test .bool)
      (plain : test.note.widened = false) (inside : Body result (table.push "block") body) :
      Follows result table (.whileLoop mark test bodyMark body) table
  /-- The bounds of a loop are integers, and its variable belongs to a scope around the body. -/
  | forLoop {table around : SymbolTable} {mark bodyMark : Mark} {counter : String}
      {first bound : Expr Mark} {body : List (Stmt Mark)} (firstTyped : HasType table first .int)
      (firstPlain : first.note.widened = false) (boundTyped : HasType table bound .int)
      (boundPlain : bound.note.widened = false)
      (noted : mark.symbol = some (counterSymbol mark counter))
      (fresh : (table.push "for").define? (counterSymbol mark counter) = some around)
      (inside : Body result (around.push "block") body) :
      Follows result table (.forLoop mark counter first bound bodyMark body) table

/-- The bodies that are well typed from a scope on. -/
inductive Body (result : Ty) : SymbolTable → List (Stmt Mark) → Prop where
  /-- Nothing is well typed. -/
  | nil {table : SymbolTable} : Body result table []
  /-- Each statement is well typed in the scope that the one before it leaves. -/
  | cons {table next : SymbolTable} {stmt : Stmt Mark} {rest : List (Stmt Mark)}
      (first : Follows result table stmt next) (others : Body result next rest) :
      Body result table (stmt :: rest)

end

end Typing

mutual

/-- Whether every path through a statement ends in a return. -/
def Stmt.leaves {α : Type} : Stmt α → Bool
  | .leave _ _ => true
  | .block _ body => Stmt.someLeaves body
  | .ifElse _ _ _ body otherwise => Stmt.someLeaves body && otherwise.leaves
  | _ => false

/-- Whether one of some statements always ends in a return. -/
def Stmt.someLeaves {α : Type} : List (Stmt α) → Bool
  | [] => false
  | stmt :: rest => stmt.leaves || Stmt.someLeaves rest

end

/-- The signature that a function is written with. -/
def Function.signature {α : Type} (function : Function α) : Signature :=
  ⟨function.params.map fun param => (param.name, param.type.type),
    (function.result.map (·.type)).getD .void⟩

namespace Typing

/-- The symbol that a parameter introduces. -/
def paramSymbol (param : Param Mark) : Symbol :=
  ⟨param.name, .parameter, param.type.type, true, false, some param.note.node.id, none⟩

/-- The symbol that a function introduces. -/
def functionSymbol (function : Function Mark) : Symbol :=
  ⟨function.name, .function, function.signature.type, false, true, some function.note.node.id,
    some function.signature⟩

/-- The parameters that a scope can take up, with the scope after them. -/
inductive Params : SymbolTable → List (Param Mark) → SymbolTable → Prop where
  /-- No parameters change nothing. -/
  | nil {table : SymbolTable} : Params table [] table
  /-- A parameter has a name of its own and holds values. -/
  | cons {table next last : SymbolTable} {param : Param Mark} {rest : List (Param Mark)}
      (value : param.type.type.isValue = true)
      (bound : param.note.symbol = some (paramSymbol param))
      (fresh : table.define? (paramSymbol param) = some next) (others : Params next rest last) :
      Params table (param :: rest) last

/-- The functions that are well typed in the scope of a module. -/
inductive Defines (table : SymbolTable) (function : Function Mark) : Prop where
  /-- The body is well typed below the parameters, and a function with a result returns one on
  every path. -/
  | intro {around : SymbolTable} (bound : function.note.symbol = some (functionSymbol function))
      (result : function.signature.result.isValue = true ∨ function.signature.result = .void)
      (params : Params (table.push ("fn " ++ function.name)) function.params around)
      (inside : Body function.signature.result (around.push "block") function.body)
      (returns : function.signature.result ≠ .void → Stmt.someLeaves function.body = true) :
      Defines table function

/-- The declarations that are well typed from a scope of a module on. -/
inductive Declarations : SymbolTable → List (Declaration Mark) → Prop where
  /-- Nothing is well typed. -/
  | nil {table : SymbolTable} : Declarations table []
  /-- A function is well typed in the scope where it stands. -/
  | function {table : SymbolTable} {declared : Function Mark} {rest : List (Declaration Mark)}
      (first : Defines table declared) (others : Declarations table rest) :
      Declarations table (.function declared :: rest)
  /-- A variable is known to the declarations after it. -/
  | binding {table next : SymbolTable} {declared : Binding Mark} {rest : List (Declaration Mark)}
      (first : Declares true table declared next) (others : Declarations next rest) :
      Declarations table (.binding declared :: rest)

/-- The symbols that a scope can take up, with the scope after them. -/
inductive Registers : SymbolTable → List Symbol → SymbolTable → Prop where
  /-- No symbols change nothing. -/
  | nil {table : SymbolTable} : Registers table [] table
  /-- A symbol has a name of its own. -/
  | cons {table next last : SymbolTable} {symbol : Symbol} {rest : List Symbol}
      (fresh : table.define? symbol = some next) (others : Registers next rest last) :
      Registers table (symbol :: rest) last

/-- The programs that are well typed: all functions are known everywhere, and a variable after its
declaration. -/
inductive Program (program : Lag.Program Mark) : Prop where
  /-- The declarations are well typed in the scope that knows the functions. -/
  | intro {table : SymbolTable} (registered : Registers (SymbolTable.initial.push "module")
        (program.functions.map functionSymbol) table)
      (declared : Declarations table program.declarations) : Program program

end Typing

end Lag
