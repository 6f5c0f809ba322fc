import Lag.Ty

/-!
# Symbols and scopes

A symbol is what a name stands for in a scope. Scopes nest: the outermost holds the built-in
functions, the next the functions and variables of the module, the others parameters and variables
of functions and blocks. A name stands for its symbol in the innermost scope that has one.
-/
namespace Lag

/-- The kinds of symbols. -/
inductive SymbolKind where
  /-- A variable. -/
  | variable
  /-- A parameter. -/
  | parameter
  /-- The variable of a loop over integers. -/
  | counter
  /-- A function. -/
  | function
  /-- A built-in function. -/
  | builtin
  deriving DecidableEq, Repr, Inhabited

namespace SymbolKind

/-- The name under which a kind is listed. -/
def name : SymbolKind → String
  | .variable => "VARIABLE"
  | .parameter => "PARAMETER"
  | .counter => "LOOP_VARIABLE"
  | .function => "FUNCTION"
  | .builtin => "BUILTIN"

/-- The kind that is listed under a name. -/
def ofName? (name : String) : Option SymbolKind :=
  [SymbolKind.variable, .parameter, .counter, .function, .builtin].find? (·.name == name)

/-- Whether a symbol of the kind is called and not read. -/
def isFunction : SymbolKind → Bool
  | .function | .builtin => true
  | _ => false

end SymbolKind

/-- The parameters of a function, with their types, and the type of its result. -/
structure Signature where
  /-- The parameters. -/
  params : List (String × Ty)
  /-- The type of the result. -/
  result : Ty
  deriving DecidableEq, Repr, Inhabited

/-- The type of the functions with a signature. -/
def Signature.type (signature : Signature) : Ty :=
  .function (signature.params.map (·.2)) signature.result

/-- What a name stands for. -/
structure Symbol where
  /-- The name. -/
  name : String
  /-- The kind. -/
  kind : SymbolKind
  /-- The type. -/
  type : Ty
  /-- Whether it may be assigned to. -/
  mutable : Bool := false
  /-- Whether it belongs to the module. -/
  inModule : Bool := false
  /-- The number of its declaration; built-in functions have none. -/
  origin : Option Nat := none
  /-- The signature of a function. -/
  signature : Option Signature := none
  deriving DecidableEq, Repr, Inhabited

/-- The built-in functions. -/
inductive Builtin where
  /-- Write a line. -/
  | print
  /-- The text of a value. -/
  | str
  /-- The length of a text. -/
  | len
  /-- The square root. -/
  | sqrt
  /-- The greatest integer that is not above a number. -/
  | floor
  deriving DecidableEq, Repr, Inhabited

namespace Builtin

/-- The name of a built-in function. -/
def name : Builtin → String
  | .print => "print"
  | .str => "str"
  | .len => "len"
  | .sqrt => "sqrt"
  | .floor => "floor"

/-- All built-in functions. -/
def all : List Builtin := [.print, .str, .len, .sqrt, .floor]

/-- The built-in function of a name. -/
def ofName? (name : String) : Option Builtin := all.find? (·.name == name)

/-- The signature of a built-in function. -/
def signature : Builtin → Signature
  | .print => ⟨[("value", .any)], .void⟩
  | .str => ⟨[("value", .any)], .string⟩
  | .len => ⟨[("s", .string)], .int⟩
  | .sqrt => ⟨[("x", .float)], .float⟩
  | .floor => ⟨[("x", .float)], .int⟩

/-- The symbol of a built-in function. -/
def symbol (builtin : Builtin) : Symbol where
  name := builtin.name
  kind := .builtin
  type := builtin.signature.type
  signature := some builtin.signature

/-- The names of the built-in functions tell them apart. -/
theorem ofName?_name (builtin : Builtin) : ofName? builtin.name = some builtin := by
  cases builtin <;> decide

end Builtin

/-- The symbols of a scope, the newest first, and the name of the scope. -/
structure Scope where
  /-- The name. -/
  name : String
  /-- The symbols. -/
  symbols : List Symbol := []
  deriving Repr, Inhabited

/-- The symbol of a name in a scope. -/
def Scope.find? (scope : Scope) (name : String) : Option Symbol :=
  scope.symbols.find? (·.name == name)

/-- Nested scopes: the innermost, and those around it from the inside out. -/
structure SymbolTable where
  /-- The innermost scope. -/
  scope : Scope
  /-- The scopes around it. -/
  outer : List Scope := []
  deriving Repr, Inhabited

namespace SymbolTable

/-- The scope of the built-in functions alone. -/
def initial : SymbolTable := ⟨⟨"global", Builtin.all.map Builtin.symbol⟩, []⟩

/-- Open a scope. -/
def push (table : SymbolTable) (name : String) : SymbolTable :=
  ⟨⟨name, []⟩, table.scope :: table.outer⟩

/-- Close the innermost scope; the outermost stays open. -/
def pop (table : SymbolTable) : SymbolTable :=
  match table.outer with
  | [] => table
  | scope :: outer => ⟨scope, outer⟩

/-- Declare a symbol in the innermost scope, unless its name is declared there. -/
def define? (table : SymbolTable) (symbol : Symbol) : Option SymbolTable :=
  match table.scope.find? symbol.name with
  | some _ => none
  | none =>
    some { table with scope := { table.scope with symbols := symbol :: table.scope.symbols } }

/-- The symbol of a name in some scopes, the first of which is the innermost. -/
def findIn? (name : String) : List Scope → Option Symbol
  | [] => none
  | scope :: outer =>
    match scope.find? name with
    | some symbol => some symbol
    | none => findIn? name outer

/-- The symbol that a name stands for. -/
def lookup? (table : SymbolTable) (name : String) : Option Symbol :=
  findIn? name (table.scope :: table.outer)

/-- The number of scopes that are searched for a name. -/
def searched (name : String) : List Scope → Nat
  | [] => 0
  | scope :: outer => if (scope.find? name).isSome then 1 else searched name outer + 1

/-- The number of scopes that a lookup of a name visits. -/
def reach (table : SymbolTable) (name : String) : Nat :=
  searched name (table.scope :: table.outer)

/-- Whether the innermost scope is that of a module. -/
def atModule (table : SymbolTable) : Bool := table.outer.length == 1

/-- A scope that was opened and closed leaves no trace. -/
@[simp] theorem pop_push (table : SymbolTable) (name : String) :
    (table.push name).pop = table := rfl

/-- A new scope hides nothing. -/
@[simp] theorem lookup?_push (table : SymbolTable) (scope name : String) :
    (table.push scope).lookup? name = table.lookup? name := rfl

/-- A declared name stands for its symbol. -/
theorem lookup?_define {table table' : SymbolTable} {symbol : Symbol}
    (defined : table.define? symbol = some table') : table'.lookup? symbol.name = some symbol := by
  unfold define? at defined
  split at defined
  · cases defined
  · cases defined
    simp [lookup?, findIn?, Scope.find?]

/-- A declaration changes no other name. -/
theorem lookup?_define_ne {table table' : SymbolTable} {symbol : Symbol} {name : String}
    (defined : table.define? symbol = some table') (other : symbol.name ≠ name) :
    table'.lookup? name = table.lookup? name := by
  unfold define? at defined
  split at defined
  · cases defined
  · cases defined
    simp [lookup?, findIn?, Scope.find?, other]

end SymbolTable

end Lag
