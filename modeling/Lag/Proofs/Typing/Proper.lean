import Lag.Proofs.Typing.Rules

/-!
# Proper scopes

In a scope that the rules build, every variable holds values and every function has a signature of
values. So an expression that is well typed in such a scope has a value, unless it is the call of
a function without a result.
-/
namespace Lag

/-- A signature that takes values and gives a value or nothing. -/
structure Signature.Proper (signature : Signature) : Prop where
  /-- Parameters hold values. -/
  params : ∀ param ∈ signature.params, param.2.isValue = true ∨ param.2 = .any
  /-- The result is a value or nothing. -/
  result : signature.result.isValue = true ∨ signature.result = .void

/-- A symbol of a variable that holds values, or of a function with a signature. -/
structure Symbol.Proper (symbol : Symbol) : Prop where
  /-- A variable holds values and has no signature. -/
  readable : symbol.kind.isFunction = false → symbol.type.isValue = true ∧ symbol.signature = none
  /-- A function has a signature. -/
  callable : symbol.kind.isFunction = true →
    ∃ signature, symbol.signature = some signature ∧ signature.Proper

/-- The signature of a proper symbol is proper. -/
theorem Symbol.Proper.signature {symbol : Symbol} (proper : symbol.Proper) {signature : Signature}
    (signed : symbol.signature = some signature) : signature.Proper := by
  cases kind : symbol.kind.isFunction with
  | false => simp [(proper.readable kind).2] at signed
  | true =>
    obtain ⟨other, same, signatureProper⟩ := proper.callable kind
    obtain rfl : other = signature := by simpa [same] using signed
    exact signatureProper

namespace SymbolTable

/-- The scopes of a table, the innermost first. -/
def scopes (table : SymbolTable) : List Scope := table.scope :: table.outer

/-- A table whose symbols are proper. -/
def Proper (table : SymbolTable) : Prop :=
  ∀ scope ∈ table.scopes, ∀ symbol ∈ scope.symbols, symbol.Proper

/-- An opened scope is the innermost. -/
@[simp] theorem scopes_push (table : SymbolTable) (name : String) :
    (table.push name).scopes = ⟨name, []⟩ :: table.scopes := rfl

/-- A lookup searches the scopes from the inside out. -/
theorem lookup?_eq (table : SymbolTable) (name : String) :
    table.lookup? name = findIn? name table.scopes := rfl

/-- A declaration puts a symbol whose name is new into the innermost scope. -/
theorem define?_eq_some_iff {table next : SymbolTable} {symbol : Symbol} :
    table.define? symbol = some next ↔
      table.scope.find? symbol.name = none ∧
        next = ⟨⟨table.scope.name, symbol :: table.scope.symbols⟩, table.outer⟩ := by
  unfold define?
  cases found : table.scope.find? symbol.name with
  | some other => simp
  | none =>
    simp only [Option.some.injEq, true_and]
    exact eq_comm

/-- A name that is found in scopes stands for a symbol of that name in one of them. -/
theorem mem_of_findIn? {name : String} {scopes : List Scope} {symbol : Symbol}
    (found : findIn? name scopes = some symbol) :
    symbol.name = name ∧ ∃ scope ∈ scopes, symbol ∈ scope.symbols := by
  induction scopes with
  | nil => simp [findIn?] at found
  | cons scope outer ih =>
    unfold findIn? at found
    split at found
    · rename_i other here
      cases found
      have named := List.find?_some here
      exact ⟨by simpa using named, scope, by simp, List.mem_of_find?_eq_some here⟩
    · obtain ⟨named, around, inside, member⟩ := ih found
      exact ⟨named, around, by simp [inside], member⟩

/-- A name that a scope does not hold is looked up in the scopes around it. -/
theorem findIn?_append (name : String) (inner outer : List Scope) :
    findIn? name (inner ++ outer) = (findIn? name inner).or (findIn? name outer) := by
  induction inner with
  | nil => rfl
  | cons scope rest ih =>
    simp only [List.cons_append, findIn?]
    cases scope.find? name with
    | some symbol => rfl
    | none => simpa using ih

section Holds

variable {table next : SymbolTable} {has other : Symbol → Prop} {symbol : Symbol}

/-- A table whose symbols have a property. -/
def Holds (table : SymbolTable) (has : Symbol → Prop) : Prop :=
  ∀ scope ∈ table.scopes, ∀ symbol ∈ scope.symbols, has symbol

/-- A symbol that a lookup finds has what the symbols of the table have. -/
theorem Holds.lookup? (holds : table.Holds has) {name : String}
    (found : table.lookup? name = some symbol) : has symbol := by
  obtain ⟨_, scope, inside, member⟩ := mem_of_findIn? found
  exact holds scope inside symbol member

/-- A property may follow from another one. -/
theorem Holds.imp (holds : table.Holds has) (follows : ∀ symbol, has symbol → other symbol) :
    table.Holds other :=
  fun scope inside symbol member => follows symbol (holds scope inside symbol member)

/-- An opened scope has no symbols. -/
theorem Holds.push (holds : table.Holds has) (name : String) : (table.push name).Holds has := by
  intro scope inside symbol member
  rcases List.mem_cons.1 inside with rfl | outer
  · cases member
  · exact holds scope outer symbol member

/-- A declaration adds its symbol only. -/
theorem Holds.define (holds : table.Holds has) (fresh : table.define? symbol = some next)
    (added : has symbol) : next.Holds has := by
  obtain ⟨_, rfl⟩ := define?_eq_some_iff.1 fresh
  intro scope inside other member
  rcases List.mem_cons.1 inside with rfl | outer
  · rcases List.mem_cons.1 member with rfl | old
    · exact added
    · exact holds _ (List.mem_cons_self) other old
  · exact holds scope (List.mem_cons_of_mem _ outer) other member

/-- The scope of the built-in functions has no other symbols. -/
theorem holds_initial : initial.Holds fun symbol => ∃ builtin : Builtin, symbol = builtin.symbol := by
  intro scope inside symbol member
  obtain rfl := List.mem_singleton.1 inside
  obtain ⟨builtin, _, rfl⟩ := List.mem_map.1 member
  exact ⟨builtin, rfl⟩

end Holds

/-- A symbol that a lookup finds in a proper table is proper. -/
theorem Proper.lookup? {table : SymbolTable} (proper : table.Proper) {name : String}
    {symbol : Symbol} (found : table.lookup? name = some symbol) : symbol.Proper :=
  Holds.lookup? proper found

/-- An opened scope keeps a table proper. -/
theorem Proper.push {table : SymbolTable} (proper : table.Proper) (name : String) :
    (table.push name).Proper := Holds.push proper name

/-- The declaration of a proper symbol keeps a table proper. -/
theorem Proper.define {table next : SymbolTable} (proper : table.Proper) {symbol : Symbol}
    (fresh : table.define? symbol = some next) (added : symbol.Proper) : next.Proper :=
  Holds.define proper fresh added

/-- The scope of the built-in functions is proper. -/
theorem proper_initial : initial.Proper := by
  refine holds_initial.imp fun symbol is => ?_
  obtain ⟨builtin, rfl⟩ := is
  refine ⟨(nomatch ·), fun _ => ⟨builtin.signature, rfl, ?_⟩⟩
  cases builtin <;> constructor <;> simp [Builtin.signature, Ty.isValue]

end SymbolTable

namespace Typing

/-- A well typed expression is noted with its type. -/
theorem HasType.noted {table : SymbolTable} {expr : Expr Mark} {type : Ty}
    (typed : HasType table expr type) : expr.note.type = some type := by
  cases typed <;> assumption

/-- An expression that fits a place is well typed. -/
theorem Fits.typed {table : SymbolTable} {place : Ty} {expr : Expr Mark}
    (fits : Fits table place expr) : ∃ type, HasType table expr type := by
  cases fits with
  | same typed _ _ => exact ⟨_, typed⟩
  | widened typed _ => exact ⟨_, typed⟩
  | any typed _ _ => exact ⟨_, typed⟩

/-- Arguments are as many as parameters. -/
theorem Arguments.length {table : SymbolTable} {params : List (String × Ty)}
    {exprs : List (Expr Mark)} (fits : Arguments table params exprs) :
    exprs.length = params.length := by
  induction exprs generalizing params with
  | nil =>
    cases fits
    rfl
  | cons expr rest ih =>
    cases fits with
    | cons _ others => rw [List.length_cons, List.length_cons, ih others]

/-- The symbol of a declared variable of a type of values is proper. -/
theorem proper_variableSymbol (inModule : Bool) (binding : Binding Mark) {type : Ty}
    (value : type.isValue = true) : (variableSymbol inModule binding type).Proper :=
  ⟨fun _ => ⟨value, rfl⟩, fun callable => by cases callable⟩

/-- The symbol of the variable of a loop is proper. -/
theorem proper_counterSymbol (mark : Mark) (counter : String) :
    (counterSymbol mark counter).Proper :=
  ⟨fun _ => ⟨rfl, rfl⟩, fun callable => by cases callable⟩

/-- The symbol of a parameter of a type of values is proper. -/
theorem proper_paramSymbol {param : Param Mark} (value : param.type.type.isValue = true) :
    (paramSymbol param).Proper :=
  ⟨fun _ => ⟨value, rfl⟩, fun callable => by cases callable⟩

/-- The symbol of a function with a proper signature is proper. -/
theorem proper_functionSymbol {function : Function Mark} (proper : function.signature.Proper) :
    (functionSymbol function).Proper :=
  ⟨(nomatch ·), fun _ => ⟨_, rfl, proper⟩⟩

/-- A declaration of a variable keeps a table proper. -/
theorem Declares.proper {inModule : Bool} {table next : SymbolTable} {binding : Binding Mark}
    (declares : Declares inModule table binding next) (proper : table.Proper) : next.Proper := by
  obtain ⟨value, _, _, _, fresh⟩ := declares
  exact proper.define fresh (proper_variableSymbol inModule binding value)

/-- A statement keeps a table proper. -/
theorem Follows.proper {result : Ty} {table next : SymbolTable} {stmt : Stmt Mark}
    (follows : Follows result table stmt next) (proper : table.Proper) : next.Proper := by
  cases follows with
  | declare declared => exact declared.proper proper
  | _ => exact proper

/-- Parameters keep a table proper. -/
theorem Params.proper {table next : SymbolTable} {params : List (Param Mark)}
    (takes : Params table params next) (proper : table.Proper) : next.Proper := by
  induction takes with
  | nil => exact proper
  | cons value _ fresh _ ih => exact ih (proper.define fresh (proper_paramSymbol value))

/-- The symbols of functions with proper signatures keep a table proper. -/
theorem Registers.proper {table next : SymbolTable} {symbols : List Symbol}
    (registers : Registers table symbols next) (added : ∀ symbol ∈ symbols, symbol.Proper)
    (proper : table.Proper) : next.Proper := by
  induction registers with
  | nil => exact proper
  | cons fresh _ ih =>
    exact ih (fun symbol inside => added symbol (List.mem_cons_of_mem _ inside))
      (proper.define fresh (added _ List.mem_cons_self))

/-- An operation gives a value. -/
theorem Operation.isValue {op : BinaryOp} {left right type : Ty}
    (operation : Operation op left right type) : type.isValue = true := by
  cases operation <;> rfl

/-- An expression that is well typed in a proper scope has a value or is the call of a function
without a result. -/
theorem HasType.isValue_or_void {table : SymbolTable} (proper : table.Proper) {expr : Expr Mark}
    {type : Ty} (typed : HasType table expr type) : type.isValue = true ∨ type = .void := by
  cases typed with
  | @literal mark value => cases value <;> exact .inl rfl
  | read found readable => exact .inl ((proper.lookup? found).readable readable).1
  | not => exact .inl rfl
  | @negate _ _ type _ number =>
    left
    cases type <;> simp_all [Ty.isNumeric, Ty.isValue]
  | binary _ _ _ _ _ fits => exact .inl fits.isValue
  | call _ found _ signed => exact ((proper.lookup? found).signature signed).result

end Typing

end Lag
