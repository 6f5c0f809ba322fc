import Lag.Proofs.Scoping.Layout

/-!
# Expressions that occur in a program

Every expression of a well typed program, also one inside another, is well typed in a scope that
knows nothing but the built-in functions and what the program declares.
-/
namespace Lag

open Host (declared declaredAll declaredBy declaredIn symbolsOf)

variable {α : Type}

mutual

/-- An expression and the expressions inside it. -/
def Expr.parts : Expr α → List (Expr α)
  | .literal note value lexeme => [.literal note value lexeme]
  | .read ident => [.read ident]
  | .unary note op operand => .unary note op operand :: operand.parts
  | .binary note op left right => .binary note op left right :: (left.parts ++ right.parts)
  | .call note callee arguments => .call note callee arguments :: Expr.allParts arguments

/-- Expressions and the expressions inside them. -/
def Expr.allParts : List (Expr α) → List (Expr α)
  | [] => []
  | expr :: rest => expr.parts ++ Expr.allParts rest

end

mutual

/-- The expressions that occur in a statement. -/
def Stmt.exprs : Stmt α → List (Expr α)
  | .declare binding => binding.value.parts
  | .assign _ _ value => value.parts
  | .leave _ none => []
  | .leave _ (some value) => value.parts
  | .evaluate _ value => value.parts
  | .block _ body => Stmt.allExprs body
  | .ifThen _ test _ body => test.parts ++ Stmt.allExprs body
  | .ifElse _ test _ body otherwise => test.parts ++ Stmt.allExprs body ++ otherwise.exprs
  | .whileLoop _ test _ body => test.parts ++ Stmt.allExprs body
  | .forLoop _ _ first bound _ body => first.parts ++ bound.parts ++ Stmt.allExprs body

/-- The expressions that occur in statements. -/
def Stmt.allExprs : List (Stmt α) → List (Expr α)
  | [] => []
  | stmt :: rest => stmt.exprs ++ Stmt.allExprs rest

end

/-- The expressions that occur in a declaration. -/
def Declaration.exprs : Declaration α → List (Expr α)
  | .function declared => Stmt.allExprs declared.body
  | .binding declared => declared.value.parts

/-- The expressions that occur in a program. -/
def Program.exprs (program : Program α) : List (Expr α) :=
  program.declarations.flatMap Declaration.exprs

namespace Typing

variable {program : Lag.Program Mark}

/-- A symbol that a program declares: it has a number, and it is not that of a built-in function. -/
structure Declared (program : Lag.Program Mark) (symbol : Symbol) : Prop where
  /-- The program declares it. -/
  inside : symbol ∈ symbolsOf program
  /-- It is not that of a built-in function. -/
  plain : symbol.kind ≠ .builtin

/-- A scope that knows nothing but the built-in functions and what a program declares. -/
def Known (program : Lag.Program Mark) (table : SymbolTable) : Prop :=
  ∀ scope ∈ table.scopes, ∀ symbol ∈ scope.symbols,
    Declared program symbol ∨ ∃ builtin : Builtin, symbol = builtin.symbol

/-- What a name stands for in such a scope. -/
theorem Known.lookup? {table : SymbolTable} (known : Known program table) {name : String}
    {symbol : Symbol} (found : table.lookup? name = some symbol) :
    Declared program symbol ∨ ∃ builtin : Builtin, symbol = builtin.symbol :=
  SymbolTable.Holds.lookup? known found

/-- A new scope knows nothing. -/
theorem Known.push {table : SymbolTable} (known : Known program table) (name : String) :
    Known program (table.push name) := SymbolTable.Holds.push known name

/-- A declared symbol may be known. -/
theorem Known.define {table next : SymbolTable} (known : Known program table) {symbol : Symbol}
    (declares : Declared program symbol) (fresh : table.define? symbol = some next) :
    Known program next := SymbolTable.Holds.define known fresh (.inl declares)

/-- An expression that is well typed in a scope of a program. -/
def Occurs (program : Lag.Program Mark) (expr : Expr Mark) : Prop :=
  ∃ table type, Known program table ∧ HasType table expr type

mutual

/-- The parts of a well typed expression are well typed. -/
theorem HasType.parts {table : SymbolTable} : ∀ {expr : Expr Mark} {type : Ty},
    HasType table expr type → ∀ part ∈ expr.parts, ∃ partType, HasType table part partType
  | .literal _ _ _, _, typed => fun part inside => List.mem_singleton.1 inside ▸ ⟨_, typed⟩
  | .read _, _, typed => fun part inside => List.mem_singleton.1 inside ▸ ⟨_, typed⟩
  | .unary _ _ operand, _, typed => by
    intro part inside
    rcases List.mem_cons.1 inside with rfl | inner
    · exact ⟨_, typed⟩
    · cases typed with
      | not _ truth _ => exact truth.parts part inner
      | negate _ _ number _ => exact number.parts part inner
  | .binary _ _ left right, _, typed => by
    intro part inside
    rcases List.mem_cons.1 inside with rfl | inner
    · exact ⟨_, typed⟩
    · cases typed with
      | binary _ leftTyped _ rightTyped _ _ =>
        rcases List.mem_append.1 inner with first | second
        · exact leftTyped.parts part first
        · exact rightTyped.parts part second
  | .call _ _ arguments, _, typed => by
    intro part inside
    rcases List.mem_cons.1 inside with rfl | inner
    · exact ⟨_, typed⟩
    · cases typed with
      | call _ _ _ _ fits => exact fits.parts part inner

/-- The parts of arguments are well typed. -/
theorem Arguments.parts {table : SymbolTable} : ∀ {exprs : List (Expr Mark)}
    {params : List (String × Ty)}, Arguments table params exprs →
      ∀ part ∈ Expr.allParts exprs, ∃ partType, HasType table part partType
  | [], _, _ => fun _ inside => nomatch inside
  | _ :: _, _, .cons fits others => by
    intro part inside
    obtain ⟨_, typed⟩ := fits.typed
    rcases List.mem_append.1 inside with first | later
    · exact typed.parts part first
    · exact others.parts part later

end

/-- The parts of a well typed expression occur. -/
theorem HasType.occurs {table : SymbolTable} (known : Known program table) {expr : Expr Mark}
    {type : Ty} (typed : HasType table expr type) : ∀ part ∈ expr.parts, Occurs program part := by
  intro part inside
  obtain ⟨partType, partTyped⟩ := typed.parts part inside
  exact ⟨table, partType, known, partTyped⟩

/-- The parts of an expression that fits a place occur. -/
theorem Fits.occurs {table : SymbolTable} (known : Known program table) {expr : Expr Mark}
    {place : Ty} (fits : Fits table place expr) : ∀ part ∈ expr.parts, Occurs program part := by
  obtain ⟨_, typed⟩ := fits.typed
  exact typed.occurs known

/-- The expressions of a declaration of a variable occur, and its symbol is known after it. -/
theorem Declares.occurs {inModule : Bool} {table next : SymbolTable} {binding : Binding Mark}
    (declares : Declares inModule table binding next) (known : Known program table)
    (inside : ∀ symbol ∈ binding.note.symbol, symbol ∈ symbolsOf program) :
    Known program next ∧ ∀ expr ∈ binding.value.parts, Occurs program expr := by
  obtain ⟨_, _, fits, bound, fresh⟩ := declares
  have declares := inside _ bound
  exact ⟨known.define ⟨declares, by simp [variableSymbol]⟩ fresh, fits.occurs known⟩

mutual

/-- The expressions of a well typed statement occur, and the scope after it is known. -/
theorem Follows.occurs {result : Ty} : ∀ {stmt : Stmt Mark} {table next : SymbolTable},
    Follows result table stmt next → Known program table →
      (∀ symbol ∈ declared stmt, symbol ∈ symbolsOf program) →
        Known program next ∧ ∀ expr ∈ stmt.exprs, Occurs program expr
  | .declare binding, _, _, .declare declares, known, inside =>
    declares.occurs known fun _ noted => inside _ (Option.mem_toList.2 noted)
  | .assign _ _ _, _, _, .assign _ _ _ _ _ fits, known, _ => ⟨known, fits.occurs known⟩
  | .leave _ none, _, _, .leaveNothing _, known, _ => ⟨known, fun _ inside => nomatch inside⟩
  | .leave _ (some _), _, _, .leave _ fits, known, _ => ⟨known, fits.occurs known⟩
  | .evaluate _ _, _, _, .evaluate typed _, known, _ => ⟨known, typed.occurs known⟩
  | .block _ _, _, _, .block body, known, inside =>
    ⟨known, body.occurs (known.push "block") inside⟩
  | .ifThen _ _ _ _, _, _, .ifThen truth _ body, known, inside => by
    refine ⟨known, fun expr member => ?_⟩
    rcases List.mem_append.1 member with test | later
    · exact truth.occurs known expr test
    · exact body.occurs (known.push "block") inside expr later
  | .ifElse _ _ _ body otherwise, _, _, .ifElse truth _ typed _ other, known, inside => by
    have first : ∀ symbol ∈ declaredAll body, symbol ∈ symbolsOf program :=
      fun symbol member => inside symbol (List.mem_append_left _ member)
    have second : ∀ symbol ∈ declared otherwise, symbol ∈ symbolsOf program :=
      fun symbol member => inside symbol (List.mem_append_right _ member)
    refine ⟨known, fun expr member => ?_⟩
    rcases List.mem_append.1 member with before | last
    · rcases List.mem_append.1 before with test | later
      · exact truth.occurs known expr test
      · exact typed.occurs (known.push "block") first expr later
    · exact (other.occurs known second).2 expr last
  | .whileLoop _ _ _ _, _, _, .whileLoop truth _ body, known, inside => by
    refine ⟨known, fun expr member => ?_⟩
    rcases List.mem_append.1 member with test | later
    · exact truth.occurs known expr test
    · exact body.occurs (known.push "block") inside expr later
  | .forLoop mark counter _ _ _ body, _, _,
      .forLoop firstTyped _ boundTyped _ noted fresh typed, known, inside => by
    rw [declared, noted] at inside
    have counts : Declared program (counterSymbol mark counter) :=
      ⟨inside _ List.mem_cons_self, by simp [counterSymbol]⟩
    have later : ∀ symbol ∈ declaredAll body, symbol ∈ symbolsOf program :=
      fun symbol member => inside symbol (List.mem_cons_of_mem _ member)
    refine ⟨known, fun expr member => ?_⟩
    rcases List.mem_append.1 member with before | last
    · rcases List.mem_append.1 before with first | second
      · exact firstTyped.occurs known expr first
      · exact boundTyped.occurs known expr second
    · exact typed.occurs (((known.push "for").define counts fresh).push "block") later expr last

/-- The expressions of well typed statements occur. -/
theorem Body.occurs {result : Ty} : ∀ {body : List (Stmt Mark)} {table : SymbolTable},
    Body result table body → Known program table →
      (∀ symbol ∈ declaredAll body, symbol ∈ symbolsOf program) →
        ∀ expr ∈ Stmt.allExprs body, Occurs program expr
  | [], _, _, _, _ => fun _ inside => nomatch inside
  | stmt :: rest, _, .cons first others, known, inside => by
    have here : ∀ symbol ∈ declared stmt, symbol ∈ symbolsOf program :=
      fun symbol member => inside symbol (List.mem_append_left _ member)
    have later : ∀ symbol ∈ declaredAll rest, symbol ∈ symbolsOf program :=
      fun symbol member => inside symbol (List.mem_append_right _ member)
    obtain ⟨after, occurs⟩ := first.occurs known here
    intro expr member
    rcases List.mem_append.1 member with now | next
    · exact occurs expr now
    · exact others.occurs after later expr next

end

/-- Parameters are known after they are taken up. -/
theorem Params.known {table next : SymbolTable} {params : List (Param Mark)}
    (takes : Params table params next) (known : Known program table)
    (inside : ∀ symbol ∈ params.flatMap (·.note.symbol.toList), symbol ∈ symbolsOf program) :
    Known program next := by
  induction takes with
  | nil => exact known
  | cons _ bound fresh _ ih =>
    rw [List.flatMap_cons, bound] at inside
    have takes : Declared program (paramSymbol _) :=
      ⟨inside _ List.mem_cons_self, by simp [paramSymbol]⟩
    exact ih (known.define takes fresh) fun symbol member =>
      inside symbol (List.mem_cons_of_mem _ member)

/-- The expressions of a well typed function occur. -/
theorem Defines.occurs {table : SymbolTable} {function : Function Mark}
    (defines : Defines table function) (known : Known program table)
    (inside : ∀ symbol ∈ declaredIn function, symbol ∈ symbolsOf program) :
    ∀ expr ∈ Stmt.allExprs function.body, Occurs program expr := by
  obtain ⟨_, _, params, body, _⟩ := defines
  have takes := params.known (known.push _) fun symbol member =>
    inside symbol (List.mem_append_left _ member)
  exact body.occurs (takes.push "block") fun symbol member =>
    inside symbol (List.mem_append_right _ member)

/-- The scopes of the module hold nothing but the built-in functions and what the declarations of
the module introduce. -/
theorem Within.holds {table : SymbolTable} (within : Within program table)
    (typed : Program program) : table.Holds fun symbol =>
      (symbol ∈ program.declarations.flatMap declaredBy ∧ symbol.kind ≠ .builtin) ∨
        ∃ builtin : Builtin, symbol = builtin.symbol := by
  intro scope inside symbol member
  rcases List.mem_cons.1 inside with rfl | outer
  · rcases within.symbols symbol member with ⟨function, isFunction, rfl⟩ | isVariable
    · exact .inl ⟨typed.function_declared isFunction, by simp [functionSymbol]⟩
    · refine .inl ⟨Laid.variable_declared isVariable, ?_⟩
      obtain ⟨binding, isBinding, noted⟩ := List.mem_flatMap.1 isVariable
      obtain ⟨_, _, _, _, _, _, bound, _⟩ := typed.declares isBinding
      rw [bound] at noted
      rw [List.mem_singleton.1 noted]
      simp [variableSymbol]
  · rw [within.outer] at outer
    exact .inr (SymbolTable.holds_initial scope outer symbol member)

/-- The scopes of the module know nothing but the built-in functions and what the program
declares. -/
theorem Within.known {table : SymbolTable} (within : Within program table)
    (typed : Program program) : Known program table :=
  (within.holds typed).imp fun _ => Or.imp_left fun declared =>
    ⟨List.mem_append_left _ declared.1, declared.2⟩

/-- The symbols of a function are symbols of the program. -/
theorem symbolsOf_function {function : Function Mark} (inside : function ∈ program.functions) :
    ∀ symbol ∈ declaredIn function, symbol ∈ symbolsOf program := fun _ member =>
  List.mem_append_right _ (List.mem_flatMap.2 ⟨function, inside, member⟩)

/-- The symbol of a variable of the module is a symbol of the program. -/
theorem symbolsOf_binding {binding : Binding Mark} (inside : binding ∈ program.bindings) :
    ∀ symbol ∈ binding.note.symbol, symbol ∈ symbolsOf program := fun symbol noted => by
  have isVariable : symbol ∈ program.variables :=
    List.mem_flatMap.2 ⟨binding, inside, Option.mem_toList.2 noted⟩
  exact List.mem_append_left _ (Laid.variable_declared isVariable)

/-- The expressions of a well typed program occur. -/
theorem Program.occurs (typed : Program program) : ∀ expr ∈ program.exprs, Occurs program expr := by
  intro expr inside
  obtain ⟨declaration, isDeclared, part⟩ := List.mem_flatMap.1 inside
  cases declaration with
  | function function =>
    rw [← Program.mem_functions] at isDeclared
    obtain ⟨_, within, defines⟩ := typed.defines isDeclared
    exact defines.occurs (within.known typed) (symbolsOf_function isDeclared) expr part
  | binding binding =>
    rw [← Program.mem_bindings] at isDeclared
    obtain ⟨_, _, within, declares⟩ := typed.declares isDeclared
    exact (declares.occurs (within.known typed) (symbolsOf_binding isDeclared)).2 expr part

end Typing

end Lag
