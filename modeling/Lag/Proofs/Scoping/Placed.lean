import Lag.Proofs.Scoping.Related
import Mathlib.Data.List.Perm.Subperm

/-!
# Scopes inside a function

At every point of a function the scopes are those of the function and its blocks, inside the scope
of the module. The symbols of the inner scopes and those that are still to be declared are
different symbols of the function. So a name that is read stands for a symbol of the function or
for a variable of the module, and a name that is called for a function.
-/
namespace Lag

open Host (declared declaredAll declaredIn hostName)
open Typing (Follows Body Declares Params Defines Within functionSymbol variableSymbol)
open Scoped (symbolsIn)

variable {program : Lag.Program Mark}

namespace Typing

/-- A name that stands for a variable in the scope of a module is that of one of its variables. -/
theorem Within.variable {base : SymbolTable} (within : Within program base) {name : String}
    {symbol : Symbol} (found : base.lookup? name = some symbol)
    (readable : symbol.kind.isFunction = false) : symbol ∈ program.variables := by
  obtain ⟨_, scope, inside, member⟩ := SymbolTable.mem_of_findIn? found
  rcases List.mem_cons.1 inside with rfl | outer
  · rcases within.symbols symbol member with ⟨function, _, rfl⟩ | isVariable
    · cases readable
    · exact isVariable
  · rw [within.outer] at outer
    obtain rfl := List.mem_singleton.1 outer
    obtain ⟨builtin, _, rfl⟩ := List.mem_map.1 member
    cases readable

/-- The symbols that a function declares are variables of its own. -/
structure Owned (symbol : Symbol) : Prop where
  /-- The symbol is not that of a function. -/
  plain : symbol.kind.isFunction = false
  /-- The symbol does not belong to the module. -/
  inside : symbol.inModule = false
  /-- The symbol has no signature. -/
  unsigned : symbol.signature = none

mutual

/-- A well typed statement declares variables of its function. -/
theorem Follows.owned {result : Ty} : ∀ {stmt : Stmt Mark} {table next : SymbolTable},
    Follows result table stmt next → ∀ symbol ∈ declared stmt, Owned symbol
  | .declare binding, _, _, .declare (.intro _ _ _ bound _) => by
    intro symbol inside
    rw [declared, bound] at inside
    obtain rfl := List.mem_singleton.1 inside
    exact ⟨rfl, rfl, rfl⟩
  | .assign _ _ _, _, _, _ | .leave _ _, _, _, _ | .evaluate _ _, _, _, _ =>
    fun _ inside => nomatch inside
  | .block _ body, _, _, .block inside => inside.owned
  | .ifThen _ _ _ body, _, _, .ifThen _ _ inside => inside.owned
  | .ifElse _ _ _ body otherwise, _, _, .ifElse _ _ inside _ other => by
    intro symbol member
    rcases List.mem_append.1 member with first | second
    · exact inside.owned symbol first
    · exact other.owned symbol second
  | .whileLoop _ _ _ body, _, _, .whileLoop _ _ inside => inside.owned
  | .forLoop mark _ _ _ _ body, _, _, .forLoop _ _ _ _ noted _ inside => by
    intro symbol member
    rw [declared, noted] at member
    rcases List.mem_cons.1 member with rfl | later
    · exact ⟨rfl, rfl, rfl⟩
    · exact inside.owned symbol later

/-- Well typed statements declare variables of their function. -/
theorem Body.owned {result : Ty} : ∀ {body : List (Stmt Mark)} {table : SymbolTable},
    Body result table body → ∀ symbol ∈ declaredAll body, Owned symbol
  | [], _, _ => fun _ inside => nomatch inside
  | _ :: _, _, .cons first others => by
    intro symbol member
    rcases List.mem_append.1 member with here | later
    · exact first.owned symbol here
    · exact others.owned symbol later

end

/-- The symbols of parameters are variables of the function. -/
theorem Params.owned {table next : SymbolTable} {params : List (Param Mark)}
    (takes : Params table params next) :
    ∀ symbol ∈ params.flatMap (·.note.symbol.toList), Owned symbol := by
  induction takes with
  | nil => simp
  | cons _ bound _ _ ih =>
    intro symbol inside
    rw [List.flatMap_cons, bound] at inside
    rcases List.mem_cons.1 inside with rfl | later
    · exact ⟨rfl, rfl, rfl⟩
    · exact ih symbol later

/-- A well typed function declares variables of its own. -/
theorem Defines.owned {table : SymbolTable} {function : Function Mark}
    (defines : Defines table function) : ∀ symbol ∈ declaredIn function, Owned symbol := by
  obtain ⟨_, _, params, inside, _⟩ := defines
  intro symbol member
  rcases List.mem_append.1 member with first | second
  · exact params.owned symbol first
  · exact inside.owned symbol second

end Typing

/-- The variables that declarations introduce have the symbols of their declarations. -/
theorem Typing.Declarations.noted {table : SymbolTable} {declarations : List (Declaration Mark)}
    (typed : Typing.Declarations table declarations) :
    ∀ binding ∈ bindingsOf declarations,
      ∃ type, binding.note.symbol = some (variableSymbol true binding type) := by
  induction typed with
  | nil => simp [bindingsOf]
  | function _ _ ih => exact ih
  | binding first _ ih =>
    obtain ⟨_, _, _, bound, _⟩ := first
    intro binding inside
    rcases List.mem_cons.1 inside with rfl | later
    · exact ⟨_, bound⟩
    · exact ih binding later

/-- A variable of a well typed module has the symbol of its declaration. -/
theorem Laid.noted (laid : Laid program) {binding : Binding Mark}
    (inside : binding ∈ program.bindings) :
    ∃ type, binding.note.symbol = some (variableSymbol true binding type) ∧
      variableSymbol true binding type ∈ program.variables := by
  obtain ⟨_, declared⟩ := laid.typed
  have noted := declared.noted
  rw [bindingsOf_declarations] at noted
  obtain ⟨type, bound⟩ := noted binding inside
  exact ⟨type, bound, List.mem_flatMap.2 ⟨binding, inside, by rw [bound]; simp⟩⟩

/-- The variables of a well typed module are those of its declarations. -/
theorem Laid.variable_is (laid : Laid program) {symbol : Symbol}
    (inside : symbol ∈ program.variables) :
    ∃ binding ∈ program.bindings, ∃ type, symbol = variableSymbol true binding type := by
  obtain ⟨binding, member, noted⟩ := List.mem_flatMap.1 inside
  obtain ⟨type, bound, _⟩ := laid.noted member
  rw [bound] at noted
  exact ⟨binding, member, type, List.mem_singleton.1 noted⟩

/-- A name that stands for something with a signature in the scope of a module is that of one of
its functions, or of a built-in function that no function of the module hides. -/
theorem Laid.callable (laid : Laid program) {base : SymbolTable} (within : Within program base)
    {name : String} {symbol : Symbol} (found : base.lookup? name = some symbol)
    {signature : Signature} (signed : symbol.signature = some signature) :
    (∃ function ∈ program.functions, symbol = functionSymbol function ∧ function.name = name) ∨
      ∃ builtin : Builtin, symbol = builtin.symbol ∧ builtin.name = name ∧
        ∀ function ∈ program.functions, function.name ≠ name := by
  have named := (SymbolTable.mem_of_findIn? found).1
  unfold SymbolTable.lookup? SymbolTable.findIn? at found
  cases here : base.scope.find? name with
  | some other =>
    rw [here] at found
    cases found
    rcases within.symbols symbol (List.mem_of_find?_eq_some here) with ⟨function, inside, rfl⟩ | known
    · exact .inl ⟨function, inside, rfl, named⟩
    · obtain ⟨_, _, _, rfl⟩ := laid.variable_is known
      cases signed
  | none =>
    rw [here, within.outer] at found
    obtain ⟨_, scope, inside, member⟩ := SymbolTable.mem_of_findIn? found
    obtain rfl := List.mem_singleton.1 inside
    obtain ⟨builtin, _, rfl⟩ := List.mem_map.1 member
    refine .inr ⟨builtin, rfl, named, fun function known same => ?_⟩
    have different := List.find?_eq_none.1 here _ (within.functions function known)
    simp [functionSymbol, same] at different

/-- A symbol that is declared is one of the innermost scope from then on. -/
theorem SymbolTable.scopes_define {table next : SymbolTable} {symbol : Symbol} {scope : Scope}
    {inner outer : List Scope} (parts : table.scopes = scope :: inner ++ outer)
    (fresh : table.define? symbol = some next) :
    next.scopes = ⟨scope.name, symbol :: scope.symbols⟩ :: inner ++ outer := by
  obtain ⟨_, rfl⟩ := SymbolTable.define?_eq_some_iff.1 fresh
  have whole : table.scope :: table.outer = scope :: (inner ++ outer) := parts
  obtain ⟨here, around⟩ := List.cons.inj whole
  rw [SymbolTable.scopes, around, here]
  rfl

/-- The scopes of a function inside the scope of the module. -/
structure Nested (base table : SymbolTable) (inner : List Scope) : Prop where
  /-- The inner scopes are inside those of the module. -/
  scopes : table.scopes = inner ++ base.scopes
  /-- Their symbols are variables of the function. -/
  owned : ∀ symbol ∈ symbolsIn inner, Typing.Owned symbol

namespace Nested

variable {base table : SymbolTable} {inner : List Scope}

/-- Outside functions there are no inner scopes. -/
theorem start (base : SymbolTable) : Nested base base [] :=
  ⟨rfl, fun _ inside => nomatch inside⟩

/-- A name is looked up in the inner scopes first. -/
theorem lookup? (nested : Nested base table inner) (name : String) :
    table.lookup? name = (SymbolTable.findIn? name inner).or (base.lookup? name) := by
  rw [SymbolTable.lookup?_eq, nested.scopes, SymbolTable.findIn?_append]
  rfl

/-- A name that is found in an inner scope stands for a variable of the function. -/
theorem owned_of_found (nested : Nested base table inner) {name : String} {symbol : Symbol}
    (found : SymbolTable.findIn? name inner = some symbol) : Typing.Owned symbol := by
  obtain ⟨_, scope, inside, member⟩ := SymbolTable.mem_of_findIn? found
  exact nested.owned symbol (List.mem_flatMap.2 ⟨scope, inside, member⟩)

/-- A variable that is looked up is one of the inner scopes, or one of the module that no inner
scope hides. -/
theorem reads (nested : Nested base table inner) (within : Within program base)
    {name : String} {symbol : Symbol} (found : table.lookup? name = some symbol)
    (readable : symbol.kind.isFunction = false) :
    SymbolTable.findIn? name inner = some symbol ∨
      (SymbolTable.findIn? name inner = none ∧ symbol ∈ program.variables ∧
        symbol.name = name) := by
  rw [nested.lookup?] at found
  cases here : SymbolTable.findIn? name inner with
  | some other =>
    rw [here, Option.some_or] at found
    exact .inl found
  | none =>
    rw [here, Option.none_or] at found
    exact .inr ⟨rfl, within.variable found readable, (SymbolTable.mem_of_findIn? found).1⟩

/-- What has a signature is a function of the module, or a built-in function that no function of
the module hides. -/
theorem calls (nested : Nested base table inner) (laid : Laid program)
    (within : Within program base) {name : String} {symbol : Symbol}
    (found : table.lookup? name = some symbol) {signature : Signature}
    (signed : symbol.signature = some signature) :
    (∃ function ∈ program.functions, symbol = functionSymbol function ∧ function.name = name) ∨
      ∃ builtin : Builtin, symbol = builtin.symbol ∧ builtin.name = name ∧
        ∀ function ∈ program.functions, function.name ≠ name := by
  rw [nested.lookup?] at found
  cases here : SymbolTable.findIn? name inner with
  | some other =>
    rw [here, Option.some_or, Option.some.injEq] at found
    subst found
    rw [(nested.owned_of_found here).unsigned] at signed
    cases signed
  | none =>
    rw [here, Option.none_or] at found
    exact laid.callable within found signed

/-- A new scope holds nothing. -/
theorem push (nested : Nested base table inner) (name : String) :
    Nested base (table.push name) (⟨name, []⟩ :: inner) := by
  refine ⟨?_, nested.owned⟩
  rw [SymbolTable.scopes_push, nested.scopes]
  rfl

/-- A variable of the function may be declared in the innermost scope. -/
theorem define {scope : Scope} {next : SymbolTable} {symbol : Symbol}
    (nested : Nested base table (scope :: inner)) (owned : Typing.Owned symbol)
    (fresh : table.define? symbol = some next) :
    Nested base next (⟨scope.name, symbol :: scope.symbols⟩ :: inner) := by
  refine ⟨SymbolTable.scopes_define nested.scopes fresh, fun other inside => ?_⟩
  rcases List.mem_cons.1 inside with rfl | before
  · exact owned
  · exact nested.owned other before

end Nested

/-- A point of a function: the scopes there, with the inner ones among them and the symbols that
are still to be declared, all of which are symbols of the function. -/
structure Placed (base : SymbolTable) (own : List Symbol) (table : SymbolTable)
    (inner : List Scope) (rest : List Symbol) : Prop where
  /-- The inner scopes are inside those of the module. -/
  scopes : table.scopes = inner ++ base.scopes
  /-- The symbols in scope and those to be declared are different symbols of the function. -/
  room : (symbolsIn inner ++ rest).Subperm own

namespace Placed

variable {base table : SymbolTable} {own rest : List Symbol} {inner : List Scope}

/-- A symbol of an inner scope is one of the function. -/
theorem own_of_found (placed : Placed base own table inner rest) {name : String} {symbol : Symbol}
    (found : SymbolTable.findIn? name inner = some symbol) : symbol ∈ own := by
  obtain ⟨_, scope, inside, member⟩ := SymbolTable.mem_of_findIn? found
  exact placed.room.subset (List.mem_append_left _ (List.mem_flatMap.2 ⟨scope, inside, member⟩))

/-- The scopes at a point of a function are inside the scope of the module. -/
theorem nested (placed : Placed base own table inner rest)
    (owned : ∀ symbol ∈ own, Typing.Owned symbol) : Nested base table inner :=
  ⟨placed.scopes, fun symbol inside =>
    owned symbol (placed.room.subset (List.mem_append_left _ inside))⟩

/-- Fewer symbols may be still to be declared. -/
theorem fewer (placed : Placed base own table inner rest) {others : List Symbol}
    (sublist : others.Sublist rest) : Placed base own table inner others :=
  ⟨placed.scopes, (List.Sublist.subperm (sublist.append_left _)).trans placed.room⟩

/-- A new scope holds nothing. -/
theorem push (placed : Placed base own table inner rest) (name : String) :
    Placed base own (table.push name) (⟨name, []⟩ :: inner) rest := by
  refine ⟨?_, placed.room⟩
  rw [SymbolTable.scopes_push, placed.scopes]
  rfl

/-- A symbol that is declared is one of the innermost scope from then on. -/
theorem define {scope : Scope} {next : SymbolTable} {symbol : Symbol}
    (placed : Placed base own table (scope :: inner) (symbol :: rest))
    (fresh : table.define? symbol = some next) :
    Placed base own next (⟨scope.name, symbol :: scope.symbols⟩ :: inner) rest := by
  refine ⟨SymbolTable.scopes_define placed.scopes fresh, ?_⟩
  refine List.Subperm.trans (List.Perm.subperm ?_) placed.room
  exact List.perm_middle.symm

/-- The symbols in scope have different host names. -/
theorem separate (placed : Placed base own table inner rest)
    (distinct : (own.map (hostName program)).Nodup) :
    ((symbolsIn inner ++ rest).map (hostName program)).Nodup := by
  obtain ⟨same, perm, sublist⟩ := placed.room
  have nodup := distinct.sublist (sublist.map (hostName program))
  exact (perm.map _).nodup_iff.1 nodup

end Placed

end Lag
