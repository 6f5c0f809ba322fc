import Lag.Host.Limit
import Lag.Proofs.Naming.Apart
import Lag.Proofs.Tree.Numbered
import Lag.Proofs.Typing.Proper
import Lag.Run.Machine
import Mathlib.Data.List.Nodup

/-!
# Where the names of a typed program stand

A well typed program declares its functions and variables under different names, every declaration
has a symbol with a number of its own, and the scope of a module holds nothing but its functions
and variables. So the host names of a program that the host tells apart belong to one declaration
each.
-/
namespace Lag

open Host (declared declaredAll declaredBy declaredIn symbolsOf hostName Apart)
open Typing (Follows Body Declares Params Defines Declarations Registers functionSymbol
  paramSymbol variableSymbol counterSymbol)

/-- The number of the declaration of a note. -/
def Mark.id (mark : Mark) : Nat := mark.node.id

/-- The symbols of the variables of a module, in order. -/
def Program.variables (program : Program Mark) : List Symbol :=
  program.bindings.flatMap (·.note.symbol.toList)

namespace Typing

mutual

/-- The symbols that a well typed statement declares have the numbers of their declarations. -/
theorem Follows.origins {result : Ty} : ∀ {stmt : Stmt Mark} {table next : SymbolTable},
    Follows result table stmt next →
      (declared stmt).map (·.origin) = (stmt.ids Mark.id).map some
  | .declare binding, _, _, .declare (.intro _ _ _ bound _) => by
    rw [declared, bound]
    rfl
  | .assign _ _ _, _, _, _ | .leave _ _, _, _, _ | .evaluate _ _, _, _, _ => rfl
  | .block _ body, _, _, .block inside => inside.origins
  | .ifThen _ _ _ body, _, _, .ifThen _ _ inside => inside.origins
  | .ifElse _ _ _ body otherwise, _, _, .ifElse _ _ inside _ other => by
    rw [declared, Stmt.ids, List.map_append, List.map_append, inside.origins, other.origins]
  | .whileLoop _ _ _ body, _, _, .whileLoop _ _ inside => inside.origins
  | .forLoop mark _ _ _ _ body, _, _, .forLoop _ _ _ _ noted _ inside => by
    rw [declared, noted, Stmt.ids, Option.toList_some, List.map_append, List.map_cons,
      inside.origins]
    rfl

/-- The symbols that well typed statements declare have the numbers of their declarations. -/
theorem Body.origins {result : Ty} : ∀ {body : List (Stmt Mark)} {table : SymbolTable},
    Body result table body →
      (declaredAll body).map (·.origin) = (Stmt.allIds Mark.id body).map some
  | [], _, _ => rfl
  | _ :: _, _, .cons first others => by
    rw [declaredAll, Stmt.allIds, List.map_append, List.map_append, first.origins, others.origins]

end

/-- The symbols of parameters have the numbers of the parameters. -/
theorem Params.origins {table next : SymbolTable} {params : List (Param Mark)}
    (takes : Params table params next) :
    (params.flatMap (·.note.symbol.toList)).map (·.origin) =
      (params.map fun param => param.note.id).map some := by
  induction takes with
  | nil => rfl
  | cons _ bound _ _ ih =>
    rw [List.flatMap_cons, bound, List.map_append, ih]
    rfl

/-- The symbols of a well typed function have the numbers of its declarations. -/
theorem Defines.origins {table : SymbolTable} {function : Function Mark}
    (defines : Defines table function) :
    (function.note.symbol.toList ++ declaredIn function).map (·.origin) =
      (function.ids Mark.id).map some := by
  obtain ⟨bound, _, params, inside, _⟩ := defines
  rw [declaredIn, bound, List.map_append, List.map_append, params.origins, inside.origins,
    Function.ids, List.map_append, List.map_cons]
  rfl

/-- The symbols of well typed declarations have the numbers of the declarations. -/
theorem Declarations.origins {table : SymbolTable} {declarations : List (Declaration Mark)}
    (typed : Declarations table declarations) :
    ((declarations.flatMap declaredBy ++ (functionsOf declarations).flatMap declaredIn).map
      (·.origin)).Perm ((declarations.flatMap (Declaration.ids Mark.id)).map some) := by
  induction typed with
  | nil => exact .nil
  | @function table declared rest first _ ih =>
    rw [List.flatMap_cons, List.flatMap_cons, functionsOf, List.flatMap_cons, Declaration.ids,
      @List.map_append _ _ some, ← first.origins]
    -- The symbols of the function come together when those of the rest step back.
    have moved : (declaredBy (.function declared) ++ rest.flatMap declaredBy ++
        (declaredIn declared ++ (functionsOf rest).flatMap declaredIn)).Perm
        (declared.note.symbol.toList ++ declaredIn declared ++
          (rest.flatMap declaredBy ++ (functionsOf rest).flatMap declaredIn)) := by
      rw [List.append_assoc, List.append_assoc]
      refine List.Perm.append_left _ ?_
      rw [← List.append_assoc, ← List.append_assoc]
      exact List.perm_append_comm.append_right _
    refine (moved.map _).trans ?_
    rw [List.map_append]
    exact ih.append_left _
  | @binding table next declared rest first _ ih =>
    obtain ⟨_, _, _, bound, _⟩ := first
    rw [List.flatMap_cons, List.flatMap_cons, functionsOf, declaredBy, bound, Declaration.ids,
      List.append_assoc, List.map_append, @List.map_append _ _ some]
    exact ih.append_left _

/-- The symbols of a well typed program have the numbers of its declarations. -/
theorem Program.origins {program : Lag.Program Mark} (typed : Program program) :
    ((symbolsOf program).map (·.origin)).Perm ((program.ids Mark.id).map some) := by
  obtain ⟨_, declared⟩ := typed
  have origins := declared.origins
  rwa [functionsOf_declarations] at origins

/-- The symbols of a well typed program have different numbers if its declarations do. -/
theorem Program.nodup_origins {program : Lag.Program Mark} (typed : Program program)
    (numbered : (program.ids Mark.id).Pairwise (· < ·)) :
    ((symbolsOf program).map (·.origin)).Nodup := by
  have ids : (program.ids Mark.id).Nodup := numbered.imp Nat.ne_of_lt
  exact typed.origins.nodup_iff.2 (ids.map fun _ _ => Option.some.inj)

/-- Every symbol of a well typed program has a number. -/
theorem Program.isSome_origin {program : Lag.Program Mark} (typed : Program program) {symbol : Symbol}
    (inside : symbol ∈ symbolsOf program) : ∃ origin, symbol.origin = some origin := by
  have listed := typed.origins.subset (List.mem_map_of_mem inside)
  obtain ⟨origin, _, same⟩ := List.mem_map.1 listed
  exact ⟨origin, same.symm⟩

/-- The scope of a module, with some of its functions and variables, inside the scope of the
built-in functions. -/
structure Within (program : Lag.Program Mark) (table : SymbolTable) : Prop where
  /-- The built-in functions are around the module. -/
  outer : table.outer = SymbolTable.initial.scopes
  /-- A symbol of the module is that of a function or of a variable. -/
  symbols : ∀ symbol ∈ table.scope.symbols,
    (∃ function ∈ program.functions, symbol = functionSymbol function) ∨
      symbol ∈ program.variables
  /-- All functions are known. -/
  functions : ∀ function ∈ program.functions, functionSymbol function ∈ table.scope.symbols
  /-- The symbols are proper. -/
  proper : table.Proper

/-- A name that a scope has room for is that of no symbol in it. -/
theorem name_ne_of_define? {table next : SymbolTable} {symbol : Symbol}
    (fresh : table.define? symbol = some next) :
    ∀ other ∈ table.scope.symbols, other.name ≠ symbol.name := by
  intro other inside same
  have missing := (SymbolTable.define?_eq_some_iff.1 fresh).1
  have different := List.find?_eq_none.1 missing other inside
  simp [same] at different

/-- A scope takes up symbols of different names, which are new. -/
theorem Registers.names {table next : SymbolTable} {symbols : List Symbol}
    (registers : Registers table symbols next) :
    next.outer = table.outer ∧ next.scope.symbols = symbols.reverse ++ table.scope.symbols ∧
      symbols.Pairwise (·.name ≠ ·.name) ∧
        ∀ symbol ∈ symbols, ∀ other ∈ table.scope.symbols, other.name ≠ symbol.name := by
  induction registers with
  | nil => exact ⟨rfl, rfl, .nil, by simp⟩
  | @cons table next last symbol rest fresh _ ih =>
    obtain ⟨outer, scope, distinct, others⟩ := ih
    obtain ⟨_, rfl⟩ := SymbolTable.define?_eq_some_iff.1 fresh
    refine ⟨outer, ?_, List.pairwise_cons.2 ⟨fun other inside => ?_, distinct⟩,
      fun other inside => ?_⟩
    · rw [scope, List.reverse_cons, List.append_assoc]
      rfl
    · exact others other inside symbol List.mem_cons_self
    · rcases List.mem_cons.1 inside with rfl | later
      · exact name_ne_of_define? fresh
      · exact fun before member => others other later before (List.mem_cons_of_mem _ member)

/-- The functions of a well typed program have different names. -/
theorem Program.functions_names {program : Lag.Program Mark} (typed : Program program) :
    program.functions.Pairwise (·.name ≠ ·.name) := by
  obtain ⟨registered, _⟩ := typed
  have names := List.pairwise_map.1 registered.names.2.2.1
  exact names

/-- Declared variables have different names, which are new. -/
theorem Declarations.names {table : SymbolTable} {declarations : List (Declaration Mark)}
    (typed : Declarations table declarations) :
    ((bindingsOf declarations).flatMap (·.note.symbol.toList)).Pairwise (·.name ≠ ·.name) ∧
      ∀ symbol ∈ (bindingsOf declarations).flatMap (·.note.symbol.toList),
        ∀ other ∈ table.scope.symbols, other.name ≠ symbol.name := by
  induction typed with
  | nil => exact ⟨.nil, by simp [bindingsOf]⟩
  | function _ _ ih => exact ih
  | @binding table next declared rest first _ ih =>
    obtain ⟨distinct, others⟩ := ih
    obtain ⟨_, _, _, bound, fresh⟩ := first
    obtain ⟨_, rfl⟩ := SymbolTable.define?_eq_some_iff.1 fresh
    rw [bindingsOf, List.flatMap_cons, bound]
    refine ⟨List.pairwise_cons.2 ⟨fun other inside => ?_, distinct⟩, fun other inside => ?_⟩
    · exact others other inside _ List.mem_cons_self
    · rcases List.mem_cons.1 inside with rfl | later
      · exact name_ne_of_define? fresh
      · exact fun before member => others other later before (List.mem_cons_of_mem _ member)

/-- The variables of a well typed program have different names. -/
theorem Program.variables_names {program : Lag.Program Mark} (typed : Program program) :
    program.variables.Pairwise (·.name ≠ ·.name) := by
  obtain ⟨_, declared⟩ := typed
  have names := declared.names.1
  rwa [bindingsOf_declarations] at names

/-- Parameters that a scope takes up hold values. -/
theorem Params.isValue {table next : SymbolTable} {params : List (Param Mark)}
    (takes : Params table params next) : ∀ param ∈ params, param.type.type.isValue = true := by
  induction takes with
  | nil => simp
  | cons value _ _ _ ih =>
    intro param inside
    rcases List.mem_cons.1 inside with rfl | later
    · exact value
    · exact ih param later

/-- The signature of a well typed function is proper. -/
theorem Defines.proper {table : SymbolTable} {function : Function Mark}
    (defines : Defines table function) : function.signature.Proper := by
  obtain ⟨_, result, takes, _, _⟩ := defines
  refine ⟨fun param inside => ?_, result⟩
  obtain ⟨written, member, rfl⟩ := List.mem_map.1 inside
  exact .inl (takes.isValue written member)

/-- The scope after a variable of a program is declared is that of a module. -/
theorem Within.declares {program : Lag.Program Mark} {table next : SymbolTable}
    (within : Within program table) {binding : Binding Mark} (inside : binding ∈ program.bindings)
    (declares : Declares true table binding next) : Within program next := by
  have proper := declares.proper within.proper
  obtain ⟨_, _, _, bound, fresh⟩ := declares
  obtain ⟨_, rfl⟩ := SymbolTable.define?_eq_some_iff.1 fresh
  refine ⟨within.outer, fun symbol member => ?_,
    fun function known => List.mem_cons_of_mem _ (within.functions function known), proper⟩
  rcases List.mem_cons.1 member with rfl | before
  · exact .inr (List.mem_flatMap.2 ⟨binding, inside, by rw [bound]; simp⟩)
  · exact within.symbols symbol before

/-- The functions among declarations are well typed in scopes. -/
theorem Declarations.defines {table : SymbolTable} {declarations : List (Declaration Mark)}
    (typed : Declarations table declarations) :
    ∀ function ∈ functionsOf declarations, ∃ around, Defines around function := by
  induction typed with
  | nil => simp [functionsOf]
  | function first _ ih =>
    intro function inside
    rcases List.mem_cons.1 inside with rfl | later
    · exact ⟨_, first⟩
    · exact ih function later
  | binding _ _ ih => exact ih

/-- The functions among declarations of a program are well typed in scopes of the module. -/
theorem Declarations.defines_within {program : Lag.Program Mark} {table : SymbolTable}
    {declarations : List (Declaration Mark)} (typed : Declarations table declarations)
    (part : ∀ binding ∈ bindingsOf declarations, binding ∈ program.bindings)
    (within : Within program table) :
    ∀ function ∈ functionsOf declarations,
      ∃ around, Within program around ∧ Defines around function := by
  induction typed with
  | nil => simp [functionsOf]
  | function first _ ih =>
    intro function inside
    rcases List.mem_cons.1 inside with rfl | later
    · exact ⟨_, within, first⟩
    · exact ih part within function later
  | binding first _ ih =>
    exact ih (fun binding inside => part binding (List.mem_cons_of_mem _ inside))
      (within.declares (part _ List.mem_cons_self) first)

/-- The variables among declarations of a program are well typed in scopes of the module. -/
theorem Declarations.declares_within {program : Lag.Program Mark} {table : SymbolTable}
    {declarations : List (Declaration Mark)} (typed : Declarations table declarations)
    (part : ∀ binding ∈ bindingsOf declarations, binding ∈ program.bindings)
    (within : Within program table) :
    ∀ binding ∈ bindingsOf declarations,
      ∃ around next, Within program around ∧ Declares true around binding next := by
  induction typed with
  | nil => simp [bindingsOf]
  | function _ _ ih => exact ih part within
  | binding first _ ih =>
    intro binding inside
    rcases List.mem_cons.1 inside with rfl | later
    · exact ⟨_, _, within, first⟩
    · exact ih (fun other inside => part other (List.mem_cons_of_mem _ inside))
        (within.declares (part _ List.mem_cons_self) first) binding later

/-- The declarations of a well typed program are well typed from a scope of the module on. -/
theorem Program.within {program : Lag.Program Mark} (typed : Program program) :
    ∃ table, Within program table ∧ Declarations table program.declarations := by
  obtain ⟨registered, declared⟩ := typed
  obtain ⟨outer, symbols, _, _⟩ := registered.names
  refine ⟨_, ⟨outer, fun symbol inside => ?_, fun function inside => ?_,
    registered.proper (fun symbol inside => ?_) ?_⟩, declared⟩
  · rw [symbols] at inside
    rcases List.mem_append.1 inside with registered | none
    · obtain ⟨function, member, rfl⟩ := List.mem_map.1 (List.mem_reverse.1 registered)
      exact .inl ⟨function, member, rfl⟩
    · cases none
  · rw [symbols]
    exact List.mem_append_left _ (List.mem_reverse.2 (List.mem_map_of_mem inside))
  · obtain ⟨function, member, rfl⟩ := List.mem_map.1 inside
    rw [← functionsOf_declarations] at member
    obtain ⟨_, defines⟩ := declared.defines function member
    exact proper_functionSymbol defines.proper
  · exact SymbolTable.proper_initial.push _

/-- Every function of a well typed program is well typed in a scope of the module. -/
theorem Program.defines {program : Lag.Program Mark} (typed : Program program)
    {function : Function Mark} (inside : function ∈ program.functions) :
    ∃ around, Within program around ∧ Defines around function := by
  obtain ⟨table, within, declared⟩ := typed.within
  refine declared.defines_within (fun binding member => ?_) within function ?_
  · rwa [bindingsOf_declarations] at member
  · rwa [functionsOf_declarations]

/-- Every variable of a well typed program is well typed in a scope of the module. -/
theorem Program.declares {program : Lag.Program Mark} (typed : Program program)
    {binding : Binding Mark} (inside : binding ∈ program.bindings) :
    ∃ around next, Within program around ∧ Declares true around binding next := by
  obtain ⟨table, within, declared⟩ := typed.within
  refine declared.declares_within (fun other member => ?_) within binding ?_
  · rwa [bindingsOf_declarations] at member
  · rwa [bindingsOf_declarations]

/-- A function of a well typed program is declared by the module. -/
theorem Program.function_declared {program : Lag.Program Mark} (typed : Program program)
    {function : Function Mark} (inside : function ∈ program.functions) :
    functionSymbol function ∈ program.declarations.flatMap declaredBy := by
  obtain ⟨_, _, bound, _⟩ := typed.defines inside
  rw [← functionsOf_declarations] at inside
  refine List.mem_flatMap.2 ⟨_, mem_functionsOf.1 inside, ?_⟩
  rw [declaredBy, bound]
  exact List.mem_singleton.2 rfl

end Typing

/-- A well typed program whose symbols have host names of their own. -/
structure Laid (program : Program Mark) : Prop where
  /-- The program is well typed. -/
  typed : Typing.Program program
  /-- Its symbols have different host names. -/
  separate : ((symbolsOf program).map (hostName program)).Nodup
  /-- No symbol has a name that stands for something else. -/
  unused : ∀ symbol ∈ symbolsOf program, Host.meaning? (hostName program symbol) = none

/-- A well typed program that the host tells apart is laid out. -/
theorem Laid.of_apart {program : Program Mark} (typed : Typing.Program program)
    (numbered : (program.ids Mark.id).Pairwise (· < ·)) (apart : Apart program) : Laid program := by
  refine ⟨typed, ?_, apart.unused⟩
  have origins := typed.nodup_origins numbered
  refine List.pairwise_map.2 ((List.pairwise_map.1 origins).imp_of_mem ?_)
  intro first second firstInside secondInside different same
  exact different (apart.distinct first firstInside second secondInside same)

namespace Laid

variable {program : Program Mark}

/-- A symbol with the host name of another is that symbol. -/
theorem symbol_eq (laid : Laid program) {first second : Symbol}
    (firstInside : first ∈ symbolsOf program) (secondInside : second ∈ symbolsOf program)
    (same : hostName program first = hostName program second) : first = second :=
  List.inj_on_of_nodup_map laid.separate firstInside secondInside same

/-- The symbols of a module and those of its functions. -/
theorem mem_symbolsOf {symbol : Symbol} : symbol ∈ symbolsOf program ↔
    symbol ∈ program.declarations.flatMap declaredBy ∨
      ∃ function ∈ program.functions, symbol ∈ declaredIn function := by
  rw [symbolsOf, List.mem_append, @List.mem_flatMap _ _ _ _ program.functions]

/-- A variable of a module is declared by it. -/
theorem variable_declared {symbol : Symbol} (inside : symbol ∈ program.variables) :
    symbol ∈ program.declarations.flatMap declaredBy := by
  obtain ⟨binding, member, noted⟩ := List.mem_flatMap.1 inside
  rw [← bindingsOf_declarations] at member
  exact List.mem_flatMap.2 ⟨_, mem_bindingsOf.1 member, noted⟩

/-- A symbol of a module has another host name than a symbol of a function. -/
theorem host_ne (laid : Laid program) {function : Function Mark} {first second : Symbol}
    (firstInside : first ∈ program.declarations.flatMap declaredBy)
    (inside : function ∈ program.functions) (secondInside : second ∈ declaredIn function) :
    hostName program first ≠ hostName program second := by
  have separate := laid.separate
  rw [symbolsOf, List.map_append] at separate
  have disjoint := (List.nodup_append.1 separate).2.2
  refine disjoint _ (List.mem_map_of_mem firstInside) _ (List.mem_map_of_mem ?_)
  exact List.mem_flatMap.2 ⟨function, inside, secondInside⟩

/-- The symbols of a function have different host names. -/
theorem separate_locals (laid : Laid program) {function : Function Mark}
    (inside : function ∈ program.functions) :
    ((declaredIn function).map (hostName program)).Nodup := by
  have separate := laid.separate
  rw [symbolsOf, List.map_append] at separate
  have functions := (List.nodup_append.1 separate).2.1
  refine functions.sublist (List.Sublist.map _ ?_)
  rw [List.flatMap_def]
  exact List.sublist_flatten_of_mem (List.mem_map_of_mem inside)

end Laid

/-- The function of the host for a function. -/
def hostFunction (program : Program Mark) (function : Function Mark) : Host.Function :=
  (function.lower (Host.Names.ofProgram program)).link

/-- The module of the host for a program. -/
def hostModule (title : String) (program : Program Mark) : Host.Module :=
  (program.lowerAs title).link

/-- The functions of the module of the host. -/
theorem functions_hostModule (title : String) (program : Program Mark) :
    (hostModule title program).functions =
      program.functions.map fun function => (function.name, hostFunction program function) := by
  simp only [hostModule, Host.Module.link, Program.lowerAs, List.map_map]
  rfl

namespace Run

/-- A name that no function has is that of none. -/
theorem lastPlace?_eq_none {name : String} {functions : List (String × Host.Function)}
    (other : ∀ entry ∈ functions, entry.2.name ≠ name) (place : Nat) :
    lastPlace? name place functions = none := by
  induction functions generalizing place with
  | nil => rfl
  | cons entry rest ih =>
    obtain ⟨exported, function⟩ := entry
    have different : (function.name == name) = false := by
      simpa using other _ List.mem_cons_self
    rw [lastPlace?, ih fun later inside => other later (List.mem_cons_of_mem _ inside), different]
    rfl

/-- A function is the last of its name if the functions have different names. -/
theorem lastPlace?_eq_some {functions : List (String × Host.Function)}
    (distinct : (functions.map (·.2.name)).Nodup) {index : Nat} {entry : String × Host.Function}
    (found : functions[index]? = some entry) (place : Nat) :
    lastPlace? entry.2.name place functions = some (place + index) := by
  induction functions generalizing index place with
  | nil => cases found
  | cons first rest ih =>
    obtain ⟨exported, function⟩ := first
    rw [List.map_cons, List.nodup_cons] at distinct
    cases index with
    | zero =>
      obtain rfl : (exported, function) = entry := by simpa using found
      have others : ∀ later ∈ rest, later.2.name ≠ function.name :=
        fun later inside same => distinct.1 (same ▸ List.mem_map_of_mem inside)
      have none := lastPlace?_eq_none others (place + 1)
      rw [lastPlace?, none, beq_self_eq_true]
      rfl
    | succ index =>
      rw [List.getElem?_cons_succ] at found
      rw [lastPlace?, ih distinct.2 found (place + 1)]
      show some (place + 1 + index) = some (place + (index + 1))
      rw [Nat.add_assoc, Nat.add_comm 1]

end Run

end Lag
