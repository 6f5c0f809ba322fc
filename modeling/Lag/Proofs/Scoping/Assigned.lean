import Lag.Proofs.Scoping.Placed
import Lag.Proofs.Tree.Regular

/-!
# The local names of a function of the host

The statements of a function assign to its own variables and, where it says so, to variables of
the module. So the local names of the function of the host are the host names of the symbols that
the function declares.
-/
namespace Lag

open Host (declared declaredAll declaredIn hostName)
open Run (assignedNames assignedNamesAll localNames)
open Typing (Follows Body Declares Params Defines Within)

namespace Run

/-- Statements assign to the names that their parts assign to. -/
theorem assignedNamesAll_append (first second : List Host.Stmt) :
    assignedNamesAll (first ++ second) = assignedNamesAll first ++ assignedNamesAll second := by
  induction first with
  | nil => rfl
  | cons stmt rest ih =>
    rw [List.cons_append, assignedNamesAll, assignedNamesAll, ih, List.append_assoc]

/-- A single statement assigns to its names. -/
theorem assignedNamesAll_singleton (stmt : Host.Stmt) :
    assignedNamesAll [stmt] = assignedNames stmt := List.append_nil _

end Run

/-- Statements are linked one by one. -/
theorem Host.Stmt.linkAll_append (first second : List Host.Stmt) :
    Host.Stmt.linkAll (first ++ second) = Host.Stmt.linkAll first ++ Host.Stmt.linkAll second := by
  induction first with
  | nil => rfl
  | cons stmt rest ih => rw [List.cons_append, linkAll, linkAll, ih, List.cons_append]

/-- The statements of the host for a statement, as the host runs them. -/
def Stmt.hosted (program : Program Mark) (stmt : Stmt Mark) : List Host.Stmt :=
  Host.Stmt.linkAll (stmt.lower (Host.Names.ofProgram program))

/-- The statements of the host for statements, as the host runs them. -/
def Stmt.hostedAll (program : Program Mark) (body : List (Stmt Mark)) : List Host.Stmt :=
  Host.Stmt.linkAll (Stmt.lowerAll (Host.Names.ofProgram program) body)

/-- The expression of the host for an expression, as the host runs it. -/
def Expr.hosted (program : Program Mark) (expr : Expr Mark) : Host.Expr :=
  (expr.lower (Host.Names.ofProgram program)).link

/-- The expressions of the host for expressions, as the host runs them. -/
def Expr.hostedAll (program : Program Mark) (exprs : List (Expr Mark)) : List Host.Expr :=
  Host.Expr.linkAll (Expr.lowerAll (Host.Names.ofProgram program) exprs)

section

variable {program : Lag.Program Mark}

/-- A name with a symbol becomes the host name of the symbol. -/
theorem foldText_lower {mark : Mark} {symbol : Symbol} (bound : mark.symbol = some symbol)
    (name : String) :
    Text.foldText (Ident.lower (Host.Names.ofProgram program) ⟨mark, name⟩) =
      hostName program symbol := by
  rw [Ident.lower, bound]
  rfl

/-- The statements of the host for statements are those for each of them. -/
theorem Stmt.hostedAll_cons (stmt : Stmt Mark) (rest : List (Stmt Mark)) :
    Stmt.hostedAll program (stmt :: rest) =
      stmt.hosted program ++ Stmt.hostedAll program rest := by
  rw [Stmt.hostedAll, Stmt.lowerAll, Host.Stmt.linkAll_append]
  rfl

/-- What happens when a test fails becomes statements, or a single statement. -/
theorem Stmt.hosted_ifElse {mark bodyMark : Mark} {test : Expr Mark} {body : List (Stmt Mark)}
    {otherwise : Stmt Mark} (branch : otherwise.isBranch = true) :
    (Stmt.ifElse mark test bodyMark body otherwise).hosted program =
        [.ifElse (test.hosted program) (Stmt.hostedAll program body) (otherwise.hosted program)] ∨
      ∃ next, otherwise.hosted program = [next] ∧
        (Stmt.ifElse mark test bodyMark body otherwise).hosted program =
          [.ifElif (test.hosted program) (Stmt.hostedAll program body) next] := by
  rcases Stmt.lower_ifElse (Host.Names.ofProgram program) branch mark bodyMark test body with
    ⟨_, _, rfl⟩ | ⟨next, single, chained⟩
  · exact .inl rfl
  · refine .inr ⟨next.link, ?_, ?_⟩
    · rw [Stmt.hosted, single]
      rfl
    · rw [Stmt.hosted, chained]
      rfl

/-- A conditional assigns to the names of its parts. -/
theorem Stmt.assigned_ifElse {mark bodyMark : Mark} {test : Expr Mark} {body : List (Stmt Mark)}
    {otherwise : Stmt Mark} (branch : otherwise.isBranch = true) :
    assignedNamesAll ((Stmt.ifElse mark test bodyMark body otherwise).hosted program) =
      assignedNamesAll (Stmt.hostedAll program body) ++
        assignedNamesAll (otherwise.hosted program) := by
  have shapes := @Stmt.hosted_ifElse program mark bodyMark test body otherwise branch
  rcases shapes with shape | ⟨next, single, shape⟩
  · rw [shape, Run.assignedNamesAll_singleton, assignedNames]
  · rw [shape, single, Run.assignedNamesAll_singleton, Run.assignedNamesAll_singleton,
      assignedNames]

namespace Typing

mutual

/-- Every symbol that a well typed statement declares is assigned to. -/
theorem Follows.assigns {result : Ty} :
    ∀ {stmt : Stmt Mark} {table next : SymbolTable}, Follows result table stmt next →
      ∀ symbol ∈ declared stmt, hostName program symbol ∈ assignedNamesAll (stmt.hosted program)
  | .declare binding, _, _, .declare (.intro _ _ _ bound _) => by
    intro symbol inside
    rw [declared, bound] at inside
    obtain rfl := List.mem_singleton.1 inside
    exact List.mem_singleton.2 (foldText_lower bound binding.name).symm
  | .assign _ _ _, _, _, _ | .leave _ _, _, _, _ | .evaluate _ _, _, _, _ =>
    fun _ inside => nomatch inside
  | .block _ body, _, _, .block inside => inside.assigns
  | .ifThen _ _ _ body, _, _, .ifThen _ _ inside => fun symbol member => by
    have assigned := inside.assigns symbol member
    exact List.mem_append_left _ assigned
  | .ifElse _ _ _ body otherwise, _, _, .ifElse _ _ inside branch other => by
    intro symbol member
    rw [Stmt.assigned_ifElse branch, List.mem_append]
    rcases List.mem_append.1 member with first | second
    · exact .inl (inside.assigns symbol first)
    · exact .inr (other.assigns symbol second)
  | .whileLoop _ _ _ body, _, _, .whileLoop _ _ inside => fun symbol member => by
    have assigned := inside.assigns symbol member
    exact List.mem_append_left _ assigned
  | .forLoop mark counter _ _ _ body, _, _, .forLoop _ _ _ _ noted _ inside => by
    intro symbol member
    refine List.mem_append_left _ ?_
    rw [declared, noted] at member
    rcases List.mem_cons.1 member with rfl | later
    · exact List.mem_cons.2 (.inl (foldText_lower noted counter).symm)
    · exact List.mem_cons_of_mem _ (inside.assigns symbol later)

/-- Every symbol that well typed statements declare is assigned to. -/
theorem Body.assigns {result : Ty} :
    ∀ {body : List (Stmt Mark)} {table : SymbolTable}, Body result table body →
      ∀ symbol ∈ declaredAll body,
        hostName program symbol ∈ assignedNamesAll (Stmt.hostedAll program body)
  | [], _, _ => fun _ inside => nomatch inside
  | _ :: _, _, .cons first others => by
    intro symbol member
    rw [Stmt.hostedAll_cons, Run.assignedNamesAll_append, List.mem_append]
    rcases List.mem_append.1 member with here | later
    · exact .inl (first.assigns symbol here)
    · exact .inr (others.assigns symbol later)

end

/-- The scopes after a well typed statement: what it declares may be in the innermost one. -/
theorem Follows.placed {result : Ty} {base : SymbolTable} {own rest : List Symbol}
    {scope : Scope} {inner : List Scope} {stmt : Stmt Mark} {table next : SymbolTable}
    (follows : Follows result table stmt next)
    (placed : Placed base own table (scope :: inner) (declared stmt ++ rest)) :
    ∃ after, Placed base own next (after :: inner) rest := by
  cases follows with
  | declare declares =>
    obtain ⟨_, _, _, bound, fresh⟩ := declares
    rw [declared, bound] at placed
    exact ⟨_, placed.define fresh⟩
  | _ => exact ⟨scope, placed.fewer (List.sublist_append_right _ _)⟩

end Typing

/-- Names that are assigned to, as the host calls them, and the variables of the module that the
source assigns to: a name belongs to the function unless it is that of such a variable. -/
structure Sorts (program : Lag.Program Mark) (own : List Symbol) (assigned listed : List String) :
    Prop where
  /-- A name is that of a symbol of the function, or one of those of the module. -/
  assigned : ∀ name ∈ assigned,
    (∃ symbol ∈ own, hostName program symbol = name) ∨ name ∈ listed.map Text.foldText
  /-- Those of the module are names of its variables. -/
  listed : ∀ name ∈ listed,
    ∃ symbol ∈ program.variables, hostName program symbol = Text.foldText name

namespace Sorts

variable {own : List Symbol}

/-- No names are sorted. -/
theorem nil : Sorts program own [] [] := ⟨by simp, by simp⟩

/-- Names are sorted one after the other. -/
theorem append {first second listed others : List String} (sorts : Sorts program own first listed)
    (rest : Sorts program own second others) :
    Sorts program own (first ++ second) (listed ++ others) := by
  refine ⟨fun name inside => ?_, fun name inside => ?_⟩
  · rw [List.map_append, List.mem_append]
    rcases List.mem_append.1 inside with here | later
    · exact (sorts.assigned name here).imp_right .inl
    · exact (rest.assigned name later).imp_right .inr
  · rcases List.mem_append.1 inside with here | later
    · exact sorts.listed name here
    · exact rest.listed name later

/-- The name of a symbol of the function is sorted. -/
theorem single {symbol : Symbol} (inside : symbol ∈ own) :
    Sorts program own [hostName program symbol] [] :=
  ⟨fun _ member => .inl ⟨symbol, inside, (List.mem_singleton.1 member).symm⟩, by simp⟩

/-- The names of a single statement are sorted. -/
theorem statement {stmt : Host.Stmt} {listed : List String}
    (sorts : Sorts program own (assignedNames stmt) listed) :
    Sorts program own (assignedNamesAll [stmt]) listed := by
  rwa [Run.assignedNamesAll_singleton]

end Sorts

namespace Typing

variable {own : List Symbol} {base : SymbolTable} {result : Ty}

/-- An assignment changes a variable of the function, or one of the module that it names. -/
theorem sorts_assign {inner : List Scope} {rest : List Symbol} {table : SymbolTable}
    (laid : Laid program) (within : Within program base) (owned : ∀ symbol ∈ own, Owned symbol)
    (placed : Placed base own table inner rest) {target : Ident Mark} {symbol : Symbol}
    (found : table.lookup? target.name = some symbol) (readable : symbol.kind.isFunction = false)
    (bound : target.note.symbol = some symbol) :
    Sorts program own [hostName program symbol]
      (if target.inModule then [target.lower (Host.Names.ofProgram program)] else []) := by
  have inModule : target.inModule = (symbol.inModule && symbol.kind == .variable) := by
    rw [Ident.inModule, bound]
  rcases (placed.nested owned).reads within found readable with inside | ⟨_, outside, _⟩
  · have member := placed.own_of_found inside
    rw [inModule, (owned symbol member).inside]
    exact Sorts.single member
  · obtain ⟨binding, _, type, rfl⟩ := laid.variable_is outside
    have host : Text.foldText (target.lower (Host.Names.ofProgram program)) =
        hostName program (variableSymbol true binding type) := foldText_lower bound target.name
    rw [inModule]
    refine ⟨fun name member => .inr ?_, fun name member => ⟨_, outside, ?_⟩⟩
    · rw [List.mem_singleton.1 member, ← host]
      exact List.mem_singleton.2 rfl
    · rw [← host, List.mem_singleton.1 member]

mutual

/-- The names that a well typed statement assigns to are sorted. -/
theorem Follows.sorts (laid : Laid program) (within : Within program base)
    (owned : ∀ symbol ∈ own, Owned symbol) : ∀ {stmt : Stmt Mark} {table next : SymbolTable}
      {scope : Scope} {inner : List Scope} {rest : List Symbol}, Follows result table stmt next →
      Placed base own table (scope :: inner) (declared stmt ++ rest) →
      Sorts program own (assignedNamesAll (stmt.hosted program))
        (stmt.assigned (Host.Names.ofProgram program))
  | .declare binding, _, _, _, _, _, .declare (.intro _ _ _ bound _), placed => by
    rw [declared, bound] at placed
    have member := placed.room.subset (List.mem_append_right _ List.mem_cons_self)
    have single := @Sorts.single program _ _ member
    rwa [← foldText_lower bound binding.name] at single
  | .assign _ target _, _, _, _, _, _, .assign found readable _ bound _ _, placed => by
    have sorts := sorts_assign laid within owned placed found readable bound
    rwa [← foldText_lower bound target.name] at sorts
  | .leave _ none, _, _, _, _, _, _, _ | .leave _ (some _), _, _, _, _, _, _, _
  | .evaluate _ _, _, _, _, _, _, _, _ => Sorts.nil
  | .block _ body, _, _, _, _, _, .block inside, placed =>
    inside.sorts laid within owned (placed.push "block")
  | .ifThen _ _ _ body, _, _, _, _, _, .ifThen _ _ inside, placed => by
    exact .statement (inside.sorts laid within owned (placed.push "block"))
  | .ifElse _ _ _ body otherwise, _, _, _, _, rest, .ifElse _ _ inside branch other, placed => by
    rw [declared, List.append_assoc] at placed
    rw [Stmt.assigned_ifElse branch]
    have first := inside.sorts laid within owned (placed.push "block")
    have second := other.sorts laid within owned (placed.fewer (List.sublist_append_right _ _))
    exact first.append second
  | .whileLoop _ _ _ body, _, _, _, _, _, .whileLoop _ _ inside, placed => by
    exact .statement (inside.sorts laid within owned (placed.push "block"))
  | .forLoop mark counter _ _ _ body, _, _, _, _, _, .forLoop _ _ _ _ noted fresh inside,
      placed => by
    rw [declared, noted] at placed
    have member : counterSymbol mark counter ∈ own :=
      placed.room.subset (List.mem_append_right _ List.mem_cons_self)
    have around := (placed.push "for").define fresh
    have sorts := (Sorts.single member).append (inside.sorts laid within owned (around.push "block"))
    rw [← foldText_lower noted counter] at sorts
    exact .statement sorts

/-- The names that well typed statements assign to are sorted. -/
theorem Body.sorts (laid : Laid program) (within : Within program base)
    (owned : ∀ symbol ∈ own, Owned symbol) : ∀ {body : List (Stmt Mark)} {table : SymbolTable}
      {scope : Scope} {inner : List Scope} {rest : List Symbol}, Body result table body →
      Placed base own table (scope :: inner) (declaredAll body ++ rest) →
      Sorts program own (assignedNamesAll (Stmt.hostedAll program body))
        (Stmt.assignedAll (Host.Names.ofProgram program) body)
  | [], _, _, _, _, _, _ => Sorts.nil
  | _ :: _, _, _, _, _, .cons first others, placed => by
    rw [declaredAll, List.append_assoc] at placed
    obtain ⟨_, after⟩ := first.placed placed
    have here := first.sorts laid within owned placed
    rw [Stmt.hostedAll_cons, Run.assignedNamesAll_append]
    exact here.append (others.sorts laid within owned after)

end

/-- The scope below the parameters of a function. -/
theorem Params.placed {inner : List Scope} {table next : SymbolTable} {params : List (Param Mark)}
    (takes : Params table params next) : ∀ {scope : Scope} {rest : List Symbol},
      Placed base own table (scope :: inner) (params.flatMap (·.note.symbol.toList) ++ rest) →
      ∃ after, Placed base own next (after :: inner) rest := by
  induction takes with
  | nil => exact fun placed => ⟨_, placed⟩
  | cons _ bound fresh _ ih =>
    intro scope rest placed
    rw [List.flatMap_cons, bound] at placed
    exact ih (placed.define fresh)

/-- The host names of parameters. -/
theorem Params.hosts {table next : SymbolTable} {params : List (Param Mark)}
    (takes : Params table params next) :
    params.map (fun param =>
        Text.foldText (param.note.lower (Host.Names.ofProgram program) param.name)) =
      (params.flatMap (·.note.symbol.toList)).map (hostName program) := by
  induction takes with
  | nil => rfl
  | @cons _ _ _ param _ _ bound _ _ ih =>
    have host : Text.foldText (param.note.lower (Host.Names.ofProgram program) param.name) =
        hostName program (paramSymbol param) := foldText_lower bound param.name
    rw [List.map_cons, List.flatMap_cons, bound, ih, host]
    rfl

end Typing

/-- Outside the scopes of a function all its symbols are still to be declared. -/
theorem Placed.start (base : SymbolTable) (own : List Symbol) : Placed base own base [] own :=
  ⟨rfl, List.Subperm.refl _⟩

/-- A name is local to a function of the host exactly when it is the host name of a symbol that
the function declares. -/
theorem mem_localNames (laid : Laid program) {function : Function Mark}
    (inside : function ∈ program.functions) (name : String) :
    name ∈ localNames (hostFunction program function) ↔
      ∃ symbol ∈ declaredIn function, hostName program symbol = name := by
  obtain ⟨base, within, defines⟩ := laid.typed.defines inside
  have owned := defines.owned
  obtain ⟨_, _, takes, body, _⟩ := defines
  have placed := (Placed.start base (declaredIn function)).push ("fn " ++ function.name)
  obtain ⟨_, below⟩ := takes.placed placed
  rw [← List.append_nil (declaredAll function.body)] at below
  have sorts := body.sorts laid within owned (below.push "block")
  have params := @takes.hosts program
  have listed : (hostFunction program function).globals.contains name = true ↔
      name ∈ (Stmt.assignedAll (Host.Names.ofProgram program) function.body).map
        Text.foldText := by
    rw [List.contains_iff_mem]
    simp [hostFunction, Function.lower, Host.Function.link, List.mem_eraseDups]
  have split : name ∈ localNames (hostFunction program function) ↔
      name ∈ (function.params.flatMap (·.note.symbol.toList)).map (hostName program) ∨
        (name ∈ assignedNamesAll (Stmt.hostedAll program function.body) ∧
          ¬(hostFunction program function).globals.contains name = true) := by
    rw [← params, localNames, List.mem_append, List.mem_filter, List.mem_eraseDups]
    simp [hostFunction, Function.lower, Host.Function.link, Stmt.hostedAll]
  rw [split]
  constructor
  · rintro (param | ⟨assigned, free⟩)
    · obtain ⟨symbol, member, host⟩ := List.mem_map.1 param
      exact ⟨symbol, List.mem_append_left _ member, host⟩
    · rcases sorts.assigned name assigned with own | module
      · exact own
      · exact absurd (listed.2 module) free
  · rintro ⟨symbol, member, rfl⟩
    rcases List.mem_append.1 member with param | known
    · exact .inl (List.mem_map_of_mem param)
    · refine .inr ⟨body.assigns symbol known, fun global => ?_⟩
      obtain ⟨read, readListed, same⟩ := List.mem_map.1 (listed.1 global)
      obtain ⟨outer, outside, host⟩ := sorts.listed read readListed
      exact laid.host_ne (Laid.variable_declared outside) inside member (host.trans same)

end

end Lag
