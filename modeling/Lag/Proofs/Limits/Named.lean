import Lag.Proofs.Limits.Lines
import Lag.Proofs.Scoping.Placed
import Lag.Proofs.Typing.Occurring

/-!
# Names of lowered programs

Every name in the module that a well typed program is lowered to is the one that was chosen for a
symbol of the program.
-/
namespace Lag

open Host (declared declaredAll declaredBy declaredIn symbolsOf)

/-- A name that was chosen for a symbol of a program. -/
def Named (program : Program Mark) (name : String) : Prop :=
  ∃ symbol ∈ symbolsOf program, (Host.Names.ofProgram program).find symbol = name

/-- A conversion adds no names. -/
@[simp] theorem Mark.names_convert (mark : Mark) (expr : Host.Expr) :
    (mark.convert expr).names = expr.names := by
  unfold Mark.convert
  split <;> rfl

/-- A literal has no names. -/
theorem Literal.names_lower (value : Literal) : value.lower.names = [] := by
  cases value with
  | float value =>
    show Host.Expr.names (if value == Number.infinity then _ else _) = []
    split <;> rfl
  | _ => rfl

/-- A declared name is the one that was chosen for its symbol. -/
theorem named_of_bound {program : Program Mark} {mark : Mark} {symbol : Symbol}
    (bound : mark.symbol = some symbol) (inside : symbol ∈ symbolsOf program) (name : String) :
    Named program (mark.lower (Host.Names.ofProgram program) name) := by
  refine ⟨symbol, inside, ?_⟩
  rw [Mark.lower, Ident.lower, bound]

namespace Typing

variable {program : Lag.Program Mark}

/-- The names in a call are that of the function and those in its arguments. -/
theorem named_lowerCall {table : SymbolTable} (known : Known program table) {callee : Ident Mark}
    {symbol : Symbol} (found : table.lookup? callee.name = some symbol)
    (bound : callee.note.symbol = some symbol) {arguments : List Host.Expr}
    (named : ∀ name ∈ Host.Expr.allNames arguments, Named program name) :
    ∀ name ∈ (callee.lowerCall (Host.Names.ofProgram program) arguments).names,
      Named program name := by
  unfold Ident.lowerCall
  rw [bound]
  rcases known.lookup? found with declared | ⟨builtin, rfl⟩
  · have called : ∀ name ∈ (Host.Expr.call (callee.lower (Host.Names.ofProgram program))
        arguments).names, Named program name :=
      List.forall_mem_cons.2 ⟨named_of_bound bound declared.inside callee.name, named⟩
    dsimp only
    split
    · exact named
    · exact called
  · cases builtin <;> exact named

mutual

/-- The names in a lowered expression are chosen for symbols. -/
theorem HasType.named {table : SymbolTable} (known : Known program table) :
    ∀ {expr : Expr Mark} {type : Ty}, HasType table expr type →
      ∀ name ∈ (expr.lower (Host.Names.ofProgram program)).names, Named program name
  | .literal mark value _, _, _ => by
    rw [Expr.lower, Mark.names_convert, Literal.names_lower]
    exact fun _ inside => absurd inside List.not_mem_nil
  | .read ident, _, .read found readable bound _ => by
    rw [Expr.lower, Mark.names_convert, Host.Expr.names]
    rcases known.lookup? found with declared | ⟨builtin, rfl⟩
    · exact List.forall_mem_singleton.2 (named_of_bound bound declared.inside ident.name)
    · cases readable
  | .unary _ .not _, _, .not _ truth _ => by
    rw [Expr.lower, Mark.names_convert]
    exact truth.named known
  | .unary _ .negate _, _, .negate _ _ number _ => by
    rw [Expr.lower, Mark.names_convert]
    exact number.named known
  | .binary _ _ _ _, _, .binary _ leftTyped _ rightTyped _ _ => by
    rw [Expr.lower, Mark.names_convert]
    exact List.forall_mem_append.2 ⟨leftTyped.named known, rightTyped.named known⟩
  | .call _ _ _, _, .call _ found bound _ fits => by
    rw [Expr.lower, Mark.names_convert]
    exact named_lowerCall known found bound (fits.named known)

/-- The names in lowered arguments are chosen for symbols. -/
theorem Arguments.named {table : SymbolTable} (known : Known program table) :
    ∀ {exprs : List (Expr Mark)} {params : List (String × Ty)}, Arguments table params exprs →
      ∀ name ∈ Host.Expr.allNames (Expr.lowerAll (Host.Names.ofProgram program) exprs),
        Named program name
  | [], _, _ => fun _ inside => absurd inside List.not_mem_nil
  | _ :: _, _, .cons fits others => by
    obtain ⟨_, typed⟩ := fits.typed
    exact List.forall_mem_append.2 ⟨typed.named known, others.named known⟩

end

/-- The names in a lowered expression that fits a place are chosen for symbols. -/
theorem Fits.named {table : SymbolTable} (known : Known program table) {place : Ty}
    {expr : Expr Mark} (fits : Fits table place expr) :
    ∀ name ∈ (expr.lower (Host.Names.ofProgram program)).names, Named program name := by
  obtain ⟨_, typed⟩ := fits.typed
  exact typed.named known

end Typing

/-- The names in statements after others. -/
theorem Host.Stmt.allNames_append (first second : List Host.Stmt) :
    Host.Stmt.allNames (first ++ second) =
      Host.Stmt.allNames first ++ Host.Stmt.allNames second := by
  induction first with
  | nil => rfl
  | cons stmt first ih => rw [List.cons_append, allNames, allNames, ih, List.append_assoc]

/-- The names in a conditional are those in its test, its body and what happens otherwise. -/
theorem Stmt.names_lower_ifElse (names : Host.Names) (mark bodyMark : Mark) (test : Expr Mark)
    (body : List (Stmt Mark)) (otherwise : Stmt Mark) :
    Host.Stmt.allNames ((Stmt.ifElse mark test bodyMark body otherwise).lower names) =
      (test.lower names).names ++ Host.Stmt.allNames (Stmt.lowerAll names body) ++
        Host.Stmt.allNames (otherwise.lower names) := by
  have single : ∀ stmt : Host.Stmt, Host.Stmt.allNames [stmt] = stmt.names := fun stmt =>
    List.append_nil _
  by_cases isBlock : ∃ blockMark other, otherwise = .block blockMark other
  · obtain ⟨_, _, rfl⟩ := isBlock
    exact single _
  · rw [Stmt.lower]
    · split
      · rename_i lowered
        rw [lowered, single, single]
        rfl
      · exact single _
    · exact fun blockMark other shape => isBlock ⟨blockMark, other, shape⟩

namespace Typing

variable {program : Lag.Program Mark}

/-- The names in a lowered declaration of a variable are chosen for symbols. -/
theorem Declares.named {inModule : Bool} {table next : SymbolTable} {binding : Binding Mark}
    (declares : Declares inModule table binding next) (known : Known program table)
    (inside : ∀ symbol ∈ binding.note.symbol, symbol ∈ symbolsOf program) :
    ∀ name ∈ binding.note.lower (Host.Names.ofProgram program) binding.name ::
        (binding.value.lower (Host.Names.ofProgram program)).names, Named program name := by
  obtain ⟨_, _, fits, bound, _⟩ := declares
  exact List.forall_mem_cons.2 ⟨named_of_bound bound (inside _ bound) binding.name, fits.named known⟩

mutual

/-- The names in a lowered statement are chosen for symbols. -/
theorem Follows.named {result : Ty} : ∀ {stmt : Stmt Mark} {table next : SymbolTable},
    Follows result table stmt next → Known program table →
      (∀ symbol ∈ declared stmt, symbol ∈ symbolsOf program) →
        ∀ name ∈ Host.Stmt.allNames (stmt.lower (Host.Names.ofProgram program)),
          Named program name
  | .declare binding, _, _, .declare declares, known, inside => by
    have named := declares.named known fun _ noted => inside _ (Option.mem_toList.2 noted)
    exact List.forall_mem_append.2 ⟨named, fun _ inside => absurd inside List.not_mem_nil⟩
  | .assign _ target _, _, _, .assign found readable _ bound _ fits, known, _ => by
    have written : Named program (target.lower (Host.Names.ofProgram program)) := by
      rcases known.lookup? found with declared | ⟨builtin, rfl⟩
      · exact named_of_bound bound declared.inside target.name
      · cases readable
    exact List.forall_mem_append.2 ⟨List.forall_mem_cons.2 ⟨written, fits.named known⟩,
      fun _ inside => absurd inside List.not_mem_nil⟩
  | .leave _ none, _, _, .leaveNothing _, _, _ => fun _ inside => absurd inside List.not_mem_nil
  | .leave _ (some _), _, _, .leave _ fits, known, _ =>
    List.forall_mem_append.2 ⟨fits.named known, fun _ inside => absurd inside List.not_mem_nil⟩
  | .evaluate _ _, _, _, .evaluate typed _, known, _ =>
    List.forall_mem_append.2 ⟨typed.named known, fun _ inside => absurd inside List.not_mem_nil⟩
  | .block _ _, _, _, .block body, known, inside => body.named (known.push "block") inside
  | .ifThen _ _ _ _, _, _, .ifThen truth _ body, known, inside
  | .whileLoop _ _ _ _, _, _, .whileLoop truth _ body, known, inside => by
    have first := truth.named known
    have later := body.named (known.push "block") inside
    exact List.forall_mem_append.2 ⟨List.forall_mem_append.2 ⟨first, later⟩,
      fun _ inside => absurd inside List.not_mem_nil⟩
  | .ifElse _ _ _ body otherwise, _, _, .ifElse truth _ typed _ other, known, inside => by
    have inner : ∀ symbol ∈ declaredAll body, symbol ∈ symbolsOf program :=
      fun symbol member => inside symbol (List.mem_append_left _ member)
    have outer : ∀ symbol ∈ declared otherwise, symbol ∈ symbolsOf program :=
      fun symbol member => inside symbol (List.mem_append_right _ member)
    have first := truth.named known
    have later := typed.named (known.push "block") inner
    have last := other.named known outer
    rw [Stmt.names_lower_ifElse]
    exact List.forall_mem_append.2 ⟨List.forall_mem_append.2 ⟨first, later⟩, last⟩
  | .forLoop mark counter _ _ _ body, _, _,
      .forLoop firstTyped _ boundTyped _ noted fresh typed, known, inside => by
    rw [declared, noted] at inside
    obtain ⟨counts, later⟩ := List.forall_mem_cons.1 inside
    have isDeclared : Declared program (counterSymbol mark counter) :=
      ⟨counts, by simp [counterSymbol]⟩
    have lower := firstTyped.named known
    have upper := boundTyped.named known
    have within := typed.named (((known.push "for").define isDeclared fresh).push "block") later
    refine List.forall_mem_append.2
      ⟨List.forall_mem_cons.2 ⟨named_of_bound noted counts counter, ?_⟩,
        fun _ inside => absurd inside List.not_mem_nil⟩
    exact List.forall_mem_append.2 ⟨List.forall_mem_append.2 ⟨lower, upper⟩, within⟩

/-- The names in lowered statements are chosen for symbols. -/
theorem Body.named {result : Ty} : ∀ {body : List (Stmt Mark)} {table : SymbolTable},
    Body result table body → Known program table →
      (∀ symbol ∈ declaredAll body, symbol ∈ symbolsOf program) →
        ∀ name ∈ Host.Stmt.allNames (Stmt.lowerAll (Host.Names.ofProgram program) body),
          Named program name
  | [], _, _, _, _ => fun _ inside => absurd inside List.not_mem_nil
  | stmt :: rest, _, .cons first others, known, inside => by
    have here : ∀ symbol ∈ declared stmt, symbol ∈ symbolsOf program :=
      fun symbol member => inside symbol (List.mem_append_left _ member)
    have later : ∀ symbol ∈ declaredAll rest, symbol ∈ symbolsOf program :=
      fun symbol member => inside symbol (List.mem_append_right _ member)
    rw [Stmt.lowerAll, Host.Stmt.allNames_append]
    exact List.forall_mem_append.2
      ⟨first.named known here, others.named (first.occurs known here).1 later⟩

end

/-- The host name of a variable of the module. -/
def Listed (program : Lag.Program Mark) (name : String) : Prop :=
  ∃ symbol ∈ program.variables, (Host.Names.ofProgram program).find symbol = name

/-- A variable of the module that is declared anywhere is declared by the module. -/
theorem Program.mem_variables (typed : Program program) {symbol : Symbol}
    (inside : symbol ∈ symbolsOf program) (inModule : symbol.inModule = true)
    (isVariable : symbol.kind = .variable) : symbol ∈ program.variables := by
  rcases Laid.mem_symbolsOf.1 inside with outer | ⟨function, member, within⟩
  · obtain ⟨declaration, isDeclared, noted⟩ := List.mem_flatMap.1 outer
    cases declaration with
    | function function =>
      rw [← Program.mem_functions] at isDeclared
      obtain ⟨_, _, bound, _⟩ := typed.defines isDeclared
      rw [declaredBy, bound] at noted
      rw [List.mem_singleton.1 noted] at isVariable
      cases isVariable
    | binding binding =>
      rw [← Program.mem_bindings] at isDeclared
      exact List.mem_flatMap.2 ⟨binding, isDeclared, noted⟩
  · obtain ⟨_, _, defines⟩ := typed.defines member
    rw [(defines.owned symbol within).inside] at inModule
    cases inModule

/-- The host name of a variable of the module is chosen for it. -/
theorem Listed.named {name : String} (listed : Listed program name) : Named program name := by
  obtain ⟨symbol, inside, is⟩ := listed
  exact ⟨symbol, List.mem_append_left _ (Laid.variable_declared inside), is⟩

mutual

/-- The variables of the module that a well typed statement assigns to. -/
theorem Follows.listed (typed : Program program) {result : Ty} : ∀ {stmt : Stmt Mark}
    {table next : SymbolTable}, Follows result table stmt next → Known program table →
      (∀ symbol ∈ declared stmt, symbol ∈ symbolsOf program) →
        ∀ name ∈ stmt.assigned (Host.Names.ofProgram program), Listed program name
  | .assign _ target _, _, _, .assign found readable _ bound _ _, known, _ => by
    intro name inside
    rw [Stmt.assigned] at inside
    split at inside
    · rename_i inModule
      rw [Ident.inModule, bound, Bool.and_eq_true, beq_iff_eq] at inModule
      obtain ⟨outer, isVariable⟩ := inModule
      rcases known.lookup? found with declared | ⟨builtin, rfl⟩
      · refine ⟨_, typed.mem_variables declared.inside outer isVariable, ?_⟩
        rw [List.mem_singleton.1 inside, Ident.lower, bound]
      · cases readable
    · cases inside
  | .declare _, _, _, _, _, _ | .leave _ _, _, _, _, _, _ | .evaluate _ _, _, _, _, _, _ =>
    fun _ inside => absurd inside List.not_mem_nil
  | .block _ _, _, _, .block body, known, inside => body.listed typed (known.push "block") inside
  | .ifThen _ _ _ _, _, _, .ifThen _ _ body, known, inside
  | .whileLoop _ _ _ _, _, _, .whileLoop _ _ body, known, inside =>
    body.listed typed (known.push "block") inside
  | .ifElse _ _ _ body otherwise, _, _, .ifElse _ _ within _ other, known, inside => by
    have inner : ∀ symbol ∈ declaredAll body, symbol ∈ symbolsOf program :=
      fun symbol member => inside symbol (List.mem_append_left _ member)
    have outer : ∀ symbol ∈ declared otherwise, symbol ∈ symbolsOf program :=
      fun symbol member => inside symbol (List.mem_append_right _ member)
    exact List.forall_mem_append.2
      ⟨within.listed typed (known.push "block") inner, other.listed typed known outer⟩
  | .forLoop mark counter _ _ _ body, _, _, .forLoop _ _ _ _ noted fresh within, known,
      inside => by
    rw [declared, noted] at inside
    obtain ⟨counts, later⟩ := List.forall_mem_cons.1 inside
    have isDeclared : Declared program (counterSymbol mark counter) :=
      ⟨counts, by simp [counterSymbol]⟩
    exact within.listed typed (((known.push "for").define isDeclared fresh).push "block") later

/-- The variables of the module that well typed statements assign to. -/
theorem Body.listed (typed : Program program) {result : Ty} : ∀ {body : List (Stmt Mark)}
    {table : SymbolTable}, Body result table body → Known program table →
      (∀ symbol ∈ declaredAll body, symbol ∈ symbolsOf program) →
        ∀ name ∈ Stmt.assignedAll (Host.Names.ofProgram program) body, Listed program name
  | [], _, _, _, _ => fun _ inside => absurd inside List.not_mem_nil
  | stmt :: rest, _, .cons first others, known, inside => by
    have here : ∀ symbol ∈ declared stmt, symbol ∈ symbolsOf program :=
      fun symbol member => inside symbol (List.mem_append_left _ member)
    have later : ∀ symbol ∈ declaredAll rest, symbol ∈ symbolsOf program :=
      fun symbol member => inside symbol (List.mem_append_right _ member)
    exact List.forall_mem_append.2
      ⟨first.listed typed known here, others.listed typed (first.occurs known here).1 later⟩

end

/-- The names of lowered parameters are chosen for symbols. -/
theorem Params.named {table next : SymbolTable} {params : List (Param Mark)}
    (takes : Params table params next)
    (inside : ∀ symbol ∈ params.flatMap (·.note.symbol.toList), symbol ∈ symbolsOf program) :
    ∀ name ∈ params.map (fun param => param.note.lower (Host.Names.ofProgram program) param.name),
      Named program name := by
  induction takes with
  | nil => exact fun _ inside => absurd inside List.not_mem_nil
  | @cons _ _ _ param _ _ bound _ _ ih =>
    rw [List.flatMap_cons, bound] at inside
    obtain ⟨first, others⟩ := List.forall_mem_cons.1 inside
    exact List.forall_mem_cons.2 ⟨named_of_bound bound first param.name, ih others⟩

/-- The names in a lowered function are chosen for symbols. -/
theorem Defines.named (typed : Program program) {table : SymbolTable} {function : Function Mark}
    (defines : Defines table function) (known : Known program table)
    (own : ∀ symbol ∈ function.note.symbol, symbol ∈ symbolsOf program)
    (inside : ∀ symbol ∈ declaredIn function, symbol ∈ symbolsOf program) :
    ∀ name ∈ (function.lower (Host.Names.ofProgram program)).names, Named program name := by
  obtain ⟨bound, _, params, body, _⟩ := defines
  have takes : ∀ symbol ∈ function.params.flatMap (·.note.symbol.toList),
      symbol ∈ symbolsOf program := fun symbol member =>
    inside symbol (List.mem_append_left _ member)
  have below := params.known (known.push _) takes
  have locals : ∀ symbol ∈ declaredAll function.body, symbol ∈ symbolsOf program :=
    fun symbol member => inside symbol (List.mem_append_right _ member)
  have within := body.named (below.push "block") locals
  have globals : ∀ name ∈ (Stmt.assignedAll (Host.Names.ofProgram program)
      function.body).eraseDups, Named program name := fun name member =>
    (body.listed typed (below.push "block") locals name (List.mem_eraseDups.1 member)).named
  refine List.forall_mem_cons.2 ⟨named_of_bound bound (own _ bound) function.name, ?_⟩
  exact List.forall_mem_append.2
    ⟨List.forall_mem_append.2 ⟨params.named takes, globals⟩, within⟩

/-- The names in the module for a well typed program are chosen for symbols. -/
theorem Program.named (typed : Program program) (title : String) :
    ∀ name ∈ (program.lowerAs title).names, Named program name := by
  refine List.forall_mem_append.2 ⟨fun name inside => ?_, fun name inside => ?_⟩
  · obtain ⟨entry, member, part⟩ := List.mem_flatMap.1 inside
    obtain ⟨function, isFunction, rfl⟩ := List.mem_map.1 member
    obtain ⟨_, within, defines⟩ := typed.defines isFunction
    have own : ∀ symbol ∈ function.note.symbol, symbol ∈ symbolsOf program := by
      obtain ⟨bound, _⟩ := defines
      rw [bound]
      rintro _ ⟨⟩
      exact List.mem_append_left _ (typed.function_declared isFunction)
    exact defines.named typed (within.known typed) own (symbolsOf_function isFunction) name part
  · obtain ⟨entry, member, part⟩ := List.mem_flatMap.1 inside
    obtain ⟨binding, isBinding, rfl⟩ := List.mem_map.1 member
    obtain ⟨_, _, within, declares⟩ := typed.declares isBinding
    exact declares.named (within.known typed) (symbolsOf_binding isBinding) name part

end Typing

end Lag
