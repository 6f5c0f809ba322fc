import Lag.Proofs.Typing.Statements

/-!
# What the check of a program establishes

A regular program that is checked without failures is well typed, and it is the program that was
checked, with notes on it.
-/
namespace Lag

variable {α β : Type}

mutual

/-- Notes do not decide whether every path through a statement ends in a return. -/
@[simp] theorem Stmt.leaves_map (f : α → β) : ∀ stmt : Stmt α, (stmt.map f).leaves = stmt.leaves
  | .declare _ | .assign _ _ _ | .leave _ _ | .evaluate _ _ | .ifThen _ _ _ _
  | .whileLoop _ _ _ _ | .forLoop _ _ _ _ _ _ => rfl
  | .block _ body => by rw [Stmt.map, Stmt.leaves, Stmt.leaves, Stmt.someLeaves_map f body]
  | .ifElse _ _ _ body otherwise => by
    rw [Stmt.map, Stmt.leaves, Stmt.leaves, Stmt.someLeaves_map f body,
      Stmt.leaves_map f otherwise]

/-- Notes do not decide whether one of some statements always ends in a return. -/
@[simp] theorem Stmt.someLeaves_map (f : α → β) :
    ∀ body : List (Stmt α), Stmt.someLeaves (Stmt.mapAll f body) = Stmt.someLeaves body
  | [] => rfl
  | stmt :: rest => by
    rw [Stmt.mapAll, Stmt.someLeaves, Stmt.someLeaves, Stmt.leaves_map f stmt,
      Stmt.someLeaves_map f rest]

end

/-- Notes play no part in the signature of a function. -/
@[simp] theorem Function.signature_map (f : α → β) (function : Function α) :
    (function.map f).signature = function.signature := by
  simp only [Function.signature, Function.map, List.map_map, Option.map_map]
  rfl

/-- The functions of a program whose notes are changed. -/
theorem Program.functions_map (f : α → β) (program : Program α) :
    (program.map f).functions = program.functions.map (Function.map f) := by
  simp only [Program.functions, Program.map, List.filterMap_map, List.map_filterMap]
  congr 1
  funext declaration
  cases declaration <;> rfl

namespace Check

open Typing

variable {limit : Nat}

mutual

/-- The check of a statement finds out whether every path through it ends in a return. -/
theorem yields_alwaysLeaves : ∀ (depth : Depth) (stmt : Stmt Node),
    Yields limit (alwaysLeaves depth stmt) fun answer => answer = stmt.leaves
  | depth, .leave _ _ => by
    unfold alwaysLeaves
    exact .bind (.descend 1 depth) fun _ => .pure fun _ => rfl
  | depth, .block _ body => by
    unfold alwaysLeaves
    refine .bind (.descend 3 depth) fun inner => ?_
    exact (yields_someLeaves inner body).mono fun _ same _ => same
  | depth, .ifElse _ _ _ body otherwise => by
    unfold alwaysLeaves
    refine .bind (.descend 1 depth) fun inner => ?_
    refine .bind (.descend 3 inner) fun inside => ?_
    refine .bind (yields_someLeaves inside body) fun answer => ?_
    cases answer with
    | true =>
      refine (yields_alwaysLeaves inner otherwise).mono fun _ same body _ _ => ?_
      rw [Stmt.leaves, ← body, same, Bool.true_and]
    | false =>
      refine .pure fun body _ _ => ?_
      rw [Stmt.leaves, ← body, Bool.false_and]
  | depth, .declare _ | depth, .assign _ _ _ | depth, .evaluate _ _ | depth, .ifThen _ _ _ _
  | depth, .whileLoop _ _ _ _ | depth, .forLoop _ _ _ _ _ _ => by
    unfold alwaysLeaves
    exact .bind (.descend 1 depth) fun _ => .pure fun _ => rfl

/-- The check of statements finds out whether one of them always ends in a return. -/
theorem yields_someLeaves : ∀ (depth : Depth) (body : List (Stmt Node)),
    Yields limit (someLeaves depth body) fun answer => answer = Stmt.someLeaves body
  | _, [] => by
    unfold someLeaves
    exact .pure rfl
  | depth, first :: rest => by
    unfold someLeaves
    refine .bind (yields_alwaysLeaves depth first) fun answer => ?_
    cases answer with
    | true =>
      refine .pure fun first => ?_
      rw [Stmt.someLeaves, ← first, Bool.true_or]
    | false =>
      refine (yields_someLeaves depth rest).mono fun _ same first => ?_
      rw [Stmt.someLeaves, ← first, same, Bool.false_or]

end

/-- The symbol that a function is declared as. -/
def registeredSymbol (function : Function Node) : Symbol :=
  ⟨function.name, .function, function.signature.type, false, true, some function.note.id,
    some function.signature⟩

/-- Notes play no part in the symbol of a function. -/
theorem functionSymbol_eq (function : Function Mark) :
    functionSymbol function = registeredSymbol (function.map Mark.node) := by
  simp only [functionSymbol, registeredSymbol, Function.signature_map]
  rfl

/-- A function whose parameters hold values. -/
def TakesValues (function : Function Node) : Prop :=
  ∀ param ∈ function.params, param.type.type.isValue = true

/-- The types of parameters are types of values. -/
theorem yields_paramTypes (params : List (Param Node)) :
    Yields limit (paramTypes params) fun found =>
      (∀ param ∈ params, param.Regular) →
        found = params.map (fun param => (param.name, param.type.type)) ∧
          ∀ param ∈ params, param.type.type.isValue = true := by
  induction params with
  | nil => exact .pure fun _ => ⟨rfl, by simp⟩
  | cons param rest ih =>
    refine .bind (yields_writtenType param.type .param param.note) fun type => ?_
    refine .bind ih fun others => .pure fun restKnown named regular => ?_
    obtain ⟨rfl, valued⟩ := named
    obtain ⟨rfl, values⟩ := restKnown fun other inside => regular other (List.mem_cons_of_mem _ inside)
    refine ⟨rfl, fun other inside => ?_⟩
    rcases List.mem_cons.1 inside with rfl | later
    · exact valued (regular _ List.mem_cons_self).type
    · exact values other later

/-- A function that is declared gets its symbol, which the scope takes up. -/
theorem yields_register (table : SymbolTable) (function : Function Node) :
    Yields limit (register table function) fun registered =>
      function.Regular → TakesValues function ∧
        registered.2 = some (registeredSymbol function) ∧
          table.define? (registeredSymbol function) = some registered.1 := by
  unfold register
  refine .bind (yields_paramTypes function.params) fun params => ?_
  cases fresh : table.define? ⟨function.name, .function,
      Signature.type ⟨params, (function.result.map (·.type)).getD .void⟩, false, true,
      some function.note.id, some ⟨params, (function.result.map (·.type)).getD .void⟩⟩ with
  | none =>
    simp only [fresh]
    exact .reported fun _ => .pure trivial
  | some next =>
    simp only [fresh]
    refine .pure fun known regular => ?_
    obtain ⟨rfl, values⟩ := known regular.params
    exact ⟨values, rfl, fresh⟩

/-- The symbol of a declaration, none for a variable. -/
def symbolFor : Declaration Node → Option Symbol
  | .function declared => some (registeredSymbol declared)
  | .binding _ => none

/-- The functions of a program that are declared are taken up by its scope. -/
theorem yields_registerAll (table : SymbolTable) (declarations : List (Declaration Node)) :
    Yields limit (registerAll table declarations) fun registered =>
      (∀ declaration ∈ declarations, declaration.Regular) →
        registered.2 = declarations.map symbolFor ∧
          (∀ function ∈ functionsOf declarations, TakesValues function) ∧
            Registers table ((functionsOf declarations).map registeredSymbol) registered.1 := by
  induction declarations generalizing table with
  | nil => exact .pure fun _ => ⟨rfl, by simp [functionsOf], .nil⟩
  | cons declaration rest ih =>
    cases declaration with
    | binding declared =>
      unfold registerAll
      refine .bind (ih table) fun registered => .pure fun known regular => ?_
      obtain ⟨symbols, values, registers⟩ :=
        known fun other inside => regular other (List.mem_cons_of_mem _ inside)
      exact ⟨by rw [symbols]; rfl, values, registers⟩
    | function declared =>
      unfold registerAll
      refine .bind (yields_register table declared) fun first => ?_
      refine .bind (ih first.1) fun registered => .pure fun restKnown firstKnown regular => ?_
      obtain ⟨firstValues, symbol, fresh⟩ := firstKnown (regular _ List.mem_cons_self)
      obtain ⟨symbols, values, registers⟩ :=
        restKnown fun other inside => regular other (List.mem_cons_of_mem _ inside)
      refine ⟨by rw [symbol, symbols]; rfl, fun function inside => ?_, .cons fresh registers⟩
      rcases List.mem_cons.1 inside with rfl | later
      · exact firstValues
      · exact values function later

/-- Parameters that are declared are taken up by the scope of the function. -/
theorem yields_declareParams (table : SymbolTable) (params : List (Param Node × Ty)) :
    Yields limit (declareParams table params) fun declared =>
      (∀ param ∈ params, param.2 = param.1.type.type ∧ param.2.isValue = true) →
        Params table declared.2 declared.1 ∧
          declared.2.map (Param.map Mark.node) = params.map (·.1) := by
  induction params generalizing table with
  | nil => exact .pure fun _ => ⟨.nil, rfl⟩
  | cons param rest ih =>
    obtain ⟨param, type⟩ := param
    unfold declareParams
    cases fresh : table.define? ⟨param.name, .parameter, type, true, false, some param.note.id,
        none⟩ with
    | none =>
      simp only [fresh]
      refine .reported fun _ => ?_
      exact .bind (ih table) fun _ => .pure fun _ => trivial
    | some next =>
      simp only [fresh]
      refine .bind (ih next) fun declared => .pure fun known values => ?_
      obtain ⟨same, isValue⟩ := values _ List.mem_cons_self
      simp only at same isValue
      subst same
      obtain ⟨takes, kept⟩ := known fun other inside => values other (List.mem_cons_of_mem _ inside)
      refine ⟨.cons isValue rfl fresh takes, ?_⟩
      rw [List.map_cons, kept]
      rfl

/-- The result of a regular function is a value or nothing. -/
theorem result_of_regular {function : Function Node} (regular : function.Regular) :
    function.signature.result.isValue = true ∨ function.signature.result = .void := by
  cases result : function.result with
  | none =>
    right
    simp [Function.signature, result]
  | some type =>
    have same : function.signature.result = type.type := by simp [Function.signature, result]
    rw [same]
    by_cases void : type.type = .void
    · exact .inr void
    · exact .inl (isValue_of_written (regular.result type result) void)

/-- Each element of a list beside what a function gives for it. -/
theorem zip_map_self {α β : Type} (f : α → β) (list : List α) :
    list.zip (list.map f) = list.map fun element => (element, f element) := by
  have zipped : (list.map id).zip (list.map f) = _ := List.zip_map'
  rwa [List.map_id] at zipped

/-- A function whose parts are checked is well typed, and it is the one that was checked. -/
theorem defines_of_parts {table around : SymbolTable} {function : Function Node}
    {params : List (Param Mark)} {body : List (Stmt Mark)} (regular : function.Regular)
    (values : TakesValues function) (proper : table.Proper)
    (paramsKnown : (∀ param ∈ function.params.zip (function.signature.params.map (·.2)),
        param.2 = param.1.type.type ∧ param.2.isValue = true) →
      Params (table.push ("fn " ++ function.name)) params around ∧
        params.map (Param.map Mark.node) =
          (function.params.zip (function.signature.params.map (·.2))).map (·.1))
    (bodyKnown : function.signature.result.isValue = true ∨ function.signature.result = .void →
      (around.push "block").Proper → Stmt.AllRegular function.body →
        Body function.signature.result (around.push "block") body ∧
          Stmt.mapAll Mark.node body = function.body)
    (returns : function.signature.result ≠ .void → Stmt.someLeaves function.body = true) :
    let checked : Function Mark := ⟨.bound function.note (registeredSymbol function), function.name,
      params, function.result.map (TypeName.map Mark.bare), .bare function.bodyNote, body⟩
    Defines table checked ∧ checked.map Mark.node = function := by
  intro checked
  have zipped : function.params.zip (function.signature.params.map (·.2)) =
      function.params.map fun param => (param, param.type.type) := by
    simp only [Function.signature, List.map_map]
    exact zip_map_self _ _
  rw [zipped] at paramsKnown
  obtain ⟨takes, paramsSame⟩ := paramsKnown fun pair inside => by
    obtain ⟨param, member, rfl⟩ := List.mem_map.1 inside
    exact ⟨rfl, values param member⟩
  have paramsSame : params.map (Param.map Mark.node) = function.params := by
    simpa [List.map_map, Function.comp_def] using paramsSame
  have around := takes.proper (proper.push _)
  obtain ⟨inside, bodySame⟩ :=
    bodyKnown (result_of_regular regular) (around.push _) regular.body
  have same : checked.map Mark.node = function := by
    simp only [checked, Function.map, paramsSame, bodySame, map_bare_type]
    rfl
  have signature : checked.signature = function.signature := by
    rw [← Function.signature_map Mark.node checked, same]
  refine ⟨.intro ?_ ?_ takes ?_ ?_, same⟩
  · rw [functionSymbol_eq, same]
    rfl
  · rw [signature]
    exact result_of_regular regular
  · rw [signature]
    exact inside
  · rw [signature, ← Stmt.someLeaves_map Mark.node, bodySame]
    exact returns

/-- A checked function is well typed, and it is the one that was checked. -/
theorem yields_function (positive : 0 < limit) (table : SymbolTable) (depth : Depth)
    {function : Function Node} (regular : function.Regular) (symbol : Symbol) :
    Yields limit (Check.function table depth function symbol) fun checked =>
      symbol = registeredSymbol function → TakesValues function → table.Proper →
        Defines table checked ∧ checked.map Mark.node = function := by
  unfold Check.function
  refine .bind (.descend 1 depth) fun inner => ?_
  refine .bind (yields_declareParams _ _) fun declared => ?_
  refine .bind (.descend 1 inner) fun innermost => ?_
  refine .bind (yields_stmts positive _ innermost (declared.1.push "block") function.body)
    fun body => ?_
  dsimp only
  split
  · refine .bind (.descend 3 inner) fun below => ?_
    refine .bind (yields_someLeaves below function.body) fun answer => ?_
    refine Yields.requires (.report _ _ _ _) fun _ => .pure ?_
    intro leaves answered _ bodyKnown _ paramsKnown _ same values proper
    subst same
    exact defines_of_parts regular values proper paramsKnown bodyKnown
      fun _ => answered ▸ leaves
  · rename_i void
    refine .pure fun bodyKnown _ paramsKnown _ same values proper => ?_
    subst same
    exact defines_of_parts regular values proper paramsKnown bodyKnown
      fun valued => absurd valued void

/-- Checked declarations are well typed, and they are the ones that were checked. -/
theorem yields_declarations (positive : 0 < limit) (depth : Depth) (table : SymbolTable)
    (declarations : List (Declaration Node × Option Symbol))
    (regular : ∀ pair ∈ declarations, pair.1.Regular) :
    Yields limit (Check.declarations depth table declarations) fun checked =>
      (∀ pair ∈ declarations, pair.2 = symbolFor pair.1) →
        (∀ function ∈ functionsOf (declarations.map (·.1)), TakesValues function) →
          table.Proper → Declarations table checked ∧
            checked.map (Declaration.map Mark.node) = declarations.map (·.1) := by
  induction declarations generalizing table with
  | nil =>
    unfold Check.declarations
    exact .pure fun _ _ _ => ⟨.nil, rfl⟩
  | cons pair rest ih =>
    obtain ⟨declaration, symbol⟩ := pair
    have firstRegular := regular _ List.mem_cons_self
    have restRegular := fun other inside => regular other (List.mem_cons_of_mem _ inside)
    have skips (passed : Declaration Mark) : Yields limit
        (Check.declarations depth table rest >>= fun others => pure (passed :: others))
        fun _ => True := .bind (ih table restRegular) fun _ => .pure fun _ => trivial
    unfold Check.declarations
    refine .unlessFull positive (skips _) ?_
    cases declaration with
    | binding declared =>
      refine .bind (yields_binding true table depth declared) fun checked => ?_
      refine .bind (ih checked.2 restRegular) fun others => .pure ?_
      intro restKnown firstKnown symbols values proper
      obtain ⟨declares, firstSame⟩ := firstKnown proper firstRegular
      obtain ⟨declarations, restSame⟩ :=
        restKnown (fun other inside => symbols other (List.mem_cons_of_mem _ inside)) values
          (declares.proper proper)
      refine ⟨.binding declares declarations, ?_⟩
      rw [List.map_cons, restSame, Declaration.map, firstSame]
      rfl
    | function declared =>
      cases symbol with
      | none =>
        refine (skips _).mono fun _ _ symbols _ _ => ?_
        have impossible := symbols _ List.mem_cons_self
        cases impossible
      | some symbol =>
        refine .bind (yields_function positive table depth firstRegular symbol) fun checked => ?_
        refine .bind (ih table restRegular) fun others => .pure ?_
        intro restKnown firstKnown symbols values proper
        have same : symbol = registeredSymbol declared := by
          simpa [symbolFor] using symbols _ List.mem_cons_self
        obtain ⟨defines, firstSame⟩ := firstKnown same (values declared List.mem_cons_self) proper
        obtain ⟨declarations, restSame⟩ :=
          restKnown (fun other inside => symbols other (List.mem_cons_of_mem _ inside))
            (fun other inside => values other (List.mem_cons_of_mem _ inside)) proper
        refine ⟨.function defines declarations, ?_⟩
        rw [List.map_cons, restSame, Declaration.map, firstSame]
        rfl

/-- The symbol of a regular function that takes values is proper. -/
theorem proper_registeredSymbol {function : Function Node} (regular : function.Regular)
    (values : TakesValues function) : (registeredSymbol function).Proper := by
  refine ⟨(nomatch ·), fun _ => ⟨_, rfl, ?_, result_of_regular regular⟩⟩
  intro pair inside
  obtain ⟨param, member, rfl⟩ := List.mem_map.1 inside
  exact .inl (values param member)

/-- A checked program is well typed, and it is the one that was checked. -/
theorem yields_program (positive : 0 < limit) (depth : Depth) {tree : Lag.Program Node}
    (regular : tree.Regular) :
    Yields limit (Check.program depth tree) fun checked =>
      Typing.Program checked ∧ checked.map Mark.node = tree := by
  unfold Check.program
  refine .bind (yields_registerAll _ tree.declarations) fun registered => ?_
  have zipped : ∀ pair ∈ tree.declarations.zip registered.2, pair.1.Regular :=
    fun pair inside => regular pair.1 (List.of_mem_zip inside).1
  refine .bind (yields_declarations positive depth registered.1 _ zipped) fun checked => .pure ?_
  intro known registeredKnown
  obtain ⟨symbols, values, registers⟩ := registeredKnown regular
  have firsts : (tree.declarations.zip registered.2).map (·.1) = tree.declarations := by
    rw [symbols]
    exact List.map_fst_zip (by simp)
  have table : registered.1.Proper := by
    refine registers.proper (fun symbol inside => ?_) (SymbolTable.proper_initial.push _)
    obtain ⟨function, member, rfl⟩ := List.mem_map.1 inside
    exact proper_registeredSymbol (regular _ (mem_functionsOf.1 member)) (values _ member)
  have named : ∀ pair ∈ tree.declarations.zip registered.2, pair.2 = symbolFor pair.1 := by
    rw [symbols, zip_map_self]
    intro pair inside
    obtain ⟨declaration, _, rfl⟩ := List.mem_map.1 inside
    rfl
  obtain ⟨declarations, same⟩ := known named (by rw [firsts]; exact values) table
  rw [firsts] at same
  have whole : (⟨.bare tree.note, checked, tree.file⟩ : Lag.Program Mark).map Mark.node = tree := by
    simp only [Lag.Program.map, same]
    rfl
  refine ⟨.intro ?_ declarations, whole⟩
  have functions := Lag.Program.functions_map Mark.node ⟨.bare tree.note, checked, tree.file⟩
  rw [whole] at functions
  have composed : functionSymbol = registeredSymbol ∘ Function.map Mark.node :=
    funext functionSymbol_eq
  rw [composed, ← List.map_map, ← functions, ← functionsOf_declarations]
  exact registers

/-- A regular program that is checked without failures is well typed, and it is the program that
was checked, with notes on it. -/
theorem typed_of_run (positive : 0 < limit) {depth : Depth} {tree : Lag.Program Node}
    (regular : tree.Regular) {checked : Lag.Program Mark}
    (accepted : run depth limit tree = ⟨[], some checked⟩) :
    Typing.Program checked ∧ checked.map Mark.node = tree := by
  obtain ⟨_, _, holds⟩ := yields_program positive depth regular ⟨limit, #[]⟩ rfl
  unfold run at accepted
  generalize (Check.program depth tree).run ⟨limit, #[]⟩ = reached at accepted holds
  obtain ⟨found, journal⟩ := reached
  cases found with
  | none =>
    have failures := congrArg Result.failures accepted
    simp at failures
  | some program =>
    simp only [Result.mk.injEq, Array.toList_eq_nil_iff] at accepted
    obtain ⟨empty, same⟩ := accepted
    obtain rfl : program = checked := by simpa [empty] using same
    exact holds (by simp [empty]) program rfl

end Check

end Lag
