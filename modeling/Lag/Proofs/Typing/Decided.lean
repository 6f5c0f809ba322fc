import Lag.Proofs.Accepted
import Lag.Proofs.Grammar.Decided
import Lag.Proofs.Typing.Followed

/-!
# The check decides the typing rules

A check without a limit on its steps finds no failure in a program exactly if the typing rules
derive it. Then it notes on the program what the rules say, and nothing more.
-/
namespace Lag

namespace Check

open Typing

mutual

/-- The check of a statement finds out whether every path through it ends in a return. -/
theorem gives_alwaysLeaves : ∀ stmt : Stmt Node, Gives (alwaysLeaves none stmt) stmt.leaves
  | .leave _ _ => .bind (.descend 1) (.pure _)
  | .block _ body => .bind (.descend 3) (gives_someLeaves body)
  | .ifElse _ _ _ body otherwise => by
    have inside := gives_someLeaves body
    rw [Stmt.leaves]
    refine .bind (.descend 1) (.bind (.descend 3) (.bind inside ?_))
    cases Stmt.someLeaves body with
    | true => exact gives_alwaysLeaves otherwise
    | false => exact .pure _
  | .declare _ | .assign _ _ _ | .evaluate _ _ | .ifThen _ _ _ _ | .whileLoop _ _ _ _
  | .forLoop _ _ _ _ _ _ => .bind (.descend 1) (.pure _)

/-- The check of statements finds out whether one of them always ends in a return. -/
theorem gives_someLeaves :
    ∀ body : List (Stmt Node), Gives (someLeaves none body) (Stmt.someLeaves body)
  | [] => .pure _
  | stmt :: rest => by
    have first := gives_alwaysLeaves stmt
    rw [Stmt.someLeaves]
    refine .bind first ?_
    cases stmt.leaves with
    | true => exact .pure _
    | false => exact gives_someLeaves rest

end

/-- Parameters that a scope takes up hold values. -/
theorem values_of_params {table next : SymbolTable} {params : List (Param Mark)}
    (takes : Params table params next) : ∀ param ∈ params, param.type.type.isValue = true := by
  induction takes with
  | nil => exact fun _ inside => absurd inside List.not_mem_nil
  | cons value _ _ _ ih => exact List.forall_mem_cons.2 ⟨value, ih⟩

/-- The functions of well-typed declarations take values. -/
theorem values_of_declarations {table : SymbolTable} {declarations : List (Declaration Mark)}
    (typed : Declarations table declarations) :
    ∀ function ∈ functionsOf declarations, ∀ param ∈ function.params,
      param.type.type.isValue = true := by
  induction typed with
  | nil => exact fun _ inside => absurd inside List.not_mem_nil
  | function first _ ih =>
    obtain ⟨_, _, takes, _, _⟩ := first
    exact List.forall_mem_cons.2 ⟨values_of_params takes, ih⟩
  | binding _ _ ih => exact ih

/-- Parameters with room in the scope of a function are declared. -/
theorem gives_declareParams {table next : SymbolTable} {params : List (Param Mark)}
    (takes : Params table params next) :
    Gives (declareParams table (params.map fun param => (param.map Mark.node, param.type.type)))
      (next, params.map Param.trimmed) := by
  induction takes with
  | nil => exact .pure _
  | @cons table next last param rest value bound fresh _ ih =>
    have noted : param.note.ofDeclaration = .bound param.note.node (paramSymbol param) := by
      rw [Mark.ofDeclaration, bound]
      rfl
    unfold declareParams
    rw [List.map_cons, List.map_cons, Param.trimmed, noted]
    have defined : table.define? ⟨(param.map Mark.node).name, .parameter, param.type.type, true,
        false, some (param.map Mark.node).note.id, none⟩ = some next := fresh
    simp only [defined]
    exact .bind ih (.pure _)

/-- The types of parameters that hold values are those that are written. -/
theorem gives_paramTypes {params : List (Param Mark)}
    (values : ∀ param ∈ params, param.type.type.isValue = true) :
    Gives (paramTypes (params.map (Param.map Mark.node)))
      (params.map fun param => (param.name, param.type.type)) := by
  induction params with
  | nil => exact .pure _
  | cons param rest ih =>
    obtain ⟨value, others⟩ := List.forall_mem_cons.1 values
    exact .bind (gives_writtenType value _ _) (.bind (ih others) (.pure _))

/-- A function whose name is new is declared. -/
theorem gives_register {table next : SymbolTable} {function : Function Mark}
    (values : ∀ param ∈ function.params, param.type.type.isValue = true)
    (fresh : table.define? (functionSymbol function) = some next) :
    Gives (register table (function.map Mark.node)) (next, some (functionSymbol function)) := by
  have result : (function.map Mark.node).result.map (·.type) = function.result.map (·.type) := by
    simp only [Function.map, Option.map_map]
    rfl
  have fresh : table.define? ⟨function.name, .function, function.signature.type, false, true,
      some function.note.node.id, some function.signature⟩ = some next := fresh
  unfold Function.signature at fresh
  unfold register
  rw [result]
  refine .bind (gives_paramTypes values) ?_
  simp only [Function.map, fresh]
  exact .pure _

/-- The functions of a program are declared, whose names are new and which take values. -/
theorem gives_registerAll {declarations : List (Declaration Mark)} {table next : SymbolTable}
    (values : ∀ function ∈ functionsOf declarations, ∀ param ∈ function.params,
      param.type.type.isValue = true)
    (registers : Registers table ((functionsOf declarations).map functionSymbol) next) :
    Gives (registerAll table (declarations.map (Declaration.map Mark.node)))
      (next, (declarations.map (Declaration.map Mark.node)).map symbolFor) := by
  induction declarations generalizing table with
  | nil =>
    cases registers
    exact .pure _
  | cons declaration rest ih =>
    cases declaration with
    | binding declared => exact .bind (ih values registers) (.pure _)
    | function declared =>
      obtain ⟨first, others⟩ := List.forall_mem_cons.1 values
      cases registers with
      | cons fresh later =>
        have symbol : symbolFor (.function (declared.map Mark.node)) =
            some (functionSymbol declared) := by
          rw [functionSymbol_eq]
          rfl
        rw [List.map_cons, List.map_cons, Declaration.map, symbol]
        exact .bind (gives_register first fresh) (.bind (ih others later) (.pure _))

/-- A well-typed function passes its check. -/
theorem gives_function {table : SymbolTable} {function : Function Mark}
    (defines : Defines table function) :
    Gives (Check.function table none (function.map Mark.node) (functionSymbol function))
      function.trimmed := by
  obtain ⟨bound, _, takes, inside, returns⟩ := defines
  have zipped : (function.map Mark.node).params.zip (function.signature.params.map (·.2)) =
      function.params.map fun param => (param.map Mark.node, param.type.type) := by
    simp only [Function.map, Function.signature, List.map_map]
    exact List.zip_map'
  have noted : function.note.ofDeclaration =
      .bound function.note.node (functionSymbol function) := by
    rw [Mark.ofDeclaration, bound]
    rfl
  have signed : (functionSymbol function).signature.getD ⟨[], .void⟩ = function.signature := rfl
  have params := gives_declareParams takes
  rw [← zipped] at params
  have body := gives_stmts function.body inside
  unfold Check.function
  rw [signed]
  refine .bind (.descend 1) (.bind params (.bind (.descend 1) (.bind body ?_)))
  rw [Function.trimmed, noted, ← map_trimmed_type]
  split
  · rename_i valued
    have leaves := gives_someLeaves (function.map Mark.node).body
    rw [Function.map, Stmt.someLeaves_map, returns valued] at leaves
    exact .bind (.descend 3) (.bind leaves (.pure _))
  · exact .pure _

/-- Well-typed declarations pass their checks. -/
theorem gives_declarations {table : SymbolTable} {declarations : List (Declaration Mark)}
    (typed : Declarations table declarations) :
    Gives (Check.declarations none table (declarations.map fun declaration =>
        (declaration.map Mark.node, symbolFor (declaration.map Mark.node))))
      (declarations.map Declaration.trimmed) := by
  induction typed with
  | nil => exact .pure _
  | @function table declared rest first others ih =>
    have symbol : symbolFor (.function (declared.map Mark.node)) =
        some (functionSymbol declared) := by
      rw [functionSymbol_eq]
      rfl
    rw [List.map_cons, List.map_cons, Declaration.map, symbol]
    exact .unlessFull (.bind (gives_function first) (.bind ih (.pure _)))
  | binding first others ih =>
    exact .unlessFull (.bind (gives_binding first) (.bind ih (.pure _)))

/-- A well-typed program passes its check. -/
theorem gives_program {program : Lag.Program Mark} (typed : Typing.Program program) :
    Gives (Check.program none (program.map Mark.node)) program.trimmed := by
  obtain ⟨registered, declared⟩ := typed
  rw [← functionsOf_declarations] at registered
  have symbols := gives_registerAll (values_of_declarations declared) registered
  have declarations := gives_declarations declared
  refine .bind symbols (.bind ?_ (.pure _))
  rw [Lag.Program.map, zip_map_self, List.map_map]
  exact declarations

/-- The check of a well-typed program finds no failure, and notes what the rules say. -/
theorem run_of_typed {limit : Nat} (positive : 0 < limit) {program : Lag.Program Mark}
    (typed : Typing.Program program) :
    run none limit (program.map Mark.node) = ⟨[], some program.trimmed⟩ := by
  have room : Journal.full ⟨limit, #[]⟩ = false := by
    simpa [Journal.full, Nat.pos_iff_ne_zero] using positive
  unfold run
  rw [gives_program typed ⟨limit, #[]⟩ room]
  rfl

end Check

/-- A program that is read to some depth is regular. -/
theorem regular_of_ofTextWithin {depth : Nat} {source : String} {file : Option String}
    {tree : Program Node} (reads : Program.ofTextWithin depth source file = .ok tree) :
    tree.Regular := by
  obtain ⟨tokens, scanned, made⟩ := Program.ofTextWithin_eq_ok.1 reads
  exact (Parse.regular_of_ofTokens (Scan.sound_scan scanned) made).1

/-- The check of a program that is read, without a limit on its steps, decides the typing rules. It
finds no failure exactly if the rules derive the program with some notes on it, and then it notes
the types, the symbols and the conversions of the derivation, and nothing more. -/
theorem typing_decided {depth : Nat} {source : String} {file : Option String} {tree : Program Node}
    (reads : Program.ofTextWithin depth source file = .ok tree) {limit : Nat}
    (positive : 0 < limit) :
    ((Check.run none limit tree).failures = [] ↔
        ∃ program, Typing.Program program ∧ program.map Mark.node = tree) ∧
      ∀ program, Check.run none limit tree = ⟨[], some program⟩ ↔
        Typing.Program program ∧ program.trimmed = program ∧ program.map Mark.node = tree := by
  have regular := regular_of_ofTextWithin reads
  refine ⟨⟨fun clean => ?_, ?_⟩, fun program => ⟨fun accepted => ?_, ?_⟩⟩
  · obtain ⟨program, accepted⟩ := Check.run_of_clean clean
    exact ⟨program, Check.typed_of_run positive regular accepted⟩
  · rintro ⟨program, typed, rfl⟩
    rw [Check.run_of_typed positive typed]
  · obtain ⟨typed, rfl⟩ := Check.typed_of_run positive regular accepted
    rw [Check.run_of_typed positive typed] at accepted
    simp only [Check.Result.mk.injEq, Option.some.injEq, true_and] at accepted
    exact ⟨typed, accepted, rfl⟩
  · rintro ⟨typed, trimmed, rfl⟩
    rw [Check.run_of_typed positive typed, trimmed]

/-- A variable hides a parameter, and an argument and a result are converted. -/
theorem typing_decided_converted : ∃ (tree : Program Node) (program : Program Mark),
    Program.ofTextWithin 100
        "fn f(x: float) -> float { let x = x / 2; return 1; } let y = f(3);" none = .ok tree ∧
      (0 < 1 ∧ (Check.run none 1 tree).failures = []) ∧
      Typing.Program program ∧ program.trimmed = program ∧ program.map Mark.node = tree := by
  obtain ⟨tree, reads, passes⟩ : ∃ tree, Program.ofTextWithin 100
        "fn f(x: float) -> float { let x = x / 2; return 1; } let y = f(3);" none = .ok tree ∧
      (Check.run none 1 tree).failures.isEmpty = true :=
    Program.exists_ofTextWithin rfl (by decide +kernel)
  have clean : (Check.run none 1 tree).failures = [] := List.isEmpty_iff.1 passes
  obtain ⟨program, accepted⟩ := Check.run_of_clean clean
  exact ⟨tree, program, reads, ⟨Nat.one_pos, clean⟩,
    ((typing_decided reads Nat.one_pos).2 program).1 accepted⟩

end Lag
