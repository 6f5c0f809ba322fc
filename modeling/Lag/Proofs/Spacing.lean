import Lag.Proofs.Accepted
import Lag.Proofs.Token.Gaps
import Lag.Proofs.Typing.Moved

/-!
# Source texts with other gaps

The gaps between the tokens of a source text do not matter. Of a text that is accepted the tokens
may be put together with any other gaps: the new text has the same tokens, is read as the same tree,
passes the check and is translated to the same module. All that the gaps decide are places, and
places only go into diagnostics: lowering looks at no place, as reading and checking do.
-/
namespace Lag

/-- A node without its place. -/
def Node.unplaced (node : Node) : Node := { node with span := {} }

section Lowering

variable (move : Source.Span → Source.Span)

/-- The place of an expression does not decide whether it is an integer. -/
theorem Expr.isInt_moved (expr : Expr Mark) : (expr.map (Mark.moved move)).isInt = expr.isInt := by
  rw [Expr.isInt, Expr.isInt, Expr.note_map]
  rfl

mutual

/-- A moved expression is lowered as before. -/
theorem Expr.lower_moved (names : Host.Names) : ∀ expr : Expr Mark,
    (expr.map (Mark.moved move)).lower names = expr.lower names
  | .literal _ _ _ | .read _ => rfl
  | .unary mark .not operand | .unary mark .negate operand => by
    rw [Expr.map, Expr.lower, Expr.lower, operand.lower_moved]
    rfl
  | .binary mark op left right => by
    rw [Expr.map, Expr.lower, Expr.lower, left.lower_moved, right.lower_moved, Expr.isInt_moved,
      Expr.isInt_moved]
    rfl
  | .call mark callee arguments => by
    rw [Expr.map, Expr.lower, Expr.lower, Expr.lowerAll_moved names arguments]
    rfl

/-- Moved expressions are lowered as before. -/
theorem Expr.lowerAll_moved (names : Host.Names) : ∀ exprs : List (Expr Mark),
    Expr.lowerAll names (Expr.mapAll (Mark.moved move) exprs) = Expr.lowerAll names exprs
  | [] => rfl
  | expr :: rest => by
    rw [Expr.mapAll, Expr.lowerAll, Expr.lowerAll, expr.lower_moved, Expr.lowerAll_moved names rest]

end

mutual

/-- A moved statement is lowered as before. -/
theorem Stmt.lower_moved (names : Host.Names) : ∀ stmt : Stmt Mark,
    (stmt.map (Mark.moved move)).lower names = stmt.lower names
  | .declare binding => by
    rw [Stmt.map, Stmt.lower, Stmt.lower, Binding.map, Expr.lower_moved]
    rfl
  | .assign _ target value => by
    rw [Stmt.map, Stmt.lower, Stmt.lower, Expr.lower_moved]
    rfl
  | .leave _ none => rfl
  | .leave _ (some value) => by
    rw [Stmt.map, Option.map_some, Stmt.lower, Stmt.lower, Option.map_some, Expr.lower_moved]
    rfl
  | .evaluate _ value => by
    rw [Stmt.map, Stmt.lower, Stmt.lower, Expr.lower_moved]
  | .block _ body => by
    rw [Stmt.map, Stmt.lower, Stmt.lower, Stmt.lowerAll_moved names body]
  | .ifThen _ test _ body => by
    rw [Stmt.map, Stmt.lower, Stmt.lower, Expr.lower_moved, Stmt.lowerAll_moved names body]
  | .ifElse _ test _ body otherwise => by
    have inside := Stmt.lowerAll_moved names body
    have other := otherwise.lower_moved names
    cases otherwise with
    | block _ further =>
      rw [Stmt.map, Stmt.lower, Stmt.lower] at other
      rw [Stmt.map, Stmt.map, Stmt.lower, Stmt.lower, Expr.lower_moved, inside, other]
    | _ =>
      rw [Stmt.map, Stmt.lower, Stmt.lower, Expr.lower_moved, inside, other]
      · rintro _ _ ⟨⟩
      · rw [Stmt.map]
        rintro _ _ ⟨⟩
  | .whileLoop _ test _ body => by
    rw [Stmt.map, Stmt.lower, Stmt.lower, Expr.lower_moved, Stmt.lowerAll_moved names body]
  | .forLoop mark counter first bound _ body => by
    rw [Stmt.map, Stmt.lower, Stmt.lower, Expr.lower_moved, Expr.lower_moved,
      Stmt.lowerAll_moved names body]
    rfl

/-- Moved statements are lowered as before. -/
theorem Stmt.lowerAll_moved (names : Host.Names) : ∀ body : List (Stmt Mark),
    Stmt.lowerAll names (Stmt.mapAll (Mark.moved move) body) = Stmt.lowerAll names body
  | [] => rfl
  | stmt :: rest => by
    rw [Stmt.mapAll, Stmt.lowerAll, Stmt.lowerAll, stmt.lower_moved, Stmt.lowerAll_moved names rest]

end

mutual

/-- A moved statement assigns to the same variables of the module. -/
theorem Stmt.assigned_moved (names : Host.Names) : ∀ stmt : Stmt Mark,
    (stmt.map (Mark.moved move)).assigned names = stmt.assigned names
  | .assign _ _ _ | .declare _ | .leave _ _ | .evaluate _ _ => rfl
  | .block _ body | .ifThen _ _ _ body | .whileLoop _ _ _ body | .forLoop _ _ _ _ _ body => by
    rw [Stmt.map, Stmt.assigned, Stmt.assigned, Stmt.assignedAll_moved names body]
  | .ifElse _ _ _ body otherwise => by
    rw [Stmt.map, Stmt.assigned, Stmt.assigned, Stmt.assignedAll_moved names body,
      otherwise.assigned_moved]

/-- Moved statements assign to the same variables of the module. -/
theorem Stmt.assignedAll_moved (names : Host.Names) : ∀ body : List (Stmt Mark),
    Stmt.assignedAll names (Stmt.mapAll (Mark.moved move) body) = Stmt.assignedAll names body
  | [] => rfl
  | stmt :: rest => by
    rw [Stmt.mapAll, Stmt.assignedAll, Stmt.assignedAll, stmt.assigned_moved,
      Stmt.assignedAll_moved names rest]

end

mutual

/-- A moved statement declares the same symbols. -/
theorem Host.declared_moved : ∀ stmt : Lag.Stmt Mark,
    declared (stmt.map (Mark.moved move)) = declared stmt
  | .assign _ _ _ | .declare _ | .leave _ _ | .evaluate _ _ => rfl
  | .block _ body | .ifThen _ _ _ body | .whileLoop _ _ _ body => by
    rw [Stmt.map, declared, declared, Host.declaredAll_moved body]
  | .forLoop _ _ _ _ _ body => by
    rw [Stmt.map, declared, declared, Host.declaredAll_moved body]
    rfl
  | .ifElse _ _ _ body otherwise => by
    rw [Stmt.map, declared, declared, Host.declaredAll_moved body, Host.declared_moved otherwise]

/-- Moved statements declare the same symbols. -/
theorem Host.declaredAll_moved : ∀ body : List (Lag.Stmt Mark),
    declaredAll (Stmt.mapAll (Mark.moved move) body) = declaredAll body
  | [] => rfl
  | stmt :: rest => by
    rw [Stmt.mapAll, declaredAll, declaredAll, Host.declared_moved stmt,
      Host.declaredAll_moved rest]

end

/-- The variables of a program whose notes are changed. -/
theorem Program.bindings_map {α β : Type} (f : α → β) (program : Program α) :
    (program.map f).bindings = program.bindings.map (Binding.map f) := by
  simp only [Program.bindings, Program.map, List.filterMap_map, List.map_filterMap]
  congr 1
  funext declaration
  cases declaration <;> rfl

/-- The symbols of a moved program have the same names. -/
theorem Host.names_moved (program : Lag.Program Mark) :
    Names.ofProgram (program.map (Mark.moved move)) = Names.ofProgram program := by
  have declarations : ∀ declaration : Lag.Declaration Mark,
      declaredBy (declaration.map (Mark.moved move)) = declaredBy declaration := by
    rintro (declared | declared) <;> rfl
  have functions : ∀ function : Lag.Function Mark,
      declaredIn (function.map (Mark.moved move)) = declaredIn function := by
    intro function
    rw [declaredIn, declaredIn, Function.map, Host.declaredAll_moved, List.flatMap_map]
    rfl
  have symbols : symbolsOf (program.map (Mark.moved move)) = symbolsOf program := by
    rw [symbolsOf, symbolsOf, Program.functions_map, List.flatMap_map]
    simp only [Program.map, List.flatMap_map, declarations, functions]
  rw [Names.ofProgram, Names.ofProgram, symbols]

/-- A moved function is lowered as before. -/
theorem Function.lower_moved (names : Host.Names) (function : Function Mark) :
    (function.map (Mark.moved move)).lower names = function.lower names := by
  simp only [Function.lower, Function.map, Stmt.lowerAll_moved, Stmt.assignedAll_moved,
    List.map_map]
  rfl

/-- A moved program is lowered as before. -/
theorem Program.lowerAs_moved (title : String) (program : Program Mark) :
    (program.map (Mark.moved move)).lowerAs title = program.lowerAs title := by
  simp only [Program.lowerAs, Host.names_moved, Program.functions_map, Program.bindings_map,
    List.map_map, Function.comp_def, Function.lower_moved, Binding.map, Expr.lower_moved]
  rfl

mutual

/-- A moved expression takes as many steps. -/
theorem Expr.steps_moved : ∀ (inner : Bool) (expr : Expr Mark),
    (expr.map (Mark.moved move)).steps inner = expr.steps inner
  | _, .literal _ _ _ | _, .read _ => rfl
  | _, .unary _ _ operand => by
    rw [Expr.map, Expr.steps, Expr.steps, Expr.steps_moved false operand]
  | _, .binary _ _ left right => by
    rw [Expr.map, Expr.steps, Expr.steps, Expr.steps_moved true left, Expr.steps_moved false right]
    rfl
  | _, .call _ _ arguments => by
    rw [Expr.map, Expr.steps, Expr.steps, Expr.stepsAll_moved arguments]

/-- Moved expressions take as many steps. -/
theorem Expr.stepsAll_moved : ∀ exprs : List (Expr Mark),
    Expr.stepsAll (Expr.mapAll (Mark.moved move) exprs) = Expr.stepsAll exprs
  | [] => rfl
  | expr :: rest => by
    rw [Expr.mapAll, Expr.stepsAll, Expr.stepsAll, Expr.steps_moved false expr,
      Expr.stepsAll_moved rest]

end

mutual

/-- A moved statement takes as many steps. -/
theorem Stmt.steps_moved : ∀ (further : Bool) (stmt : Stmt Mark),
    (stmt.map (Mark.moved move)).steps further = stmt.steps further
  | _, .leave _ none => rfl
  | _, .declare _ | _, .assign _ _ _ | _, .leave _ (some _) | _, .evaluate _ _ => by
    simp only [Stmt.map, Option.map_some, Stmt.steps, Binding.map, Expr.steps_moved]
  | _, .block _ body | _, .ifThen _ _ _ body | _, .whileLoop _ _ _ body
  | _, .forLoop _ _ _ _ _ body => by
    simp only [Stmt.map, Stmt.steps, Expr.steps_moved, Stmt.stepsAll_moved body]
  | _, .ifElse _ _ _ body otherwise => by
    simp only [Stmt.map, Stmt.steps, Expr.steps_moved, Stmt.stepsAll_moved body,
      Stmt.steps_moved true otherwise]

/-- Moved statements take as many steps. -/
theorem Stmt.stepsAll_moved : ∀ body : List (Stmt Mark),
    Stmt.stepsAll (Stmt.mapAll (Mark.moved move) body) = Stmt.stepsAll body
  | [] => rfl
  | stmt :: rest => by
    rw [Stmt.mapAll, Stmt.stepsAll, Stmt.stepsAll, Stmt.steps_moved false stmt,
      Stmt.stepsAll_moved rest]

end

/-- A moved program takes as many steps. -/
theorem Program.steps_moved (program : Program Mark) :
    (program.map (Mark.moved move)).steps = program.steps := by
  have each : ∀ declaration : Declaration Mark,
      (declaration.map (Mark.moved move)).steps = declaration.steps := by
    rintro (declared | declared)
    · simp only [Declaration.map, Declaration.steps, Function.map, Stmt.stepsAll_moved]
    · simp only [Declaration.map, Declaration.steps, Binding.map, Expr.steps_moved]
  simp only [Program.steps, Program.map, List.map_map, Function.comp_def, each]

/-- A moved program is lowered as before. -/
theorem Program.lower?_moved (title : String) (program : Program Mark) :
    (program.map (Mark.moved move)).lower? title = program.lower? title := by
  rw [Program.lower?, Program.lower?, Program.steps_moved, Program.lowerAs_moved]

end Lowering

/-- A place that is nowhere. -/
def nowhere : Source.Span → Source.Span := fun _ => {}

/-- Nowhere starts and ends nowhere. -/
theorem joins_nowhere : Parse.Joins nowhere := fun _ _ => rfl

/-- Tokens that are the same up to their places are read as trees that are the same up to places. -/
theorem Parse.ofTokens_unplaced {depth : Nat} {file : Option String} {tokens others : List Token}
    (same : others.map Token.unplaced = tokens.map Token.unplaced) (some : tokens ≠ [])
    {tree : Program Node} (reads : ofTokens depth file tokens = .ok tree) :
    ∃ other, ofTokens depth file others = .ok other ∧
      other.map Node.unplaced = tree.map Node.unplaced := by
  have otherSome : others ≠ [] := by
    rintro rfl
    exact some (List.map_eq_nil_iff.1 same.symm)
  have first := ofTokens_moved joins_nowhere depth file some
  have second := ofTokens_moved joins_nowhere depth file otherSome
  have moved : others.map (Token.moved nowhere) = tokens.map (Token.moved nowhere) := same
  rw [moved, first, reads] at second
  cases given : ofTokens depth file others with
  | error error =>
    rw [given] at second
    cases second
  | ok other =>
    rw [given] at second
    exact ⟨other, rfl, (Except.ok.inj second).symm⟩

/-- Trees that are the same up to places pass the check alike and are lowered to the same module. -/
theorem lowered_of_unplaced {tree other : Program Node}
    (same : other.map Node.unplaced = tree.map Node.unplaced) {limit : Nat}
    {checked : Program Mark} (passes : tree.check limit = ⟨[], some checked⟩) (title : String) :
    ∃ otherChecked, other.check limit = ⟨[], some otherChecked⟩ ∧
      otherChecked.lower? title = checked.lower? title := by
  have first := tree.check_moved nowhere limit
  have second := other.check_moved nowhere limit
  have moved : other.map (Node.moved nowhere) = tree.map (Node.moved nowhere) := same
  rw [moved, first, passes] at second
  obtain ⟨failures, notes⟩ := Check.Result.mk.inj second
  have clean : (other.check limit).failures = [] := List.map_eq_nil_iff.1 failures.symm
  obtain ⟨otherChecked, given⟩ := Check.run_of_clean clean
  have otherPasses : other.check limit = ⟨[], some otherChecked⟩ := given
  rw [otherPasses] at notes
  have notesSame : otherChecked.map (Mark.moved nowhere) = checked.map (Mark.moved nowhere) :=
    (Option.some.inj notes).symm
  refine ⟨otherChecked, otherPasses, ?_⟩
  rw [← Program.lower?_moved nowhere title otherChecked, notesSame,
    Program.lower?_moved nowhere title checked]

/-- A text is translated to a module exactly if it is read as a program that passes the check and is
lowered to the module. -/
theorem translate_eq_ok {source title : String} {file : Option String} {limit : Nat}
    {module : Host.Module} : translate source title file limit = .ok module ↔
      ∃ tree checked, Program.ofText source file = .ok tree ∧
        tree.check limit = ⟨[], some checked⟩ ∧ checked.lower? title = some module := by
  unfold translate readProgram
  cases Program.ofText source file with
  | error error => simp
  | ok tree =>
    dsimp only
    cases checks : checkProgram tree limit (Text.linesOf source) with
    | error fault =>
      have refused : ∀ checked, tree.check limit ≠ ⟨[], some checked⟩ := by
        intro checked passes
        rw [checkProgram_eq_ok.2 passes] at checks
        cases checks
      simp [refused]
    | ok checked =>
      have passes := checkProgram_eq_ok.1 checks
      have lowers : lowerProgram checked title = .ok module ↔
          checked.lower? title = some module := by
        unfold lowerProgram
        cases checked.lower? title <;> simp
      simp [passes, lowers]

/-- No program ends with a sign of division. -/
theorem Parse.apart_of_ofTokens {depth : Nat} {source : String} {file : Option String}
    {tokens : List Token} {tree : Program Node}
    (scanned : Scan.scan source file = (tokens, none))
    (read : ofTokens depth file tokens = .ok tree) :
    ∀ last ∈ tokens.dropLast.getLast?, last.kind ≠ .slash := by
  obtain ⟨program, writes, _⟩ := writes_of_ofTokens scanned read
  cases writes with
  | upToEnd declarations _ =>
    rw [List.dropLast_concat]
    intro last inside
    rcases Grammar.last_of_declarations declarations last inside with is | is <;> simp [is]

/-- Of a text that is accepted the tokens may be put together with any other gaps, those between two
tokens starting with a blank character: the new text has the same tokens up to places, is read as
the same tree up to places, passes the check, and is translated to the same module. -/
theorem translate_respaced {source title : String} {file : Option String} {limit : Nat}
    {module : Host.Module} (accepted : translate source title file limit = .ok module)
    {gaps : List (List Char)} (spaces : Scan.Spaces gaps (Scan.scan source file).1) :
    let respaced := String.ofList (Scan.weave gaps (Scan.scan source file).1)
    (∃ tokens, Scan.scan respaced file = (tokens, none) ∧
      tokens.map Token.unplaced = (Scan.scan source file).1.map Token.unplaced) ∧
    (∃ tree other checked, Program.ofText source file = .ok tree ∧
      Program.ofText respaced file = .ok other ∧
      other.map Node.unplaced = tree.map Node.unplaced ∧
      other.check limit = ⟨[], some checked⟩) ∧
    translate respaced title file limit = .ok module := by
  obtain ⟨tree, checked, read, passes, lowered⟩ := translate_eq_ok.1 accepted
  obtain ⟨tokens, scanned, made⟩ := Program.ofText_eq_ok.1 read
  obtain ⟨inner, final, complete⟩ := Scan.complete_scan scanned
  have some : tokens ≠ [] := by simp [complete.split]
  rw [scanned] at spaces ⊢
  intro respaced
  obtain ⟨others, scans, sameTokens⟩ :=
    Scan.scan_weave scanned (Parse.apart_of_ofTokens scanned made) spaces
  obtain ⟨other, otherMade, sameTree⟩ := Parse.ofTokens_unplaced sameTokens some made
  obtain ⟨otherChecked, otherPasses, sameModule⟩ := lowered_of_unplaced sameTree passes title
  have otherRead := Program.ofText_eq_ok.2 ⟨others, scans, otherMade⟩
  refine ⟨⟨others, scans, sameTokens⟩, ?_, ?_⟩
  · exact ⟨tree, other, otherChecked, read, otherRead, sameTree, otherPasses⟩
  · exact translate_eq_ok.2 ⟨other, otherChecked, otherRead, otherPasses, sameModule.trans lowered⟩

/-- A loop without any gap that it can do without. A bound of it ends before two points, and the
text in it looks like the start of a comment. -/
def crowded : String := "fn f()\x7bfor i in 0..9\x7bprint(\"/*\");\x7d\x7d"

/-- A comment in brackets, with another one, a quote and stars in it. -/
def remark : List Char := '/' :: '*' :: ([' ', '/', '*', '\x22', '*', '/', '*', '*', '/'] ++ [])

/-- A blank character, the comment in brackets, and a comment to the end of its line. -/
def roomy : List Char := '\n' :: (remark ++ '/' :: '/' :: (['-'] ++ ['\n', '\t']))

/-- The loop may be written without a gap before it, with the long gap between its tokens, and with
a comment right after it. -/
theorem translate_respaced_loop : ∃ module, translate crowded "a" none 20 = .ok module ∧
    translate (String.ofList (Scan.weave ([] :: (List.replicate 18 roomy ++ [remark]))
      (Scan.scan crowded none).1)) "a" none 20 = .ok module := by
  have inner : Scan.Comment ['\x22', '*', '/'] := .other (by decide) (by decide) .close
  have rest : Scan.Comment ['*', '*', '/'] := .other (by decide) (by decide) .close
  have comment : Scan.Comment [' ', '/', '*', '\x22', '*', '/', '*', '*', '/'] :=
    .other (by decide) (by decide) (.nested inner rest)
  have remarks : Scan.Gap remark := .comment comment .none
  have separates : Scan.Separator roomy :=
    .mk rfl (.comment comment (.line (by decide) (.blank rfl .none)))
  have spaces : Scan.Spaces ([] :: (List.replicate 18 roomy ++ [remark]))
      (Scan.scan crowded none).1 := by
    refine ⟨by decide +kernel, fun gap inside => ?_, fun gap inside => ?_⟩
    · rcases List.mem_cons.1 inside with rfl | inside
      · exact .none
      · rcases List.mem_append.1 inside with long | last
        · exact List.eq_of_mem_replicate long ▸ separates.gap
        · exact List.mem_singleton.1 last ▸ remarks
    · rw [List.tail_cons, List.dropLast_concat] at inside
      exact List.eq_of_mem_replicate inside ▸ separates
  obtain ⟨module, accepted⟩ : ∃ module, translate crowded "a" none 20 = .ok module := by
    have passes : (translate crowded "a" none 20).isOk = true := by decide +kernel
    cases given : translate crowded "a" none 20 with
    | ok module => exact ⟨module, rfl⟩
    | error fault => simp [given, Except.isOk, Except.toBool] at passes
  exact ⟨module, accepted, (translate_respaced accepted spaces).2.2⟩

end Lag
