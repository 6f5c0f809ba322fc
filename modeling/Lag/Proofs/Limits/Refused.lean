import Lag.Proofs.Limits.Lines

/-!
# Modules that the host refuses

The text of a module is what its pieces say, line by line. A module whose names are names of the
host, and whose parameters are told apart from each other and from the variables of the module, is
refused exactly if its text does not stay within the limits of the host, or if the host runs out of
memory when it reads the text.
-/
namespace Lag.Host

/-! ## Pieces -/

namespace Piece

@[simp] theorem join_nil : join [] = "" := rfl

@[simp] theorem join_cons (piece : Piece) (rest : List Piece) :
    join (piece :: rest) = piece.text ++ join rest := by
  simp [join, String.join_cons]

theorem join_single (text : String) (rules : Nat) : join [⟨text, rules⟩] = text := by simp

@[simp] theorem join_append (first second : List Piece) :
    join (first ++ second) = join first ++ join second := by
  induction first with
  | nil => simp
  | cons piece rest ih => simp [ih, String.append_assoc]

end Piece

/-- An operand is enclosed in parentheses as it is written. -/
@[simp] theorem join_enclose (minimum level : Level) (reading : Reading) (pieces : List Piece) :
    Piece.join (enclose minimum level reading pieces) =
      atLevel minimum level (Piece.join pieces) := by
  unfold enclose atLevel
  split <;> simp [String.append_assoc]

/-- The pieces of a function up to its arguments make up its text. -/
@[simp] theorem join_openCall (reading : Reading) (function : String) :
    Piece.join (openCall reading function) = function ++ "(" := by
  simp [openCall]

/-- The pieces around the argument of a built-in function make up the text of the call. -/
theorem join_builtin (reading : Reading) (function : Builtin) (argument : String) :
    Piece.join (builtinOpening reading function) ++ argument ++ builtinClosing function =
      builtinText function [argument] := by
  cases function with
  | print =>
    have opening : Piece.join (builtinOpening reading .print) =
        "_lag_logger.info('%s', _lag_str(" := rfl
    rw [opening]
    rfl
  | _ =>
    rw [builtinOpening, join_openCall]
    rfl

mutual

/-- The pieces of an expression make up its text. -/
theorem Expr.join_pieces (reading : Reading) : ∀ expr : Expr,
    Piece.join (expr.pieces reading) = expr.toText
  | .int _ | .float _ | .text _ | .truth _ | .read _ => by
    simp [Expr.pieces, Expr.toText, Expr.spine, continueText]
  | .not operand | .negate operand => by
    simp [Expr.pieces, Expr.toText, Expr.spine, continueText, Expr.join_pieces _ operand]
  | .binary op left right => by
    simp [Expr.pieces, Expr.toText_binary, Expr.join_pieces _ left, Expr.join_pieces _ right,
      String.append_assoc]
  | .call function [] => by
    simp [Expr.pieces, Expr.toText, Expr.spine, continueText, Expr.texts, String.append_assoc]
  | .call function (first :: others) => by
    have texts := Expr.join_piecesAll (.inside (reading.lead + argumentRules)) first.toText others
    simp only [Expr.pieces, Expr.toText, Expr.spine, continueText, Expr.texts]
    rw [← Expr.toText, ← texts]
    simp [Expr.join_pieces _ first, String.append_assoc]
  | .builtin function [] => by
    simp only [Expr.pieces, Expr.headPieces, Piece.join_append, Piece.join_nil, Piece.join_single]
    rw [join_builtin]
    rfl
  | .builtin function (first :: others) => by
    simp only [Expr.pieces, Expr.headPieces, Piece.join_append, Piece.join_single]
    rw [Expr.join_pieces _ first, join_builtin]
    rfl
  | .toFloat value => by
    simp [Expr.pieces, Expr.toText, Expr.spine, continueText, Expr.join_pieces _ value,
      String.append_assoc]

/-- The pieces of the arguments after the first one make up their texts. -/
theorem Expr.join_piecesAll (reading : Reading) (first : String) : ∀ exprs : List Expr,
    first ++ Piece.join (Expr.piecesAll reading exprs) =
      ", ".intercalate (first :: Expr.texts exprs)
  | [] => by simp [Expr.piecesAll, Expr.texts]
  | expr :: rest => by
    have others := Expr.join_piecesAll reading expr.toText rest
    simp only [Expr.piecesAll, Expr.texts]
    rw [String.intercalate_cons_cons, ← Expr.toText, ← others]
    simp [Expr.join_pieces reading expr, String.append_assoc]

end

/-- The pieces of lines that make up their texts. -/
def Spells (pieces : List (List Piece)) (lines : List Line) : Prop :=
  pieces.map Piece.join = lines.map (·.text)

namespace Spells

/-- Lines one after the other. -/
theorem append {pieces others : List (List Piece)} {lines rest : List Line}
    (first : Spells pieces lines) (second : Spells others rest) :
    Spells (pieces ++ others) (lines ++ rest) := by
  rw [Spells, List.map_append, List.map_append, first, second]

/-- A line in front of others. -/
theorem cons {pieces : List Piece} {others : List (List Piece)} {line : Line} {rest : List Line}
    (first : Piece.join pieces = line.text) (second : Spells others rest) :
    Spells (pieces :: others) (line :: rest) := by
  rw [Spells, List.map_cons, List.map_cons, first, second]

/-- No lines. -/
theorem nil : Spells [] [] := rfl

/-- There are as many lists of pieces as lines. -/
theorem length_eq {pieces : List (List Piece)} {lines : List Line} (spells : Spells pieces lines) :
    pieces.length = lines.length := by
  simpa using congrArg List.length spells

/-- A body that is never empty. -/
theorem suite {pieces : List (List Piece)} {lines : List Line} (spells : Spells pieces lines)
    (rules level : Nat) : Spells (suitePieces rules pieces) (Host.suite level lines) := by
  have size := spells.length_eq
  unfold suitePieces Host.suite
  cases pieces with
  | nil =>
    obtain rfl := List.eq_nil_of_length_eq_zero size.symm
    exact cons (Piece.join_single _ _) nil
  | cons first others =>
    cases lines with
    | nil => cases size
    | cons line rest => exact spells

/-- Lines in which few rules are under way. -/
theorem plain (lines : List Line) : Spells (plainPieces lines) lines := by
  simp [Spells, plainPieces]

end Spells

/-- The pieces of an assignment make up its text. -/
theorem join_assignPieces (rules : Nat) (name : String) (value : Expr) :
    Piece.join (assignPieces rules name value) = name ++ " = " ++ value.toText := by
  simp [assignPieces, Expr.join_pieces, String.append_assoc]

/-- The pieces of a test make up its text. -/
theorem join_testPieces (word : String) (rules : Nat) (test : Expr) :
    Piece.join (testPieces word rules test) = word ++ " " ++ test.toText ++ ":" := by
  simp [testPieces, Expr.join_pieces, String.append_assoc]

mutual

/-- The pieces of the lines of a statement make up their texts. -/
theorem Stmt.spells (word : String) (rules level loops : Nat) : ∀ stmt : Stmt,
    Spells (stmt.pieces word rules) (stmt.lines word level loops)
  | .assign name value => .cons (join_assignPieces rules name value) .nil
  | .evaluate value => .cons (Expr.join_pieces _ value) .nil
  | .leave none => .cons (Piece.join_single _ _) .nil
  | .leave (some value) => .cons (by simp [Expr.join_pieces]) .nil
  | .ifThen test body =>
    .cons (join_testPieces word rules test) ((Stmt.spellsAll _ _ _ body).suite _ _)
  | .ifElse test body otherwise => by
    have holds := (Stmt.spellsAll (rules + 6) (level + 1) loops body).suite (rules + 6) (level + 1)
    have fails := (Stmt.spellsAll (rules + 7) (level + 1) loops otherwise).suite (rules + 7)
      (level + 1)
    exact (Spells.cons (join_testPieces word rules test) holds).append
      (.cons (Piece.join_single _ _) fails)
  | .ifElif test body otherwise => by
    have holds := (Stmt.spellsAll (rules + 6) (level + 1) loops body).suite (rules + 6) (level + 1)
    exact (Spells.cons (join_testPieces word rules test) holds).append
      (Stmt.spells "elif" (rules + 1) level loops otherwise)
  | .whileLoop test body =>
    .cons (join_testPieces "while" rules test) ((Stmt.spellsAll _ _ _ body).suite _ _)
  | .forLoop counter first bound body =>
    .cons (by simp [Expr.join_pieces, String.append_assoc])
      ((Stmt.spellsAll _ _ _ body).suite _ _)

/-- The pieces of the lines of statements make up their texts. -/
theorem Stmt.spellsAll (rules level loops : Nat) : ∀ body : List Stmt,
    Spells (Stmt.piecesAll rules body) (Stmt.linesAll level loops body)
  | [] => .nil
  | stmt :: rest =>
    (Stmt.spells "if" rules level loops stmt).append (Stmt.spellsAll rules level loops rest)

end

/-- The pieces of a function make up its text. -/
theorem Function.spells (function : Function) : Spells function.pieces function.lines := by
  have body := (Stmt.spellsAll bodyRules 1 0 function.body).suite bodyRules 1
  exact .cons (Piece.join_single _ _) ((Spells.plain (globalLine function.globals)).append body)

/-- The pieces of a module make up its text. -/
theorem Module.spells (program : Module) : Spells program.pieces program.lines := by
  have functions : ∀ functions : List (String × Function),
      Spells (functions.flatMap fun entry => plainPieces [blank, blank] ++ entry.2.pieces)
        (functions.flatMap fun entry => blank :: blank :: entry.2.lines) := by
    intro functions
    induction functions with
    | nil => exact .nil
    | cons entry rest ih =>
      exact ((Spells.plain [blank, blank]).append entry.2.spells).append ih
  have firsts : Spells (initialPieces program.firsts) (initialLines program.firsts) := by
    refine .cons (Piece.join_single _ _) ((Spells.plain _).append (Spells.suite ?_ _ _))
    simp [Spells, join_assignPieces]
  have spells := ((((Spells.plain (prelude program.title)).append (functions program.functions)).append
    (Spells.plain [blank, blank])).append firsts).append
      (Spells.plain (blank :: blank :: exportLines program.functions))
  have lines : program.lines = prelude program.title ++
      (program.functions.flatMap fun entry => blank :: blank :: entry.2.lines) ++
      [blank, blank] ++ initialLines program.firsts ++
      (blank :: blank :: exportLines program.functions) := by
    rw [List.append_assoc _ [blank, blank]]
    rfl
  rw [lines]
  exact spells

/-! ## Limits -/

/-- A module whose text stays within the limits of the host. -/
structure Module.WithinLimits (program : Module) : Prop where
  /-- No line is indented too far. -/
  indentation : ∀ line ∈ program.lines, line.level < indentationLimit
  /-- No line has too many parentheses open at once. -/
  parentheses : ∀ line ∈ program.lines, line.parentheses ≤ parenthesesLimit
  /-- No loop is inside too many others. -/
  loops : ∀ line ∈ program.lines, line.loops ≤ loopLimit
  /-- The tree is not too deep. -/
  depth : program.depth ≤ treeLimit

/-- A module in whose text there are never too many rules of the grammar under way. -/
def Module.WithinStack (program : Module) : Prop :=
  ∀ pieces ∈ program.pieces, ∀ piece ∈ pieces, piece.rules ≤ stackLimit

/-- A module whose functions tell their parameters apart: they have different names, and none that
the function lists as one of the module. -/
def Module.TellsParams (program : Module) : Prop :=
  ∀ entry ∈ program.functions, (entry.2.params.map Text.foldText).Nodup ∧
    ∀ name ∈ entry.2.globals.map Text.foldText, name ∉ entry.2.params.map Text.foldText

/-! ## Lines -/

/-- Nothing is refused exactly if everything in a list holds what keeps it from being refused. -/
theorem firstRefused?_eq_none_iff {α : Type} {test : Nat → α → Option Refused} {holds : α → Prop} :
    ∀ {lines : List α} {number : Nat},
      (∀ line ∈ lines, ∀ place, test place line = none ↔ holds line) →
        (firstRefused? test number lines = none ↔ ∀ line ∈ lines, holds line)
  | [], number, _ => by simp [firstRefused?]
  | line :: rest, number, fits => by
    obtain ⟨here, later⟩ := List.forall_mem_cons.1 fits
    have others := @firstRefused?_eq_none_iff _ test holds rest (number + 1) later
    rw [firstRefused?, List.forall_mem_cons, ← here number, ← others]
    cases test number line <;> simp

/-- What holds of the entries of two lists of one length holds of both lists. -/
theorem forall_mem_zip {α β : Type} {first : α → Prop} {second : β → Prop} :
    ∀ {xs : List α} {ys : List β}, xs.length = ys.length →
      ((∀ entry ∈ xs.zip ys, first entry.1 ∧ second entry.2) ↔
        (∀ x ∈ xs, first x) ∧ ∀ y ∈ ys, second y)
  | [], [], _ => by simp
  | _ :: _, _ :: _, size => by
    have others := @forall_mem_zip _ _ first second _ _ (Nat.succ.inj size)
    simp only [List.zip_cons_cons, List.forall_mem_cons, others]
    tauto

/-- The reader does not run out of memory exactly if no piece has too many rules. -/
theorem overflow?_eq_none_iff {column : Nat} {pieces : List Piece} :
    overflow? column pieces = none ↔ ∀ piece ∈ pieces, piece.rules ≤ stackLimit := by
  induction pieces generalizing column with
  | nil => simp [overflow?]
  | cons piece rest ih =>
    rw [overflow?, List.forall_mem_cons]
    by_cases many : stackLimit < piece.rules
    · simp [many, Nat.not_le.2 many]
    · simp [many, Nat.not_lt.1 many, ih]

/-- Neither of two things is wrong with a line. -/
theorem earlier?_eq_none_iff {refusal : Option (Refusal × Nat)} {overflow : Option Nat} :
    earlier? refusal overflow = none ↔ refusal = none ∧ overflow = none := by
  cases refusal with
  | none => cases overflow <;> simp [earlier?]
  | some found =>
    cases overflow with
    | none => simp [earlier?]
    | some place =>
      simp only [earlier?, reduceCtorEq, false_and, iff_false]
      split <;> exact Option.some_ne_none _

/-- A line whose words are names is refused by its own text exactly if it is indented too far, has
too many parentheses open at once, or has too many rules under way. -/
theorem Line.refused?_eq_none_iff {line : Line}
    (passes : line.text.startsWith "#" = true ∨ Passes line.text) (pieces : List Piece)
    (number : Nat) :
    line.refused? number pieces = none ↔
      (line.level < indentationLimit ∧ line.parentheses ≤ parenthesesLimit) ∧
        ∀ piece ∈ pieces, piece.rules ≤ stackLimit := by
  unfold Line.refused? Line.parentheses
  by_cases far : indentationLimit ≤ line.level
  · have notNear : ¬line.level < indentationLimit := Nat.not_lt.2 far
    rw [if_pos far]
    simp [notNear]
  · have near : line.level < indentationLimit := Nat.not_le.1 far
    rw [if_neg far]
    dsimp only
    rw [Option.map_eq_none_iff, earlier?_eq_none_iff, overflow?_eq_none_iff]
    by_cases comment : line.text.startsWith "#" = true
    · rw [if_pos comment, if_pos comment]
      simp [near]
    · have words := (passes.resolve_left comment).isSome
      rw [if_neg comment, if_neg comment, scanText_eq_none_iff (Nat.zero_le _) words]
      simp [near]

/-- A line is refused by the loops around it exactly if there are too many of them. -/
theorem Line.nested?_eq_none_iff (line : Line) (number : Nat) :
    line.nested? number = none ↔ line.loops ≤ loopLimit := by
  simp [Line.nested?]

/-! ## Names -/

/-- No parameter is refused exactly if their names differ, also from earlier ones. -/
theorem duplicate?_eq_none_iff {column : Nat} {earlier names : List String} :
    duplicate? column earlier names = none ↔
      (names.map Text.foldText).Nodup ∧ ∀ name ∈ names.map Text.foldText, name ∉ earlier := by
  induction names generalizing column earlier with
  | nil => simp [duplicate?]
  | cons name rest ih =>
    rw [duplicate?]
    by_cases seen : Text.foldText name ∈ earlier
    · rw [if_pos (List.contains_iff_mem.2 seen)]
      simp [seen]
    · rw [if_neg (mt List.contains_iff_mem.1 seen), ih, List.map_cons,
        List.nodup_cons, List.forall_mem_cons]
      simp only [List.mem_cons, not_or]
      constructor
      · rintro ⟨distinct, others⟩
        refine ⟨⟨fun again => (others _ again).1 rfl, distinct⟩, seen, fun other inside => ?_⟩
        exact (others other inside).2
      · rintro ⟨⟨fresh, distinct⟩, _, others⟩
        refine ⟨distinct, fun other inside => ⟨?_, others other inside⟩⟩
        rintro rfl
        exact fresh inside

/-- A module that tells its parameters apart is not refused for their names. -/
theorem Module.namesRefused?_eq_none {program : Module} (tells : program.TellsParams) :
    program.namesRefused? = none := by
  unfold Module.namesRefused?
  dsimp only
  rw [List.findSome?_eq_none_iff]
  rintro ⟨exported, function⟩ inside
  obtain ⟨distinct, apart⟩ := tells _ inside
  have noDuplicate : duplicate? (function.name.utf8ByteSize + 6) [] function.params = none :=
    duplicate?_eq_none_iff.2 ⟨distinct, fun _ _ => List.not_mem_nil⟩
  have noShared : (function.globals.map Text.foldText).find?
      (function.params.map Text.foldText).contains = none := by
    rw [List.find?_eq_none]
    intro name listed
    rw [List.contains_iff_mem]
    exact apart name listed
  dsimp only
  split
  · rw [Function.refused?, noDuplicate]
    dsimp only
    rw [noShared]
    rfl
  · rfl

/-! ## Modules -/

/-- A module of names that the host has and tells apart is refused exactly if it does not stay
within the limits, or if the reader runs out of memory. -/
theorem Module.refused?_eq_none_iff {program : Module}
    (fits : ∀ name ∈ program.names, isIdentifier name = true) (tells : program.TellsParams) :
    program.refused? = none ↔ program.WithinLimits ∧ program.WithinStack := by
  have passes := Module.lines_pass fits
  have size := program.spells.length_eq
  have texts : firstRefused? (fun number entry => entry.1.refused? number entry.2) 1
        (program.lines.zip program.pieces) = none ↔
      (∀ line ∈ program.lines,
        line.level < indentationLimit ∧ line.parentheses ≤ parenthesesLimit) ∧
        program.WithinStack := by
    rw [firstRefused?_eq_none_iff fun entry inside =>
      Line.refused?_eq_none_iff (passes entry.1 (List.of_mem_zip inside).1) entry.2]
    exact @forall_mem_zip _ _
      (fun line => line.level < indentationLimit ∧ line.parentheses ≤ parenthesesLimit)
      (fun pieces => ∀ piece ∈ pieces, piece.rules ≤ stackLimit) _ _ size.symm
  have loops : firstRefused? Line.nested? 1 program.lines = none ↔
      ∀ line ∈ program.lines, line.loops ≤ loopLimit :=
    firstRefused?_eq_none_iff fun line _ => Line.nested?_eq_none_iff line
  have whole : program.refused? = none ↔
      firstRefused? (fun number entry => entry.1.refused? number entry.2) 1
          (program.lines.zip program.pieces) = none ∧ program.depth ≤ treeLimit ∧
        firstRefused? Line.nested? 1 program.lines = none := by
    unfold Module.refused?
    rw [Module.namesRefused?_eq_none tells]
    dsimp only
    cases firstRefused? _ 1 (program.lines.zip program.pieces) with
    | some refused => simp
    | none =>
      by_cases deep : treeLimit < program.depth
      · simp [deep, Nat.not_le.2 deep]
      · simp [deep, Nat.not_lt.1 deep]
  rw [whole, texts, loops]
  constructor
  · rintro ⟨⟨lines, stack⟩, depth, nested⟩
    exact ⟨⟨fun line inside => (lines line inside).1, fun line inside => (lines line inside).2,
      nested, depth⟩, stack⟩
  · rintro ⟨⟨indentation, parentheses, nested, depth⟩, stack⟩
    exact ⟨⟨fun line inside => ⟨indentation line inside, parentheses line inside⟩, stack⟩, depth,
      nested⟩

end Lag.Host
