import Lag.Compile
import Lag.Proofs.Grammar.Decided
import Lag.Proofs.Scoping.Layout
import Lag.Proofs.Tree.Scanned
import Lag.Proofs.Typing.Checked

/-!
# Accepted source texts

A source text that is read and checked without a failure gives a program that is well typed, whose
names and literals are those of tokens, and whose declarations have ascending numbers.
-/
namespace Lag

/-- The source texts that are read and checked, with the programs that the check notes. -/
structure Accepts (source : String) (file : Option String) (limit : Nat) (program : Program Mark) :
    Prop where
  /-- The check may report a failure. -/
  positive : 0 < limit
  /-- The text is read and the program is checked. -/
  passes : ∃ tree, readProgram source file = .ok tree ∧
    checkProgram tree limit (Text.linesOf source) = .ok program

/-- A text is read as a program exactly if it is a sequence of tokens that are read as it. -/
theorem Program.ofText_eq_ok {source : String} {file : Option String} {tree : Program Node} :
    Program.ofText source file = .ok tree ↔ ∃ tokens, Scan.scan source file = (tokens, none) ∧
      Parse.ofTokens Parse.depthLimit file tokens = .ok tree := by
  rw [Program.ofText_eq, Program.ofTextWithin_eq_ok]

/-- A program that is read from a text is regular, and its declarations have ascending numbers. -/
theorem regular_of_readProgram {source : String} {file : Option String} {tree : Program Node}
    (reads : readProgram source file = .ok tree) :
    tree.Regular ∧ (tree.ids Node.id).Pairwise (· < ·) := by
  unfold readProgram at reads
  split at reads
  · rename_i program parsed
    cases reads
    obtain ⟨tokens, scanned, made⟩ := Program.ofText_eq_ok.1 parsed
    exact Parse.regular_of_ofTokens (Scan.sound_scan scanned) made
  · cases reads

/-- A check without a failure gives the program with its notes. -/
theorem Check.run_of_clean {depth : Check.Depth} {limit : Nat} {tree : Program Node}
    (clean : (Check.run depth limit tree).failures = []) :
    ∃ checked, Check.run depth limit tree = ⟨[], some checked⟩ := by
  unfold Check.run at clean ⊢
  generalize (Check.program depth tree).run ⟨limit, #[]⟩ = reached at clean ⊢
  obtain ⟨found, journal⟩ := reached
  cases found with
  | none => simp at clean
  | some checked =>
    dsimp only at clean
    exact ⟨checked, by simp [clean]⟩

/-- A program is checked without a failure exactly if its check gives it with its notes. -/
theorem checkProgram_eq_ok {limit : Nat} {tree : Program Node} {lines : Array String}
    {program : Program Mark} :
    checkProgram tree limit lines = .ok program ↔ tree.check limit = ⟨[], some program⟩ := by
  unfold checkProgram
  dsimp only
  constructor
  · intro checks
    cases failures : (tree.check limit).failures with
    | nil =>
      obtain ⟨checked, passes⟩ := Check.run_of_clean failures
      have whole : tree.check limit = ⟨[], some checked⟩ := passes
      rw [whole] at checks ⊢
      cases checks
      rfl
    | cons first rest =>
      rw [failures] at checks
      cases checks
  · intro passes
    rw [passes]

/-- The program that characters give when they are read and checked. -/
def acceptedOf? (chars : List Char) (file : Option String) (limit : Nat) : Option (Program Mark) :=
  (Program.ofCharacters? Parse.depthLimit chars file).bind fun tree =>
    match tree.check limit with
    | ⟨[], some program⟩ => some program
    | _ => none

/-- A text is accepted with the program that its characters give. -/
theorem exists_accepts {source : String} {chars : List Char} {file : Option String} {limit : Nat}
    (spelled : source = String.ofList chars) (positive : 0 < limit) {holds : Program Mark → Bool}
    (found : (acceptedOf? chars file limit).any holds = true) :
    ∃ program, Accepts source file limit program ∧ holds program = true := by
  unfold acceptedOf? at found
  rw [Option.any_bind] at found
  obtain ⟨tree, reads, checks⟩ := Program.exists_ofTextWithin spelled found
  rw [Function.comp_apply] at checks
  split at checks
  · rename_i program passes
    have read : readProgram source file = .ok tree := by
      rw [readProgram, Program.ofText_eq, reads]
    exact ⟨program, ⟨positive, tree, read, checkProgram_eq_ok.2 passes⟩, checks⟩
  · cases checks

/-- A program that is checked without a failure is well typed, and only notes were added. -/
theorem typed_of_checkProgram {limit : Nat} (positive : 0 < limit) {tree : Program Node}
    (regular : tree.Regular) {lines : Array String} {program : Program Mark}
    (checks : checkProgram tree limit lines = .ok program) :
    Typing.Program program ∧ program.map Mark.node = tree :=
  Check.typed_of_run positive regular (checkProgram_eq_ok.1 checks)

namespace Accepts

variable {source : String} {file : Option String} {limit : Nat} {program : Program Mark}

/-- An accepted program is well typed. -/
theorem typed (accepts : Accepts source file limit program) : Typing.Program program := by
  obtain ⟨tree, reads, checks⟩ := accepts.passes
  exact (typed_of_checkProgram accepts.positive (regular_of_readProgram reads).1 checks).1

/-- The names and literals of an accepted program are those of tokens. -/
theorem regular (accepts : Accepts source file limit program) : program.Regular := by
  obtain ⟨tree, reads, checks⟩ := accepts.passes
  have regular := (regular_of_readProgram reads).1
  obtain ⟨_, same⟩ := typed_of_checkProgram accepts.positive regular checks
  rw [← same] at regular
  exact (Program.regular_map Mark.node program).1 regular

/-- The declarations of an accepted program have ascending numbers. -/
theorem numbered (accepts : Accepts source file limit program) :
    (program.ids Mark.id).Pairwise (· < ·) := by
  obtain ⟨tree, reads, checks⟩ := accepts.passes
  obtain ⟨regular, ascending⟩ := regular_of_readProgram reads
  obtain ⟨_, same⟩ := typed_of_checkProgram accepts.positive regular checks
  rw [← same] at ascending
  rwa [Program.ids_map] at ascending

end Accepts

end Lag
