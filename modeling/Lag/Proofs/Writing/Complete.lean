import Lag.Proofs.Layout.Texts
import Lag.Proofs.Limits.Named
import Lag.Proofs.Naming.Words
import Lag.Proofs.Typing.Decided
import Lag.Proofs.Writing.Modules

/-!
# The tables of the check are complete

The walk over a checked program finds the symbol of every name and declaration, the type of every
operand that it asks for, and the call for every built-in function. So it never fails, and the text
of a page that it ends with is the text of the lowered module.
-/
namespace Lag

open Host (IsExpression Line Names Stands isWord symbolsOf)

/-! ## Checked programs -/

/-- A program that a check without failures gives, however far reading and checking may go down. -/
structure Program.IsChecked (program : Program Mark) : Prop where
  /-- It comes from a source text. -/
  checks : ∃ (depth : Nat) (source : String) (file : Option String) (tree : Program Node)
    (steps : Check.Depth) (limit : Nat), Program.ofTextWithin depth source file = .ok tree ∧
      0 < limit ∧ Check.run steps limit tree = ⟨[], some program⟩

/-- A program that is read from a text is regular, and its declarations have ascending numbers. -/
theorem numbered_of_ofTextWithin {depth : Nat} {source : String} {file : Option String}
    {tree : Program Node} (reads : Program.ofTextWithin depth source file = .ok tree) :
    (tree.ids Node.id).Pairwise (· < ·) := by
  unfold Program.ofTextWithin at reads
  split at reads
  · cases reads
  · rename_i tokens scanned
    split at reads
    · rename_i program made
      cases reads
      exact (Parse.regular_of_ofTokens (Scan.sound_scan scanned) made).2
    · cases reads

namespace Program.IsChecked

variable {program : Program Mark}

/-- A checked program is well typed. -/
theorem typed (checked : program.IsChecked) : Typing.Program program := by
  obtain ⟨_, _, _, _, _, _, reads, positive, passes⟩ := checked.checks
  exact (Check.typed_of_run positive (regular_of_ofTextWithin reads) passes).1

/-- The names and literals of a checked program are those of tokens. -/
theorem regular (checked : program.IsChecked) : program.Regular := by
  obtain ⟨_, _, _, _, _, _, reads, positive, passes⟩ := checked.checks
  have regular := regular_of_ofTextWithin reads
  obtain ⟨_, same⟩ := Check.typed_of_run positive regular passes
  rw [← same] at regular
  exact (Program.regular_map Mark.node program).1 regular

/-- The declarations of a checked program have ascending numbers. -/
theorem numbered (checked : program.IsChecked) : (program.ids Mark.id).Pairwise (· < ·) := by
  obtain ⟨_, _, _, _, _, _, reads, positive, passes⟩ := checked.checks
  have ascending := numbered_of_ofTextWithin reads
  obtain ⟨_, same⟩ := Check.typed_of_run positive (regular_of_ofTextWithin reads) passes
  rw [← same] at ascending
  rwa [Program.ids_map] at ascending

/-- The names in the module for a checked program are names of the grammar. -/
theorem isWord_lowerAs (checked : program.IsChecked) (title : String) :
    ∀ name ∈ (program.lowerAs title).names, isWord name = true := by
  intro name inside
  obtain ⟨symbol, known, rfl⟩ := checked.typed.named title name inside
  exact checked.typed.isWord_find checked.regular known

end Program.IsChecked

/-- The program of an accepted source text is checked. -/
theorem Accepts.checked {source : String} {file : Option String} {limit : Nat}
    {program : Program Mark} (accepts : Accepts source file limit program) : program.IsChecked := by
  obtain ⟨tree, reads, checks⟩ := accepts.passes
  unfold readProgram at reads
  split at reads
  · rename_i parsed made
    obtain rfl : parsed = tree := by simpa using reads
    exact ⟨⟨_, source, file, _, _, limit, made, accepts.positive, checkProgram_eq_ok.1 checks⟩⟩
  · cases reads

/-! ## Texts of lines -/

/-- A text that stands on its line is not empty. -/
theorem Host.Stands.ne_empty {text : String} (stands : Stands text) : text ≠ "" := by
  rintro rfl
  obtain ⟨c, head, _⟩ := stands.starts
  cases head

/-- The walk appends a line as it is written, unless the line has blanks only. -/
theorem Host.Line.raw_eq_toText {line : Line} (seen : line = Host.blank ∨ line.text ≠ "") :
    line.raw = line.toText := by
  rcases seen with rfl | some
  · decide
  · rw [Line.toText, if_neg (by simpa using some)]
    rfl

/-- A line that every module starts with is a blank line or not empty. -/
theorem Host.prelude_seen (title : String) :
    ∀ line ∈ Host.prelude title, line = Host.blank ∨ line.text ≠ "" := by
  simp [Host.prelude, Host.blank]

/-- The walk over a checked program names its symbols and writes the lines of the lowered module. -/
theorem Program.IsChecked.does {program : Program Mark} (checked : program.IsChecked)
    (title : String) :
    Does (program.writer title) 0 [] (symbolsOf program)
      ((program.lowerAs title).lines.map Line.toText) () := by
  have does := checked.typed.does checked.regular checked.numbered title
  have raws : ∀ line ∈ (program.lowerAs title).lines, line.raw = line.toText := by
    intro line inside
    refine Line.raw_eq_toText ?_
    rcases Host.covers_stands.module (checked.isWord_lowerAs title) line inside with
      first | blank | stands
    · exact Host.prelude_seen _ line first
    · exact .inl blank
    · exact .inr stands.ne_empty
  rw [Host.Module.lines, List.append_assoc, List.append_assoc] at raws ⊢
  rw [List.append_assoc, List.map_congr_left fun line inside =>
    raws line (List.mem_append_right _ inside), ← List.map_append] at does
  exact does

/-! ## The walk never fails -/

/-- The page with the lines of the lowered module and the names of its symbols. -/
def Program.page (title : String) (program : Program Mark) : Page where
  lines := (program.lowerAs title).lines.map Line.toText
  names := Names.ofProgram program

/-- The walk over a checked program ends with the page of the lowered module, or it does not end. -/
theorem Program.IsChecked.write_eq {program : Program Mark} (checked : program.IsChecked)
    (title : String) :
    (Names.Settle [] (symbolsOf program) →
        program.write title = some (.ok (program.page title))) ∧
      (¬Names.Settle [] (symbolsOf program) → program.write title = none) := by
  have does := checked.does title
  have starts : program.write title = ((program.writer title).on ⟨[], 0, []⟩).map fun outcome =>
      outcome.map (·.2) := rfl
  rw [starts]
  constructor
  · intro settle
    rw [does.ends settle [], List.nil_append]
    rfl
  · intro unsettled
    rw [does.endless unsettled []]
    rfl

/-- A page that the walk over a checked program ends with is that of the lowered module, and the
search for each name ended. -/
theorem Program.IsChecked.of_write {program : Program Mark} (checked : program.IsChecked)
    {title : String} {page : Page} (written : program.write title = some (.ok page)) :
    Names.Settle [] (symbolsOf program) ∧ page = program.page title := by
  obtain ⟨ends, endless⟩ := checked.write_eq title
  by_cases settle : Names.Settle [] (symbolsOf program)
  · rw [ends settle] at written
    exact ⟨settle, by simpa using written.symm⟩
  · rw [endless settle] at written
    cases written

/-- The tables of the check are complete. A program that is read, to any depth, and checked without
a failure is written without one: every symbol, type and call that the walk looks up is there. If
the walk ends, it ends with the text of the lowered module. -/
theorem tables_complete {depth : Nat} {source : String} {file : Option String} {tree : Program Node}
    (reads : Program.ofTextWithin depth source file = .ok tree) {limit : Nat}
    (positive : 0 < limit) (clean : (Check.run none limit tree).failures = []) :
    ∃ program, Check.run none limit tree = ⟨[], some program⟩ ∧ ∀ title,
      (∀ gap, program.write title ≠ some (.error gap)) ∧
        ∀ page, program.write title = some (.ok page) →
          page.text = (program.lowerAs title).toText := by
  obtain ⟨program, passes⟩ := Check.run_of_clean clean
  have checked : program.IsChecked := ⟨⟨_, _, _, _, _, _, reads, positive, passes⟩⟩
  refine ⟨program, passes, fun title => ⟨fun gap failed => ?_, fun page written => ?_⟩⟩
  · obtain ⟨ends, endless⟩ := checked.write_eq title
    by_cases settle : Names.Settle [] (symbolsOf program)
    · rw [ends settle] at failed
      cases failed
    · rw [endless settle] at failed
      cases failed
  · rw [(checked.of_write written).2]
    rfl

/-- A chain of quotients of which one is of integers, a loop, an `else if` and a built-in
function. -/
def dividing : String :=
  "let total = 0.0; fn f(n: int) -> float \x7b for i in 1..n \x7b " ++
    "if i == 2 { total = total + i / 2 / n; } else if i < 5 { print(str(i)); } " ++
      "else { total = 1; } \x7d return total; \x7d"

/-- The program of quotients is read and checked, and it is written. -/
theorem tables_complete_dividing : ∃ tree : Program Node,
    Program.ofTextWithin 100 dividing none = .ok tree ∧
      (0 < 1 ∧ (Check.run none 1 tree).failures = []) ∧
        ∃ program, Check.run none 1 tree = ⟨[], some program⟩ ∧ ∀ title,
          (∀ gap, program.write title ≠ some (.error gap)) ∧
            ∀ page, program.write title = some (.ok page) →
              page.text = (program.lowerAs title).toText := by
  obtain ⟨tree, reads, passes⟩ : ∃ tree, Program.ofTextWithin 100 dividing none = .ok tree ∧
      (Check.run none 1 tree).failures.isEmpty = true :=
    Program.exists_ofTextWithin (spelled_append (spelled_append rfl rfl) rfl) (by decide +kernel)
  have clean : (Check.run none 1 tree).failures = [] := List.isEmpty_iff.1 passes
  exact ⟨tree, reads, ⟨Nat.one_pos, clean⟩, tables_complete reads Nat.one_pos clean⟩

end Lag
