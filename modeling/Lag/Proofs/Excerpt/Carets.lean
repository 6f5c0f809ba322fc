import Lag.Source.Diagnostic

/-!
# Where carets stand

The display of a diagnostic quotes a line of the source, and below it carets mark the columns of the
span. Before the quoted line stands its number, in a field of three places that a longer number
widens. Before the carets there are always three places. So the carets stand below the columns that
they mark exactly if the number of the line has at most three digits, and from line 1000 on they
stand too far to the left.
-/
namespace Lag.Source

/-- The columns that a span within one line marks: those it has, and one at least. -/
def Span.Covers (span : Span) (column : Nat) : Prop :=
  span.start.column ≤ column ∧ column < max span.stop.column (span.start.column + 1)

namespace Diagnostic

/-- The quoted line in a display. -/
def quotedLine (span : Span) (line : String) : String :=
  lineNumber span.start.line ++ " | " ++ line

/-- The line of carets in a display. -/
def caretLine (span : Span) (line : String) : String :=
  "    | " ++ String.ofList (List.replicate (span.start.column - 1) ' ' ++
    List.replicate (caretCount span line) '^')

/-- The number of characters before a quoted line with a number. -/
def gutter (number : Nat) : Nat := (lineNumber number ++ " | ").length

/-- Carets stand exactly below the columns that a span marks, where the first column of the line
above follows a number of characters. -/
def Marked (span : Span) (carets : String) (before : Nat) : Prop :=
  ∀ i, carets.toList[i]? = some '^' ↔ ∃ column, span.Covers column ∧ i + 1 = before + column

/-- A number takes three places, or as many as it has digits. -/
theorem length_lineNumber (number : Nat) :
    (lineNumber number).length = max 3 (toString number).length := by
  simp only [lineNumber, String.length_append, String.length_ofList, List.length_replicate]
  omega

/-- There are six characters before a line whose number has at most three digits, and more before
the others. -/
theorem gutter_le_iff (number : Nat) : gutter number ≤ 6 ↔ number < 1000 := by
  have digits : (toString number).length ≤ 3 ↔ number < 10 ^ 3 :=
    Nat.length_repr_le_iff (by omega)
  have bar : " | ".length = 3 := by decide
  rw [gutter, String.length_append, length_lineNumber, bar]
  omega

/-- There are at least six characters before a line. -/
theorem six_le_gutter (number : Nat) : 6 ≤ gutter number := by
  have bar : " | ".length = 3 := by decide
  rw [gutter, String.length_append, length_lineNumber, bar]
  omega

/-- The characters of a line follow those before it. -/
theorem getElem?_quotedLine (span : Span) (line : String) (k : Nat) :
    (quotedLine span line).toList[gutter span.start.line + k]? = line.toList[k]? := by
  rw [quotedLine, String.toList_append, gutter, ← String.length_toList,
    List.getElem?_append_right (Nat.le_add_right _ _), Nat.add_sub_cancel_left]

/-- A character that does not occur in the front of a text is found behind it. -/
theorem getElem?_append_of_not_mem {front rest : List Char} {c : Char} (other : c ∉ front)
    (i : Nat) : (front ++ rest)[i]? = some c ↔
      front.length ≤ i ∧ rest[i - front.length]? = some c := by
  by_cases early : i < front.length
  · rw [List.getElem?_append_left early]
    constructor
    · intro found
      exact absurd (List.mem_of_getElem? found) other
    · intro late
      omega
  · rw [List.getElem?_append_right (by omega)]
    constructor
    · intro found
      exact ⟨by omega, found⟩
    · exact And.right

/-- The carets of a span within a line are as many as the columns it marks. -/
theorem caretCount_eq {span : Span} (line : String) (within : span.start.line = span.stop.line) :
    caretCount span line = max 1 (span.stop.column - span.start.column) := by
  rw [caretCount, if_pos within]

/-- The carets stand as they have to below a line with six characters before it. -/
theorem marked_six {span : Span} (line : String) (within : span.start.line = span.stop.line)
    (first : 1 ≤ span.start.column) : Marked span (caretLine span line) 6 := by
  intro i
  have shape : (caretLine span line).toList =
      ([' ', ' ', ' ', ' ', '|', ' '] ++ List.replicate (span.start.column - 1) ' ') ++
        List.replicate (caretCount span line) '^' := by
    simp only [caretLine, String.toList_append, String.toList_ofList, List.append_assoc]
    rfl
  have noCaret : '^' ∉ [' ', ' ', ' ', ' ', '|', ' '] ++
      List.replicate (span.start.column - 1) ' ' := by
    simp
  rw [shape, getElem?_append_of_not_mem noCaret, caretCount_eq line within]
  simp only [List.length_append, List.length_cons, List.length_nil, List.length_replicate,
    List.getElem?_replicate, ite_eq_left_iff, reduceCtorEq, imp_false, Decidable.not_not]
  constructor
  · intro found
    refine ⟨i - 5, ⟨?_, ?_⟩, ?_⟩ <;> omega
  · rintro ⟨column, ⟨low, high⟩, place⟩
    omega

/-- A display with a source line quotes it between the message and the advice. -/
theorem displayLines_quoting (d : Diagnostic) {span : Span} {line : String}
    (placed : d.span = some span) (quotes : d.sourceLine = some line) :
    ∃ head hints, d.displayLines true =
      head :: "  |" :: quotedLine span line :: caretLine span line :: hints := by
  refine ⟨d.location.getD "<unknown>" ++ ": " ++ d.severity.name ++ "[" ++ d.code ++ "]: " ++
    d.message, d.hints.map ("    = hint: " ++ ·), ?_⟩
  simp only [displayLines, placed, quotes]
  rfl

/-- The display of a diagnostic within one line quotes the line and has a line of carets below it.
Each column of the quoted line stands behind its number, and the carets stand as if there were
three places for the number: they are below the columns that the span marks exactly if the number of
the line has at most three digits. -/
theorem carets_below_iff (d : Diagnostic) {span : Span} {line : String}
    (placed : d.span = some span) (quotes : d.sourceLine = some line)
    (within : span.start.line = span.stop.line) (first : 1 ≤ span.start.column) :
    ∃ head hints, d.display = "\n".intercalate
        (head :: "  |" :: quotedLine span line :: caretLine span line :: hints) ∧
      (∀ k, (quotedLine span line).toList[gutter span.start.line + k]? = line.toList[k]?) ∧
      Marked span (caretLine span line) 6 ∧
      (Marked span (caretLine span line) (gutter span.start.line) ↔ span.start.line < 1000) := by
  have six := marked_six line within first
  obtain ⟨head, hints, lines⟩ := d.displayLines_quoting placed quotes
  refine ⟨head, hints, by rw [display, lines], getElem?_quotedLine span line, six, ?_⟩
  rw [← gutter_le_iff]
  constructor
  · intro marked
    -- the first caret stands below column `start - 1 + 6`, which has to be the start column
    have covered : span.Covers span.start.column := ⟨Nat.le_refl _, by omega⟩
    have caret := (six (6 + span.start.column - 1)).2 ⟨_, covered, by omega⟩
    obtain ⟨column, ⟨low, _⟩, place⟩ := (marked _).1 caret
    omega
  · intro narrow
    have same : gutter span.start.line = 6 := Nat.le_antisymm narrow (six_le_gutter _)
    rw [same]
    exact six

/-- In line 12, a name of two characters in the third column. -/
theorem carets_below_iff_twelve :
    ∃ head hints, (Diagnostic.mk "E201" "undeclared identifier 'ab'" .error
        (some ⟨none, ⟨12, 3, 90⟩, ⟨12, 5, 92⟩⟩) (some "- ab;") []).display =
      "\n".intercalate (head :: "  |" :: " 12 | - ab;" :: "    |   ^^" :: hints) ∧
    Marked ⟨none, ⟨12, 3, 90⟩, ⟨12, 5, 92⟩⟩ "    |   ^^" (gutter 12) := by
  obtain ⟨head, hints, shown, _, _, below⟩ :=
    carets_below_iff ⟨"E201", "undeclared identifier 'ab'", .error,
      some ⟨none, ⟨12, 3, 90⟩, ⟨12, 5, 92⟩⟩, some "- ab;", []⟩ rfl rfl rfl (by decide)
  exact ⟨head, hints, shown, below.2 (by decide)⟩

/-- In line 1000, the caret for the first column stands before it. -/
theorem carets_shifted :
    (Diagnostic.mk "E201" "undeclared identifier 'a'" .error
        (some ⟨none, ⟨1000, 1, 5000⟩, ⟨1000, 2, 5001⟩⟩) (some "a;") []).display =
      "1000:1: error[E201]: undeclared identifier 'a'\n  |\n1000 | a;\n    | ^" ∧
    ¬ Marked ⟨none, ⟨1000, 1, 5000⟩, ⟨1000, 2, 5001⟩⟩ "    | ^" (gutter 1000) := by
  refine ⟨by decide +kernel, fun marked => ?_⟩
  obtain ⟨column, ⟨low, _⟩, place⟩ := (marked 6).1 (by decide)
  have wide : gutter 1000 = 7 := by decide
  simp only at low
  omega

end Diagnostic

end Lag.Source
