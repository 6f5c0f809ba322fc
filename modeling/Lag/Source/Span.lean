/-!
# Places in a source text

A location counts lines and columns from one and characters from zero. Only a line feed starts a
new line. A span is the stretch between two locations, with the label of the file it lies in; an
empty label counts as none.
-/
namespace Lag.Source

/-- A place in a source text. -/
structure Location where
  /-- The line, from one. -/
  line : Nat := 1
  /-- The column, from one. -/
  column : Nat := 1
  /-- The number of characters before the place. -/
  offset : Nat := 0
  deriving DecidableEq, Repr, Inhabited

namespace Location

/-- The place after a character. -/
def next (place : Location) (c : Char) : Location :=
  if c = '\n' then ⟨place.line + 1, 1, place.offset + 1⟩
  else ⟨place.line, place.column + 1, place.offset + 1⟩

/-- The place after some characters. -/
def after (place : Location) (text : List Char) : Location := text.foldl next place

/-- Nothing moves no place. -/
@[simp] theorem after_nil (place : Location) : place.after [] = place := rfl

/-- Moving past a character and then the others. -/
@[simp] theorem after_cons (place : Location) (c : Char) (text : List Char) :
    place.after (c :: text) = (place.next c).after text := rfl

/-- Moving past one text and then another. -/
theorem after_append (place : Location) (first second : List Char) :
    place.after (first ++ second) = (place.after first).after second := by
  simp [after, List.foldl_append]

/-- A place moves by the number of characters passed. -/
theorem offset_after (place : Location) (text : List Char) :
    (place.after text).offset = place.offset + text.length := by
  induction text generalizing place with
  | nil => rfl
  | cons c rest ih =>
    rw [after_cons, ih, List.length_cons]
    unfold next
    split <;> (simp only; omega)

/-- A place moves down by the number of line feeds passed. -/
theorem line_after (place : Location) (text : List Char) :
    (place.after text).line = place.line + text.count '\n' := by
  induction text generalizing place with
  | nil => rfl
  | cons c rest ih =>
    rw [after_cons, ih, List.count_cons]
    unfold next
    split
    · rename_i feed; subst feed; simp only [beq_self_eq_true, if_true]; omega
    · rename_i other; simp [other]

end Location

/-- A stretch of a source text. -/
structure Span where
  /-- The label of the file. -/
  file : Option String := none
  /-- Where the stretch starts. -/
  start : Location := {}
  /-- Where the stretch ends, exclusive. -/
  stop : Location := {}
  deriving DecidableEq, Repr, Inhabited

namespace Span

/-- The label of the file with a colon, when there is one. -/
def fileLabel (span : Span) : String :=
  match span.file with
  | none => ""
  | some file => if file = "" then "" else file ++ ":"

/-- The start of a span as line and column, after the file. -/
def startText (span : Span) : String :=
  span.fileLabel ++ toString span.start.line ++ ":" ++ toString span.start.column

/-- Both ends of a span. -/
def toText (span : Span) : String :=
  span.startText ++ "-" ++ toString span.stop.line ++ ":" ++ toString span.stop.column

/-- The span from the start of one span to the end of another. -/
def through (first last : Span) : Span := ⟨first.file, first.start, last.stop⟩

end Span

end Lag.Source
