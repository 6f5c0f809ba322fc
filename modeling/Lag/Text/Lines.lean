/-!
# Lines of a text

Two rules divide a text into lines. The source locations count line feeds only
(`Lag.Source.Location`). The lines that diagnostics quote also end at every other character that
breaks a line: carriage return alone or before a line feed, vertical tab, form feed, the
information separators, next line, and the line and paragraph separators. `splitLines` is the
second rule. A break ends a line, so a text that ends in a break has no empty last line.
-/
namespace Lag.Text

/-- Whether a character ends a line. -/
def isLineBreak (c : Char) : Bool :=
  c == '\n' || c == '\r' || c == '\x0b' || c == '\x0c' || c == '\x1c' || c == '\x1d' ||
    c == '\x1e' || c == '\x85' || c == '\u2028' || c == '\u2029'

/-- The lines of a text, without the characters that end them. -/
def splitLines : List Char → List (List Char)
  | [] => []
  | '\r' :: '\n' :: rest => [] :: splitLines rest
  | c :: rest =>
    if isLineBreak c then [] :: splitLines rest
    else match splitLines rest with
      | [] => [[c]]
      | line :: lines => (c :: line) :: lines

/-- The lines of a text. -/
def linesOf (text : String) : Array String :=
  ((splitLines text.toList).map String.ofList).toArray

/-- A line of a list by its number, counted from one. -/
def lineAt? (lines : Array String) (number : Nat) : Option String :=
  if number = 0 then none else lines[number - 1]?

/-- Every line end written as a line feed: the form in which a text file is read. -/
def unifyLineEnds : List Char → List Char
  | [] => []
  | '\r' :: '\n' :: rest => '\n' :: unifyLineEnds rest
  | c :: rest => (if c = '\r' then '\n' else c) :: unifyLineEnds rest

/-- No line holds a line break. -/
theorem not_isLineBreak_of_mem_splitLines {text line : List Char} {c : Char}
    (inText : line ∈ splitLines text) (inLine : c ∈ line) : isLineBreak c = false := by
  fun_induction splitLines text generalizing line with
  | case1 => simp at inText
  | case2 rest ih =>
    rcases List.mem_cons.1 inText with rfl | later
    · simp at inLine
    · exact ih later inLine
  | case3 d rest _ broken ih =>
    rcases List.mem_cons.1 inText with rfl | later
    · simp at inLine
    · exact ih later inLine
  | case4 d rest _ whole empty ih =>
    simp only [List.mem_singleton] at inText
    subst inText
    simp only [List.mem_singleton] at inLine
    subst inLine
    simpa using whole
  | case5 d rest _ whole first lines found ih =>
    rcases List.mem_cons.1 inText with rfl | later
    · rcases List.mem_cons.1 inLine with rfl | earlier
      · simpa using whole
      · exact ih (by simp [found]) earlier
    · exact ih (by simp [found, later]) inLine

end Lag.Text
