import Lag.Compile
import Lag.Proofs.Excerpt.Lines
import Lag.Proofs.Grammar.Decided
import Lag.Proofs.Token.Tiled
import Lag.Proofs.Typing.Moved

/-!
# The line that a diagnostic quotes

Every diagnostic about a source text starts where a token or a fault of the text starts, for readers
and checks make up no places: places that are not among those of the tokens may be exchanged without
any effect. So the number of the quoted line counts the line feeds before the start. The quoted line
is the one around the start if nothing but line feeds ends lines up to its end; a line in which
another character ends lines is never quoted as it is.
-/
namespace Lag

variable {places : Source.Location → Prop}

open Classical in
/-- A span that starts at one of some places, and otherwise at the start of the text. -/
noncomputable def Source.Span.settled (places : Location → Prop) (span : Span) : Span :=
  if places span.start then span else { span with start := {} }

/-- A span that starts at one of the places stays. -/
theorem Source.Span.settled_of_start {span : Span} (known : places span.start) :
    span.settled places = span :=
  if_pos known

/-- A span ends where it ended. -/
theorem Source.Span.stop_settled (span : Span) : (span.settled places).stop = span.stop := by
  unfold settled
  split <;> rfl

/-- Every span starts at one of the places then. -/
theorem Source.Span.start_settled (initial : places {}) (span : Span) :
    places (span.settled places).start := by
  unfold settled
  split
  · assumption
  · exact initial

namespace Parse

/-- Where a span starts is where its first part starts. -/
theorem joins_settled (places : Source.Location → Prop) :
    Joins (Source.Span.settled places) := by
  intro first last
  rw [Source.Span.through, Source.Span.through, last.stop_settled]
  by_cases known : places first.start
  · simp [Source.Span.settled, known]
  · simp [Source.Span.settled, known]

/-- The nodes of a program start where tokens start, and so does a failure. -/
theorem start_of_ofTokens (initial : places {}) {tokens : List Token} (some : tokens ≠ [])
    (known : ∀ token ∈ tokens, places token.span.start) (depth : Nat) (file : Option String) :
    match ofTokens depth file tokens with
    | .ok program => program.map (Node.moved (Source.Span.settled places)) = program
    | .error error => places error.span.start := by
  have same : tokens.map (Token.moved (Source.Span.settled places)) = tokens := by
    refine (List.map_congr_left fun token inside => ?_).trans (List.map_id tokens)
    rw [Token.moved, Source.Span.settled_of_start (known token inside)]
    rfl
  have moves := ofTokens_moved (joins_settled places) depth file some
  rw [same] at moves
  cases parsed : ofTokens depth file tokens with
  | ok program =>
    rw [parsed] at moves
    injection moves with kept
    exact kept.symm
  | error error =>
    rw [parsed] at moves
    injection moves with kept
    rw [kept]
    exact Source.Span.start_settled initial error.span

end Parse

/-- The failures of a check start where nodes of the program start. -/
theorem Check.start_of_failures (initial : places {}) {program : Program Node}
    (settled : program.map (Node.moved (Source.Span.settled places)) = program) (depth : Depth)
    (limit : Nat) : ∀ failure ∈ (run depth limit program).failures, places failure.span.start := by
  have moves : run depth limit (program.map (Node.moved (Source.Span.settled places))) = _ :=
    run_moved depth limit program
  rw [settled] at moves
  have same := congrArg Result.failures moves
  intro failure inside
  rw [same] at inside
  obtain ⟨other, -, rfl⟩ := List.mem_map.1 inside
  exact Source.Span.start_settled initial other.span

/-- The diagnostics about a source text: it is refused when it is read, to a depth, or its check
finds something, with a limit on the failures and down to a depth. -/
inductive Reports (depth : Nat) (steps : Check.Depth) (limit : Nat) (source : String)
    (file : Option String) : Source.Diagnostic → Prop
  | token {error : SourceError} {d : Source.Diagnostic} :
    Program.ofTextWithin depth source file = .error error →
    error.toFault (Text.linesOf source) = .token d → Reports depth steps limit source file d
  | tree {error : SourceError} {d : Source.Diagnostic} :
    Program.ofTextWithin depth source file = .error error →
    error.toFault (Text.linesOf source) = .tree d → Reports depth steps limit source file d
  | check {program : Program Node} {failure : Check.Failure} :
    Program.ofTextWithin depth source file = .ok program →
    failure ∈ (Check.run steps limit program).failures →
      Reports depth steps limit source file (failure.diagnostic (Text.linesOf source))

/-- The start of the text is a place of it. -/
theorem Source.Location.marks_start (text : List Char) : ({} : Location).Marks text :=
  marks_after [] text

/-- What a source text is refused for starts at a place of the text, and so do the nodes of its
program. -/
theorem start_of_ofTextWithin (depth : Nat) (source : String) (file : Option String) :
    match Program.ofTextWithin depth source file with
    | .ok program =>
      program.map (Node.moved (Source.Span.settled (·.Marks source.toList))) = program
    | .error (.token (.located _ span)) => span.start.Marks source.toList
    | .error (.token (.numeral _)) => True
    | .error (.tree error) => error.span.start.Marks source.toList := by
  have reached : ({} : Source.Location) = ({} : Source.Location).after [] := rfl
  have placed := Scan.placed_tokensFrom file {} source.toList reached
  rw [← Scan.scan, List.nil_append] at placed
  unfold Program.ofTextWithin
  cases scanned : Scan.scan source file with
  | mk tokens failure =>
    rw [scanned] at placed
    cases failure with
    | some error =>
      have about := placed.2 error rfl
      cases error with
      | located cause span => exact about.marks.start
      | numeral fault => trivial
    | none =>
      obtain ⟨inner, final, complete⟩ := Scan.complete_scan scanned
      have some : tokens ≠ [] := by
        rw [complete.split]
        simp
      have read := Parse.start_of_ofTokens (Source.Location.marks_start source.toList) some
        (fun token inside => (placed.1 token inside).marks.start) depth file
      cases parsed : Parse.ofTokens depth file tokens with
      | ok program =>
        rw [parsed] at read
        simpa only [parsed] using read
      | error error =>
        rw [parsed] at read
        simpa only [parsed] using read

/-- A diagnostic that quotes a line starts at a place of the text, and quotes the line with the
number of that place. -/
theorem Reports.quotes_line {depth limit : Nat} {steps : Check.Depth} {source : String}
    {file : Option String} {d : Source.Diagnostic} (reports : Reports depth steps limit source file d)
    {line : String} (quotes : d.sourceLine = some line) :
    ∃ span, d.span = some span ∧ span.start.Marks source.toList ∧
      Text.lineAt? (Text.linesOf source) span.start.line = some line := by
  have start := start_of_ofTextWithin depth source file
  cases reports with
  | @token error d refused fault =>
    rw [refused] at start
    cases error with
    | token error =>
      cases error with
      | located cause span =>
        cases fault
        exact ⟨span, rfl, start, quotes⟩
      | numeral reason => cases fault
    | tree error => cases fault
  | @tree error d refused fault =>
    rw [refused] at start
    cases error with
    | token error => cases error <;> cases fault
    | tree error =>
      cases fault
      have quoting : (if error.quotes then Text.lineAt? (Text.linesOf source) error.span.start.line
        else none) = some line := quotes
      by_cases quoted : error.quotes = true
      · rw [if_pos quoted] at quoting
        exact ⟨error.span, rfl, start, quoting⟩
      · rw [if_neg quoted] at quoting
        cases quoting
  | @check program failure read inside =>
    rw [read] at start
    have marks := Check.start_of_failures (Source.Location.marks_start source.toList) start steps
      limit failure inside
    refine ⟨failure.span, rfl, marks, ?_⟩
    unfold Check.Failure.diagnostic at quotes
    dsimp only at quotes
    split at quotes
    · cases quotes
    · exact quotes

/-- A diagnostic about a source text that quotes a line quotes the line in which its span starts, if
nothing but line feeds ends lines up to the end of that line. If another character ends lines within
the line, the line is not quoted as it is. -/
theorem line_quoted {depth limit : Nat} {steps : Check.Depth} {source : String}
    {file : Option String} {d : Source.Diagnostic} (reports : Reports depth steps limit source file d)
    {line : String} (quotes : d.sourceLine = some line) :
    ∃ span, d.span = some span ∧ span.start.offset ≤ source.toList.length ∧
      (Text.FeedsOnly (Text.throughLine source.toList span.start.offset) →
        line.toList = Text.lineAround source.toList span.start.offset) ∧
      ((∃ c ∈ Text.lineAround source.toList span.start.offset, Text.isLineBreak c = true) →
        line.toList ≠ Text.lineAround source.toList span.start.offset) := by
  obtain ⟨span, placed, marks, found⟩ := reports.quotes_line quotes
  refine ⟨span, placed, marks.inside, fun feeds => ?_, ?_⟩
  · rw [marks.line] at found
    exact Text.lineAt?_linesOf feeds found
  · rintro ⟨c, inside, breaks⟩ same
    rw [← same] at inside
    rw [Text.not_isLineBreak_of_lineAt? found inside] at breaks
    cases breaks

/-- In a second line, a name that stands for nothing. -/
theorem line_quoted_undeclared : ∃ d,
    Reports Parse.depthLimit (some Check.depthLimit) 20 "let a = 1;\nlet b = c;" none d ∧
    d.sourceLine = some "let b = c;" ∧
    "let b = c;".toList = Text.lineAround "let a = 1;\nlet b = c;".toList 19 := by
  let place : Source.Span := ⟨none, ⟨2, 9, 19⟩, ⟨2, 10, 20⟩⟩
  let failure : Check.Failure := ⟨.undeclared "c", place, .identifier, place⟩
  have checks : (Program.ofTextWithin Parse.depthLimit "let a = 1;\nlet b = c;" none).toOption.any
      (fun tree => decide
        ((Check.run (some Check.depthLimit) 20 tree).failures = [failure])) = true := by
    decide +kernel
  cases read : Program.ofTextWithin Parse.depthLimit "let a = 1;\nlet b = c;" none with
  | error error =>
    rw [read] at checks
    cases checks
  | ok tree =>
    rw [read] at checks
    have found : (Check.run (some Check.depthLimit) 20 tree).failures = [failure] :=
      of_decide_eq_true checks
    have quotes : (failure.diagnostic (Text.linesOf "let a = 1;\nlet b = c;")).sourceLine =
        some "let b = c;" := by
      decide +kernel
    have inside : failure ∈ (Check.run (some Check.depthLimit) 20 tree).failures := by
      rw [found]
      exact List.mem_cons_self
    have reports := Reports.check read inside
    obtain ⟨span, placed, _, right, _⟩ := line_quoted reports quotes
    cases placed
    have plain : (Text.throughLine "let a = 1;\nlet b = c;".toList 19).all
        (fun c => !Text.isLineBreak c || c == '\n') = true := by
      decide +kernel
    refine ⟨_, reports, quotes, right (Text.FeedsOnly.of_forall fun c inside breaks => ?_)⟩
    simpa [breaks] using List.all_eq_true.1 plain c inside

/-- A form feed in a comment is a line break for the quoted lines, and none for the places: the line
after the comment is at fault, and the end of the comment is quoted. -/
theorem line_misquoted : ∃ d span,
    Reports Parse.depthLimit (some Check.depthLimit) 20 "// a\x0cb\nlet x = @;" none d ∧
    d.span = some span ∧ d.sourceLine = some "b" ∧
    Text.lineAround "// a\x0cb\nlet x = @;".toList span.start.offset = "let x = @;".toList := by
  let place : Source.Span := ⟨none, ⟨2, 9, 15⟩, ⟨2, 10, 16⟩⟩
  have stopped : (Scan.scan "// a\x0cb\nlet x = @;" none).2 =
      some (.located (.unexpectedCharacter '@') place) := by
    decide +kernel
  have refused : Program.ofTextWithin Parse.depthLimit "// a\x0cb\nlet x = @;" none =
      .error (.token (.located (.unexpectedCharacter '@') place)) := by
    unfold Program.ofTextWithin
    split
    · rename_i found
      rw [found] at stopped
      cases stopped
      rfl
    · rename_i found
      rw [found] at stopped
      cases stopped
  exact ⟨_, place, .token refused rfl, rfl, by decide +kernel, by decide +kernel⟩

end Lag
