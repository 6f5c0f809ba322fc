import Lag.Source.Span
import Lag.Text.Lines

/-!
# Diagnostics

A diagnostic is one message about a source text. When it knows its place and the source line, its
display quotes the line and marks the columns of the span with carets. A collector gathers the
diagnostics of a stage and says when their number asks to stop.
-/
namespace Lag.Source

/-- How serious a diagnostic is. -/
inductive Severity where
  /-- The source is refused. -/
  | error
  /-- The source is accepted with a reservation. -/
  | warning
  /-- A remark. -/
  | info
  deriving DecidableEq, Repr, Inhabited

/-- The word for a severity. -/
def Severity.name : Severity → String
  | .error => "error"
  | .warning => "warning"
  | .info => "info"

/-- The severity that a word names. -/
def Severity.ofName? (name : String) : Option Severity :=
  [Severity.error, .warning, .info].find? (·.name == name)

/-- The words for severities tell them apart. -/
theorem Severity.ofName?_name (severity : Severity) : ofName? severity.name = some severity := by
  cases severity <;> decide

/-- One message about a source text. -/
structure Diagnostic where
  /-- The code of the message. -/
  code : String
  /-- The message. -/
  message : String
  /-- How serious it is. -/
  severity : Severity := .error
  /-- The stretch concerned. -/
  span : Option Span := none
  /-- The line on which the stretch starts. -/
  sourceLine : Option String := none
  /-- Advice. -/
  hints : List String := []
  deriving DecidableEq, Repr, Inhabited

namespace Diagnostic

/-- Where the diagnostic points, when it knows. -/
def location (d : Diagnostic) : Option String := d.span.map Span.startText

/-- A number in a field of three places. -/
def lineNumber (n : Nat) : String :=
  let digits := toString n
  String.ofList (List.replicate (3 - digits.length) ' ') ++ digits

/-- The number of columns that carets mark: the columns of a span within a line, the rest of the
line for a span that ends on another, and one at least. -/
def caretCount (span : Span) (line : String) : Nat :=
  let stop := if span.start.line = span.stop.line then span.stop.column else line.length + 1
  max 1 (stop - span.start.column)

/-- The quoted line and the carets below it. -/
def excerpt (span : Span) (line : String) : List String :=
  ["  |",
    lineNumber span.start.line ++ " | " ++ line,
    "    | " ++ String.ofList (List.replicate (span.start.column - 1) ' ' ++
      List.replicate (caretCount span line) '^')]

/-- The lines of the display, with or without the source line. -/
def displayLines (d : Diagnostic) (showSource : Bool) : List String :=
  let place := d.location.getD "<unknown>"
  let head := place ++ ": " ++ d.severity.name ++ "[" ++ d.code ++ "]: " ++ d.message
  let quote :=
    match showSource, d.sourceLine, d.span with
    | true, some line, some span => excerpt span line
    | _, _, _ => []
  head :: quote ++ d.hints.map ("    = hint: " ++ ·)

/-- The display of a diagnostic. -/
def display (d : Diagnostic) : String := "\n".intercalate (d.displayLines true)

/-- The display of a diagnostic without its source line. -/
def displayPlain (d : Diagnostic) : String := "\n".intercalate (d.displayLines false)

end Diagnostic

/-- The diagnostics of a stage, in order, and how many errors it may collect. -/
structure Collector where
  /-- The number of errors at which a stage stops. -/
  limit : Nat := 20
  /-- The diagnostics so far. -/
  items : Array Diagnostic := #[]
  deriving Repr, Inhabited

namespace Collector

/-- Add a diagnostic. -/
def add (c : Collector) (d : Diagnostic) : Collector := { c with items := c.items.push d }

/-- The diagnostics of a severity. -/
def ofSeverity (c : Collector) (severity : Severity) : List Diagnostic :=
  c.items.toList.filter (·.severity == severity)

/-- The errors, in order. -/
def errors (c : Collector) : List Diagnostic := c.ofSeverity .error

/-- The number of errors. -/
def errorCount (c : Collector) : Nat := c.errors.length

/-- The number of warnings. -/
def warningCount (c : Collector) : Nat := (c.ofSeverity .warning).length

/-- Whether there is an error. -/
def hasErrors (c : Collector) : Bool := decide (0 < c.errorCount)

/-- Whether there is a warning. -/
def hasWarnings (c : Collector) : Bool := decide (0 < c.warningCount)

/-- Whether the number of errors has reached the limit. -/
def shouldStop (c : Collector) : Bool := decide (c.limit ≤ c.errorCount)

/-- The counts at the end of a display. -/
def summary (c : Collector) : List String :=
  if c.hasErrors then
    ["\n" ++ toString c.errorCount ++ " error(s), " ++ toString c.warningCount ++ " warning(s)"]
  else if c.hasWarnings then ["\n" ++ toString c.warningCount ++ " warning(s)"]
  else []

/-- The display of all diagnostics. -/
def display (c : Collector) : String :=
  "\n\n".intercalate (c.items.toList.map Diagnostic.display ++ c.summary)

/-- The display of all diagnostics without their source lines. -/
def displayPlain (c : Collector) : String :=
  "\n\n".intercalate (c.items.toList.map Diagnostic.displayPlain ++ c.summary)

end Collector

end Lag.Source
