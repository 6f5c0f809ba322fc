import Lag.Text.Case

/-!
# The journal of a run

Every part of the system writes entries to the journal: the name of the part, a level and a
message. Entries below a threshold are not shown. `setUp` chooses the threshold, and where the
entries go.
-/
namespace Lag.Log

/-- The levels of entries, from the least serious on; `unset` is the level of no entry. -/
inductive Level where
  /-- No level. -/
  | unset
  /-- Details. -/
  | debug
  /-- Normal events. -/
  | info
  /-- Something unexpected. -/
  | warning
  /-- A failure. -/
  | error
  /-- A failure of the whole. -/
  | critical
  deriving DecidableEq, Repr, Inhabited

namespace Level

/-- The name of a level. -/
def name : Level → String
  | .unset => "NOTSET"
  | .debug => "DEBUG"
  | .info => "INFO"
  | .warning => "WARNING"
  | .error => "ERROR"
  | .critical => "CRITICAL"

/-- The number of a level; more serious levels have greater numbers. -/
def number : Level → Nat
  | .unset => 0
  | .debug => 10
  | .info => 20
  | .warning => 30
  | .error => 40
  | .critical => 50

/-- Why a word stands for no level: it names another constant of the journal. -/
inductive WordFault where
  /-- The basic format of entries. -/
  | format
  /-- The table of styles of formats. -/
  | styles
  deriving DecidableEq, Repr

/-- The basic format of entries. -/
def basicFormat : String := "%(levelname)s:%(name)s:%(message)s"

/-- An entry of the table of styles: its mark, its class and its format. -/
def styleText (mark kind format : String) : String :=
  "'" ++ mark ++ "': (<class 'logging." ++ kind ++ "'>, '" ++ format ++ "')"

/-- The wording of a fault. -/
def WordFault.message : WordFault → String
  | .format => "Unknown level: '" ++ basicFormat ++ "'"
  | .styles =>
    "Level not an integer or a valid string: \x7b" ++ ", ".intercalate [
      styleText "%" "PercentStyle" basicFormat,
      styleText "\x7b" "StrFormatStyle" "\x7blevelname\x7d:\x7bname\x7d:\x7bmessage\x7d",
      styleText "$" "StringTemplateStyle"
        "$\x7blevelname\x7d:$\x7bname\x7d:$\x7bmessage\x7d"] ++ "\x7d"

/-- The level that a word in any case stands for; unknown words stand for normal events. -/
def ofWord (word : String) : Except WordFault Level :=
  match Text.upperText word with
  | "NOTSET" => .ok .unset
  | "DEBUG" => .ok .debug
  | "WARNING" | "WARN" => .ok .warning
  | "ERROR" => .ok .error
  | "CRITICAL" | "FATAL" => .ok .critical
  | "BASIC_FORMAT" => .error .format
  | "_STYLES" => .error .styles
  | _ => .ok .info

/-- The level from which on entries are shown. A part without a level takes that of the whole
journal, which is `warning`. -/
def threshold : Level → Level
  | .unset => .warning
  | level => level

end Level

/-- An entry of the journal. -/
structure Entry where
  /-- The name of the part that wrote it. -/
  name : String
  /-- The level. -/
  level : Level
  /-- The message. -/
  message : String
  deriving DecidableEq, Repr, Inhabited

/-- An entry as it is shown. -/
def Entry.toText (entry : Entry) : String :=
  entry.name ++ " - " ++ entry.level.name ++ " - " ++ entry.message

/-- Whether an entry is shown at a threshold. -/
def Entry.isShown (entry : Entry) (level : Level) : Bool :=
  decide (level.threshold.number ≤ entry.level.number)

/-- The lines of the entries that are shown. -/
def shown (level : Level) (entries : List Entry) : List String :=
  (entries.filter (·.isShown level)).map Entry.toText

/-- The name of the journal. -/
def rootName : String := "lagscript"

/-- The name of the part that a word stands for: the word itself below the root, and otherwise a
part of that name below the root. -/
def partName (word : String) : String :=
  if word = rootName ∨ word.startsWith (rootName ++ ".") then word else rootName ++ "." ++ word

/-- The name of the part that the lines of a script are written under. -/
def scriptPart (script : String) : String := rootName ++ ".scripts." ++ script

/-- Where entries go. -/
inductive Sink where
  /-- To the console. -/
  | console
  /-- To a file. -/
  | file (path : String)
  deriving DecidableEq, Repr

/-- The name of the kind of a sink. -/
def Sink.kindName : Sink → String
  | .console => "StreamHandler"
  | .file _ => "FileHandler"

/-- How entries are shown. -/
structure Setup where
  /-- The level from which on they are shown. -/
  level : Level
  /-- Where they go. -/
  sinks : List Sink
  deriving DecidableEq, Repr

/-- Why there is no setup. -/
inductive SetupFault where
  /-- A word stands for no level. -/
  | level (fault : Level.WordFault)
  /-- The name of a file holds a null character. -/
  | null
  deriving DecidableEq, Repr

/-- The class of a fault. -/
def SetupFault.className : SetupFault → String
  | .level .styles => "TypeError"
  | .level .format | .null => "ValueError"

/-- The wording of a fault. -/
def SetupFault.message : SetupFault → String
  | .level fault => fault.message
  | .null => "embedded null byte"

/-- The places for a file that may be named. -/
def sinksFor (file : Option String) : Except SetupFault (List Sink) :=
  match file with
  | none | some "" => .ok [.console]
  | some path => if path.contains '\x00' then .error .null else .ok [.console, .file path]

/-- The setup for a level, or else for the level that the environment names, and for a file that
may be named. -/
def setUp (level environment file : Option String) : Except SetupFault Setup :=
  match Level.ofWord ((level.orElse fun _ => environment).getD "INFO") with
  | .error fault => .error (.level fault)
  | .ok level => (sinksFor file).map (⟨level, ·⟩)

end Lag.Log
