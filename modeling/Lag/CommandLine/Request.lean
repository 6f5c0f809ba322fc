import Lag.CommandLine.Grammar
import Lag.Text.Case
import Lag.Value

/-!
# Requests

What a command line asks for: to check a file, to list its functions, to translate it, to call one
of its functions, or to watch files. Arguments of a call are words, and `valueOfWord` says which
values they stand for.
-/
namespace Lag

/-- The word between two marks that are the same quotation mark; a lone mark is both. -/
def betweenMarks? (word : List Char) : Option (List Char) :=
  match word.head?, word.getLast? with
  | some first, some last =>
    if first = last ∧ (first = Text.doubleQuote ∨ first = Text.apostrophe) then
      some (word.drop 1).dropLast
    else none
  | _, _ => none

/-- The value that a word of a command line stands for: a truth value, an integer, a float, or else
a text, which may stand between quotation marks. Blanks around it do not count. -/
def valueOfWord (word : String) : Value :=
  let word := Text.trimBlank word
  if Text.lowerText word = "true" then .bool true
  else if Text.lowerText word = "false" then .bool false
  else match Number.readInt word, Number.readFloat word with
    | .ok value, _ => .int value
    | .error _, .ok value => .float value
    | .error _, .error _ =>
      .string (((betweenMarks? word.toList).map String.ofList).getD word)

namespace CommandLine

/-- What a command line asks for. -/
inductive Request where
  /-- Check a file. -/
  | check (file : String)
  /-- List the functions of a file. -/
  | list (file : String)
  /-- Translate a file, into a file and under a name if there are any. -/
  | translate (file : String) (output name : Option String)
  /-- Call a function of a file. Two dashes in the place of the function name none. -/
  | run (file : String) (entry : Option String) (arguments : List String)
  /-- Watch files, calling a function after every round, if there is one. The interval is in
  seconds; without a number of rounds the watch does not end. -/
  | watch (files : List String) (interval : Float) (entry : Option String) (rounds : Int)
  deriving Repr

/-- The files that a request reads. -/
def Request.files : Request → List String
  | .check file | .list file | .translate file _ _ | .run file _ _ => [file]
  | .watch files _ _ _ => files

/-- A command line that is understood. -/
structure Invocation where
  /-- The file of the settings. -/
  settings : Option String
  /-- The level of the journal, which has precedence over the settings. -/
  level : Option String
  /-- The request. -/
  request : Request
  deriving Repr

/-- The files that a command line reads. -/
def Invocation.files (invocation : Invocation) : List String :=
  invocation.settings.toList ++ invocation.request.files

/-- The title of the program. -/
def title : String := "python -m lagscript"

/-- The commands. -/
inductive Command where
  /-- Check a file. -/
  | check
  /-- List the functions of a file. -/
  | list
  /-- Translate a file. -/
  | transpile
  /-- Call a function. -/
  | run
  /-- Watch files. -/
  | watch
  deriving DecidableEq, Repr

namespace Command

/-- All commands in order. -/
def all : List Command := [.check, .list, .transpile, .run, .watch]

/-- The word for a command. -/
def word : Command → String
  | .check => "check"
  | .list => "list"
  | .transpile => "transpile"
  | .run => "run"
  | .watch => "watch"

/-- The command that a word stands for. -/
def ofWord? (word : String) : Option Command := all.find? (·.word == word)

/-- The flags of a command. -/
def flags : Command → List Flag
  | .check | .list | .run => [.help]
  | .transpile => [.help, ⟨["-o", "--output"], some .text⟩, ⟨["--name"], some .text⟩]
  | .watch =>
    [.help, ⟨["--interval"], some .float⟩, ⟨["--entry"], some .text⟩,
      ⟨["--iterations"], some .int⟩]

/-- The positions of a command. -/
def positions : Command → List Position
  | .check | .list | .transpile => [⟨"file", .one⟩]
  | .run => [⟨"file", .one⟩, ⟨"entry", .one⟩, ⟨"args", .any⟩]
  | .watch => [⟨"files", .several⟩]

/-- The grammar of what follows the word for a command. -/
def grammar (command : Command) : Grammar :=
  ⟨title ++ " " ++ command.word, command.flags, command.positions⟩

/-- The request that a command makes. -/
def request (command : Command) (parsed : Parsed) : Request :=
  let file := (parsed.wordAt? "file").getD ""
  match command with
  | .check => .check file
  | .list => .list file
  | .transpile => .translate file (parsed.value? "-o") (parsed.value? "--name")
  | .run => .run file (parsed.wordAt? "entry") (parsed.wordsAt "args")
  | .watch =>
    let interval := (parsed.value? "--interval").bind (Number.readFloat · |>.toOption)
    let rounds := (parsed.value? "--iterations").bind (Number.readInt · |>.toOption)
    .watch (parsed.wordsAt "files") (interval.getD 1.0) (parsed.value? "--entry")
      (rounds.getD 0)

end Command

/-- The grammar of the words up to a command. -/
def mainGrammar : Grammar :=
  ⟨title, [.help, ⟨["--config"], some .text⟩, ⟨["--log-level"], some .text⟩],
    [⟨"action", .rest⟩]⟩

/-- A misuse of the program. -/
def misuse {α : Type} (misuse : Misuse) : Except Stop α := .error (.misuse title misuse)

/-- Understand the words of a command line. -/
def Invocation.ofWords (words : List String) : Except Stop Invocation := do
  let before ← mainGrammar.parse words
  let word := (before.wordAt? "action").getD ""
  match Command.ofWord? word with
  | none => misuse (.choice "action" word (Command.all.map Command.word))
  | some command =>
    let after ← command.grammar.parse (before.wordsAt "action").tail
    if (before.extra ++ after.extra).isEmpty then
      return ⟨before.value? "--config", before.value? "--log-level", command.request after⟩
    else misuse (.leftOver (before.extra ++ after.extra))

/-- The usage of the program. -/
def usage : String :=
  "usage: " ++ title ++ " [--config FILE] [--log-level LEVEL] " ++
    "|".intercalate (Command.all.map Command.word) ++ " ..."

end CommandLine

end Lag
