import Lag.Host.Limit
import Lag.Number.Reading

/-!
# The grammar of host expressions

The host reads a text by cutting it into lexemes and then by its grammar, production by production:
alternatives of conjunctions of negations of comparisons of sums of terms of signed primaries.
Operators of one level group to the left, adjacent comparisons form a chain, and a primary is an
atom followed by parts and calls. The grammar here has the productions that expressions of modules
use; a text that needs any other is not read.

Which characters a name may hold is looked at apart from the grammar.
-/
namespace Lag.Host

deriving instance DecidableEq for Literal

/-- The smallest pieces of a text. -/
inductive Lexeme where
  /-- A numeral. -/
  | numeral (value : Literal)
  /-- A quoted text. -/
  | text (value : String)
  /-- A word: a name or a keyword. -/
  | word (word : String)
  /-- A sign of one character or two. -/
  | sign (sign : String)
  deriving DecidableEq, Repr

/-- What the host reads. -/
inductive Phrase where
  /-- A literal. -/
  | literal (value : Literal)
  /-- A name. -/
  | name (name : String)
  /-- A part of something. -/
  | part (holder : Phrase) (name : String)
  /-- A call. -/
  | call (function : Phrase) (arguments : List Phrase)
  /-- A negation of truth. -/
  | not (operand : Phrase)
  /-- A change of sign. -/
  | negate (operand : Phrase)
  /-- An operator between its operands. -/
  | binary (op : Operator) (left right : Phrase)
  /-- A chain of comparisons: each operand is compared with the next. -/
  | compare (first : Phrase) (others : List (Operator × Phrase))
  deriving Repr

/-- The words that are no names. -/
def keywords : List String := [
  "False", "None", "True", "and", "as", "assert", "async", "await", "break", "class", "continue",
  "def", "del", "elif", "else", "except", "finally", "for", "from", "global", "if", "import", "in",
  "is", "lambda", "nonlocal", "not", "or", "pass", "raise", "return", "try", "while", "with",
  "yield"]

/-! ## Lexemes -/

/-- The value of a hexadecimal digit. -/
def hexValue? (c : Char) : Option Nat :=
  if '0'.toNat ≤ c.toNat ∧ c.toNat ≤ '9'.toNat then some (c.toNat - 48)
  else if 'a'.toNat ≤ c.toNat ∧ c.toNat ≤ 'f'.toNat then some (c.toNat - 87)
  else none

/-- A number of hexadecimal digits at the front of a text, after others. -/
def readHex : Nat → Nat → List Char → Option (Nat × List Char)
  | 0, value, rest => some (value, rest)
  | _ + 1, _, [] => none
  | width + 1, value, c :: rest => do readHex width (value * 16 + (← hexValue? c)) rest

/-- The letters after a backslash that announce the code of a character, with its digits. -/
def codeWidth? : Char → Option Nat
  | 'x' => some 2
  | 'u' => some 4
  | 'U' => some 8
  | _ => none

/-- The character that a letter after a backslash stands for. -/
def escaped? : Char → Option Char
  | '\\' => some '\\'
  | '\x27' => some '\x27'
  | '\x22' => some '\x22'
  | 'n' => some '\n'
  | 'r' => some '\r'
  | 't' => some '\t'
  | _ => none

/-- A character of a quoted text at the front of a text, which does not start with the mark. -/
def readChar : List Char → Option (Char × List Char)
  | [] => none
  | '\\' :: [] => none
  | '\\' :: letter :: rest =>
    match codeWidth? letter with
    | some width => do
      let (code, rest) ← readHex width 0 rest
      return (Char.ofNat code, rest)
    | none => do return (← escaped? letter, rest)
  | c :: rest => if c = '\n' ∨ c = '\r' then none else some (c, rest)

/-- A quoted text up to its mark; the first argument bounds the number of characters. -/
def readQuoted (mark : Char) : Nat → List Char → Option (List Char × List Char)
  | 0, _ => none
  | _ + 1, [] => none
  | bound + 1, c :: rest =>
    if c = mark then some ([], rest)
    else do
      let (first, rest) ← readChar (c :: rest)
      let (others, rest) ← readQuoted mark bound rest
      return (first :: others, rest)

/-- A text after the longest run of characters that a numeral may have, with the run: digits,
points and the letter of an exponent, and a sign after that letter. -/
def splitNumeral (signed : Bool) : List Char → List Char × List Char
  | [] => ([], [])
  | c :: rest =>
    if c.isDigit || c == '.' || c == 'e' || (signed && (c == '+' || c == '-')) then
      let (numeral, left) := splitNumeral (c == 'e') rest
      (c :: numeral, left)
    else ([], c :: rest)

/-- The value of a numeral: an integer if it has digits only. -/
def numeralValue? (numeral : List Char) : Option Literal :=
  if numeral.all Char.isDigit then some (.int (Nat.ofDigitChars 10 numeral 0))
  else (Number.readFloat (String.ofList numeral)).toOption.map .float

/-- The signs of two characters. -/
def longSigns : List (List Char) := [
  ['=', '='], ['!', '='], ['<', '='], ['>', '='], ['/', '/']]

/-- The signs of one character. -/
def shortSigns : List Char := ['+', '-', '*', '/', '%', '<', '>', '(', ')', ',', '.']

/-- The lexeme at the front of a text, which does not start with a blank. -/
def nextLexeme (c : Char) (rest : List Char) : Option (Lexeme × List Char) :=
  if c.isDigit then
    let (numeral, left) := splitNumeral false (c :: rest)
    (numeralValue? numeral).map fun value => (.numeral value, left)
  else if c = Text.apostrophe ∨ c = Text.doubleQuote then
    (readQuoted c (rest.length + 1) rest).map fun (chars, rest) =>
      (.text (String.ofList chars), rest)
  else if isWordChar c then
    let word := c :: rest.takeWhile isWordChar
    some (.word (String.ofList word), rest.dropWhile isWordChar)
  else if longSigns.contains (c :: rest.take 1) then
    some (.sign (String.ofList (c :: rest.take 1)), rest.drop 1)
  else if shortSigns.contains c then some (.sign c.toString, rest)
  else none

/-- The lexemes of a text. -/
def lexemes : List Char → Option (List Lexeme)
  | [] => some []
  | c :: rest =>
    if c = ' ' then lexemes rest
    else
      match nextLexeme c rest with
      | none => none
      | some (lexeme, left) =>
        if left.length ≤ rest.length then (lexemes left).map (lexeme :: ·) else none
  termination_by text => text.length

/-! ## Productions -/

/-- A reader of lexemes gives what it read and what is left. -/
abbrev Reader (α : Type) := List Lexeme → Option (α × List Lexeme)

/-- The operators with the signs and keywords that write them. -/
def operators : List (Lexeme × Operator) := [
  (.word "or", .or), (.word "and", .and), (.sign "==", .equal), (.sign "!=", .notEqual),
  (.sign "<", .less), (.sign ">", .greater), (.sign "<=", .lessEqual), (.sign ">=", .greaterEqual),
  (.sign "+", .add), (.sign "-", .subtract), (.sign "*", .multiply), (.sign "/", .divide),
  (.sign "//", .floorDivide), (.sign "%", .remainder)]

/-- The operator of a level that a lexeme writes. -/
def operator? (level : Level) (lexeme : Lexeme) : Option Operator :=
  ((operators.find? (·.1 == lexeme)).map (·.2)).filter (·.level == level)

/-- Operands that are joined by operators of a level, grouped to the left, after a first one. -/
def joined (level : Level) (operand : Reader Phrase) (left : Phrase) : Reader Phrase
  | [] => some (left, [])
  | lexeme :: rest =>
    match operator? level lexeme with
    | none => some (left, lexeme :: rest)
    | some op =>
      match operand rest with
      | none => none
      | some (right, remaining) =>
        if remaining.length ≤ rest.length then
          joined level operand (.binary op left right) remaining
        else none
  termination_by text => text.length

/-- Operands that are joined by operators of a level. -/
def chain (level : Level) (operand : Reader Phrase) : Reader Phrase := fun text =>
  match operand text with
  | none => none
  | some (first, rest) => joined level operand first rest

/-- The comparisons after a first operand. -/
def comparisons (operand : Reader Phrase) : Reader (List (Operator × Phrase))
  | [] => some ([], [])
  | lexeme :: rest =>
    match operator? comparisonLevel lexeme with
    | none => some ([], lexeme :: rest)
    | some op =>
      match operand rest with
      | none => none
      | some (right, remaining) =>
        if remaining.length ≤ rest.length then
          (comparisons operand remaining).map fun (others, left) => ((op, right) :: others, left)
        else none
  termination_by text => text.length

/-- An operand, or a chain of comparisons. -/
def comparison (operand : Reader Phrase) : Reader Phrase := fun text =>
  match operand text with
  | none => none
  | some (first, rest) =>
    match comparisons operand rest with
    | none => none
    | some ([], left) => some (first, left)
    | some (others, left) => some (.compare first others, left)

/-- A comparison after any number of negations of truth. -/
def inversion (operand : Reader Phrase) : Reader Phrase
  | .word "not" :: rest => (inversion operand rest).map fun (phrase, left) => (.not phrase, left)
  | text => operand text

/-- A primary after any number of changes of sign. -/
def factor (operand : Reader Phrase) : Reader Phrase
  | .sign "-" :: rest => (factor operand rest).map fun (phrase, left) => (.negate phrase, left)
  | text => operand text

/-- The arguments of a call after the first one, up to the closing parenthesis. -/
def laterArguments (expression : Reader Phrase) : Reader (List Phrase)
  | .sign ")" :: rest => some ([], rest)
  | .sign "," :: rest =>
    match expression rest with
    | none => none
    | some (first, remaining) =>
      if remaining.length ≤ rest.length then
        (laterArguments expression remaining).map fun (others, left) => (first :: others, left)
      else none
  | _ => none
  termination_by text => text.length

/-- The arguments of a call, up to the closing parenthesis. -/
def argumentsOf (expression : Reader Phrase) : Reader (List Phrase)
  | .sign ")" :: rest => some ([], rest)
  | text =>
    match expression text with
    | none => none
    | some (first, rest) =>
      (laterArguments expression rest).map fun (others, left) => (first :: others, left)

/-- The parts and calls after an atom. -/
def trailers (expression : Reader Phrase) (holder : Phrase) : Reader Phrase
  | .sign "." :: .word name :: rest =>
    if keywords.contains name then none else trailers expression (.part holder name) rest
  | .sign "(" :: rest =>
    match argumentsOf expression rest with
    | none => none
    | some (arguments, remaining) =>
      if remaining.length ≤ rest.length then
        trailers expression (.call holder arguments) remaining
      else none
  | text => some (holder, text)
  termination_by text => text.length

/-- A literal, a name, or an expression in parentheses. -/
def atom (expression : Reader Phrase) : Reader Phrase
  | .numeral value :: rest => some (.literal value, rest)
  | .text value :: rest => some (.literal (.string value), rest)
  | .word "True" :: rest => some (.literal (.bool true), rest)
  | .word "False" :: rest => some (.literal (.bool false), rest)
  | .word name :: rest => if keywords.contains name then none else some (.name name, rest)
  | .sign "(" :: rest =>
    match expression rest with
    | some (phrase, .sign ")" :: left) => some (phrase, left)
    | _ => none
  | _ => none

/-- An atom with its parts and calls. -/
def primary (expression : Reader Phrase) : Reader Phrase := fun text =>
  match atom expression text with
  | none => none
  | some (holder, rest) => trailers expression holder rest

/-- The production of a level, on top of the productions of the levels above it. -/
def atLeast (expression : Reader Phrase) : Level → Reader Phrase
  | 1 => chain 1 (chain 2 (inversion (comparison (chain 5 (chain 6 (factor (primary expression)))))))
  | 2 => chain 2 (inversion (comparison (chain 5 (chain 6 (factor (primary expression))))))
  | 3 => inversion (comparison (chain 5 (chain 6 (factor (primary expression)))))
  | 4 => comparison (chain 5 (chain 6 (factor (primary expression))))
  | 5 => chain 5 (chain 6 (factor (primary expression)))
  | 6 => chain 6 (factor (primary expression))
  | 7 => factor (primary expression)
  | _ => primary expression

/-- An expression with parentheses nested below a depth. -/
def expression : Nat → Reader Phrase
  | 0 => fun _ => none
  | depth + 1 => atLeast (expression depth) 1

/-- What the host reads in a text. -/
def readPhrase (text : String) : Option Phrase :=
  match lexemes text.toList with
  | none => none
  | some found =>
    match expression (found.length + 1) found with
    | some (phrase, []) => some phrase
    | _ => none

/-- Comparisons next to each other form a chain, and signs bind more strongly than products. -/
example : readPhrase "a < -b * c == d" = some (.compare (.name "a")
    [(.less, .binary .multiply (.negate (.name "b")) (.name "c")), (.equal, .name "d")]) := by
  cbv

end Lag.Host
