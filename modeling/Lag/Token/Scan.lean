import Lag.Number.Reading
import Lag.Source.Diagnostic
import Lag.Text.Lines
import Lag.Token

/-!
# Reading tokens

A source text is a sequence of tokens with gaps between them. A gap is made of spaces, tabs,
carriage returns, line feeds, comments to the end of the line, and comments in brackets, which
nest. Every reader here takes the characters that are left and says which of them it consumed, so
that places follow from the consumed characters alone (`Source.Location.after`).

A reader that fails names its cause, the characters before the fault and the characters of the
fault. Numbers have a second way to fail: a character may have a digit value without being a
decimal digit, and an integer may have too many digits; these causes have no place.
-/
namespace Lag.Scan

/-- Why a source text is no sequence of tokens. -/
inductive Cause where
  /-- No token starts with the character. -/
  | unexpectedCharacter (c : Char)
  /-- A text is not closed on its line. -/
  | unterminatedString
  /-- A comment in brackets is not closed. -/
  | unterminatedComment
  /-- The character after a backslash stands for nothing; none at the end of the text. -/
  | invalidEscape (c : Option Char)
  /-- A number is followed by characters that cannot follow it. -/
  | invalidNumber (lexeme : String)
  deriving DecidableEq, Repr

/-- The code of a cause. -/
def Cause.code : Cause → String
  | .unexpectedCharacter _ => "E001"
  | .unterminatedString => "E002"
  | .unterminatedComment => "E004"
  | .invalidEscape _ => "E005"
  | .invalidNumber _ => "E006"

/-- The wording of a cause. -/
def Cause.message : Cause → String
  | .unexpectedCharacter c => "unexpected character '" ++ c.toString ++ "'"
  | .unterminatedString => "unterminated string literal"
  | .unterminatedComment => "unterminated multi-line comment (expected closing */)"
  | .invalidEscape none => "invalid escape sequence '\\'"
  | .invalidEscape (some c) => "invalid escape sequence '\\" ++ c.toString ++ "'"
  | .invalidNumber lexeme => "invalid number literal '" ++ lexeme ++ "'"

/-- Advice on a cause. -/
def Cause.hints : Cause → List String
  | .unterminatedString => ["string literals must be closed with '\"' on the same line"]
  | .invalidEscape _ => ["valid escape sequences: \\n, \\t, \\r, \\\", \\\\, \\0"]
  | _ => []

/-- A failure of a reader. -/
inductive Fault where
  /-- A fault with a place: the characters consumed before it and its own characters. -/
  | located (cause : Cause) (before inside : List Char)
  /-- A numeral that cannot be converted. -/
  | numeral (fault : Number.ReadFault)
  deriving DecidableEq, Repr

/-- Whether a character is a gap by itself. -/
def isGap (c : Char) : Bool := c == ' ' || c == '\t' || c == '\r' || c == '\n'

/-- The length of a comment in brackets from inside it, up to and with its last closing bracket;
the argument is the number of open brackets. None when one stays open. -/
def commentLength? : Nat → List Char → Option Nat
  | 0, _ => some 0
  | _ + 1, [] => none
  | depth + 1, '/' :: '*' :: rest => (commentLength? (depth + 2) rest).map (· + 2)
  | depth + 1, '*' :: '/' :: rest => (commentLength? depth rest).map (· + 2)
  | depth + 1, _ :: rest => (commentLength? (depth + 1) rest).map (· + 1)

/-- The gap at the front of a text: its length. Fails in a comment that is not closed. -/
def gapLength : List Char → Except Fault Nat
  | [] => .ok 0
  | '/' :: '/' :: rest =>
    let comment := rest.takeWhile (· != '\n')
    match gapLength (rest.drop comment.length) with
    | .ok length => .ok (2 + comment.length + length)
    | .error (.located cause before inside) =>
      .error (.located cause ('/' :: '/' :: comment ++ before) inside)
    | .error fault => .error fault
  | '/' :: '*' :: rest =>
    match commentLength? 1 rest with
    | none => .error (.located .unterminatedComment [] ('/' :: '*' :: rest))
    | some size =>
      match gapLength (rest.drop size) with
      | .ok length => .ok (2 + size + length)
      | .error (.located cause before inside) =>
        .error (.located cause ('/' :: '*' :: rest.take size ++ before) inside)
      | .error fault => .error fault
  | c :: rest =>
    if isGap c then
      match gapLength rest with
      | .ok length => .ok (1 + length)
      | .error (.located cause before inside) => .error (.located cause (c :: before) inside)
      | .error fault => .error fault
    else .ok 0
  termination_by text => text.length
  decreasing_by all_goals simp only [List.length_drop, List.length_cons]; omega

/-- A token without its place: its kind, the characters it consumes, and its value. -/
structure Piece where
  /-- The kind of the token. -/
  kind : TokenKind
  /-- The characters consumed. -/
  lexeme : List Char
  /-- The value of a literal. -/
  literal : Option Literal := none
  deriving Repr

/-- What a character stands for after a backslash. -/
def escaped? : Char → Option Char
  | 'n' => some '\n'
  | 't' => some '\t'
  | 'r' => some '\r'
  | '\\' => some '\\'
  | '\x22' => some '\x22'
  | '0' => some '\x00'
  | _ => none

/-- The rest of a text in double quotes: the characters consumed, with the closing quote, and the
characters they stand for. -/
def stringBody : List Char → Except Fault (List Char × List Char)
  | [] => .error (.located .unterminatedString [] [])
  | '\x22' :: _ => .ok (['\x22'], [])
  | '\n' :: _ => .error (.located .unterminatedString [] [])
  | ['\\'] => .error (.located (.invalidEscape none) ['\\'] [])
  | '\\' :: c :: rest =>
    match escaped? c with
    | none => .error (.located (.invalidEscape (some c)) ['\\'] [c])
    | some value =>
      match stringBody rest with
      | .ok (consumed, values) => .ok ('\\' :: c :: consumed, value :: values)
      | .error fault => .error (pass ['\\', c] fault)
  | c :: rest =>
    match stringBody rest with
    | .ok (consumed, values) => .ok (c :: consumed, c :: values)
    | .error fault => .error (pass [c] fault)
where
  /-- A fault further on: a text that is not closed is at fault from its start, an escape
  sequence by itself. -/
  pass (read : List Char) : Fault → Fault
    | .located .unterminatedString before inside =>
      .located .unterminatedString before (read ++ inside)
    | .located cause before inside => .located cause (read ++ before) inside
    | fault => fault

/-- A text in double quotes, from its opening quote on. -/
def string (rest : List Char) : Except Fault Piece :=
  match stringBody rest with
  | .ok (consumed, values) =>
    .ok ⟨.stringLiteral, '\x22' :: consumed, some (.string (String.ofList values))⟩
  | .error fault => .error (stringBody.pass ['\x22'] fault)

/-- The fraction at the front of a text, with its point, when a digit follows the point. -/
def fraction : List Char → List Char
  | '.' :: c :: rest => if Text.isDigit c then '.' :: (c :: rest).takeWhile Text.isDigit else []
  | _ => []

/-- The mark and the sign of an exponent at the front of a text. -/
def exponentHead : List Char → List Char
  | 'e' :: '+' :: _ => ['e', '+']
  | 'e' :: '-' :: _ => ['e', '-']
  | 'E' :: '+' :: _ => ['E', '+']
  | 'E' :: '-' :: _ => ['E', '-']
  | 'e' :: _ => ['e']
  | 'E' :: _ => ['E']
  | _ => []

/-- Whether a character may stand in a name after its first. -/
def isNameChar (c : Char) : Bool := Text.isAlphanumeric c || c == '_'

/-- Whether a character may start a name. -/
def isNameStart (c : Char) : Bool := Text.isLetter c || c == '_'

/-- The value of a number that was read. -/
def numberPiece (isFloat : Bool) (lexeme : List Char) : Except Fault Piece :=
  let text := String.ofList lexeme
  if isFloat then
    match Number.readFloat text with
    | .ok value => .ok ⟨.floatLiteral, lexeme, some (.float value)⟩
    | .error fault => .error (.numeral fault)
  else
    match Number.readInt text with
    | .ok value => .ok ⟨.intLiteral, lexeme, some (.int value.toNat)⟩
    | .error fault => .error (.numeral fault)

/-- A number, at its first digit. Two points after the digits are a range and no fraction. -/
def number (text : List Char) : Except Fault Piece :=
  let whole := text.takeWhile Text.isDigit
  let part := fraction (text.drop whole.length)
  let simple := whole ++ part
  let mark := exponentHead (text.drop simple.length)
  let power := (text.drop (simple.length + mark.length)).takeWhile Text.isDigit
  let lexeme := simple ++ mark ++ power
  let trail := (text.drop lexeme.length).takeWhile isNameChar
  let invalid (read : List Char) : Except Fault Piece :=
    .error (.located (.invalidNumber (String.ofList read)) [] read)
  if !mark.isEmpty && power.isEmpty then invalid lexeme
  else if trail.head?.any isNameStart then invalid (lexeme ++ trail)
  else numberPiece (!part.isEmpty || !mark.isEmpty) lexeme

/-- A name or a keyword, at its first character. -/
def word (text : List Char) : Piece :=
  let lexeme := text.takeWhile isNameChar
  let kind := TokenKind.ofWord (String.ofList lexeme)
  let literal :=
    if kind = .boolLiteral then some (.bool (String.ofList lexeme == "true")) else none
  ⟨kind, lexeme, literal⟩

/-- An operator or punctuation of one character. -/
def sign (c : Char) : Except Fault Piece :=
  match TokenKind.ofChar? c with
  | some kind => .ok ⟨kind, [c], none⟩
  | none => .error (.located (.unexpectedCharacter c) [] [c])

/-- The token at the front of a text that does not start with a gap. -/
def piece (c : Char) (rest : List Char) : Except Fault Piece :=
  if c = '\x22' then string rest
  else if Text.isDigit c then number (c :: rest)
  else if isNameStart c then .ok (word (c :: rest))
  else
    match rest with
    | next :: _ =>
      match TokenKind.ofPair? c next with
      | some kind => .ok ⟨kind, [c, next], none⟩
      | none => sign c
    | [] => sign c

/-- A failure with its place. -/
inductive Error where
  /-- The text is at fault at a place. -/
  | located (cause : Cause) (span : Source.Span)
  /-- A numeral cannot be converted. -/
  | numeral (fault : Number.ReadFault)
  deriving DecidableEq, Repr

/-- The place of a fault that was met at a place. -/
def Fault.toError (file : Option String) (place : Source.Location) : Fault → Error
  | .located cause before inside =>
    let start := place.after before
    .located cause ⟨file, start, start.after inside⟩
  | .numeral fault => .numeral fault

/-- The tokens of a text from a place on, up to its end or to the first failure. A token that
consumes nothing ends the text; no reader returns one. -/
def tokensFrom (file : Option String) (place : Source.Location) (text : List Char) :
    List Token × Option Error :=
  match gapLength text with
  | .error fault => ([], some (fault.toError file place))
  | .ok gap =>
    let start := place.after (text.take gap)
    match _ahead : text.drop gap with
    | [] => ([⟨.endOfText, "", ⟨file, start, start⟩, none⟩], none)
    | c :: more =>
      match piece c more with
      | .error fault => ([], some (fault.toError file start))
      | .ok found =>
        let stop := start.after found.lexeme
        let token : Token :=
          ⟨found.kind, String.ofList found.lexeme, ⟨file, start, stop⟩, found.literal⟩
        if found.lexeme.isEmpty then ([token], none)
        else
          let (tokens, failure) := tokensFrom file stop ((c :: more).drop found.lexeme.length)
          (token :: tokens, failure)
  termination_by text.length
  decreasing_by
    rename_i some_char
    have shorter : (c :: more).length ≤ text.length := by rw [← _ahead]; simp
    have used : 0 < found.lexeme.length := by
      cases empty : found.lexeme with
      | nil => simp [empty] at some_char
      | cons => simp
    simp only [List.length_drop, List.length_cons] at *
    omega

/-- The tokens of a source text, with the failure that ended them. -/
def scan (source : String) (file : Option String) : List Token × Option Error :=
  tokensFrom file {} source.toList

/-- The diagnostic of a failure that has a place, quoting a line of the source. -/
def diagnostic (lines : Array String) (cause : Cause) (span : Source.Span) : Source.Diagnostic where
  code := cause.code
  message := cause.message
  span := some span
  sourceLine := Text.lineAt? lines span.start.line
  hints := cause.hints

end Lag.Scan
