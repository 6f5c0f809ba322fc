import Lag.Number.Shortest
import Lag.Source.Span
import Lag.Text.Quoted

/-!
# Tokens

The words of a Lag source text: literals, names, keywords, operators and punctuation, and the end
of the text. A token keeps its lexeme, the characters it was read from, its place, and the value
that a literal stands for.
-/
namespace Lag

/-- The kinds of tokens. -/
inductive TokenKind where
  /-- A whole number. -/
  | intLiteral
  /-- A number with a fraction or an exponent. -/
  | floatLiteral
  /-- A text in double quotes. -/
  | stringLiteral
  /-- One of the words `true` and `false`. -/
  | boolLiteral
  /-- A name. -/
  | identifier
  /-- The word `let`. -/
  | letWord
  /-- The word `fn`. -/
  | fnWord
  /-- The word `return`. -/
  | returnWord
  /-- The word `if`. -/
  | ifWord
  /-- The word `else`. -/
  | elseWord
  /-- The word `while`. -/
  | whileWord
  /-- The word `for`. -/
  | forWord
  /-- The word `in`. -/
  | inWord
  /-- The type `int`. -/
  | intType
  /-- The type `float`. -/
  | floatType
  /-- The type `bool`. -/
  | boolType
  /-- The type `string`. -/
  | stringType
  /-- The type `void`. -/
  | voidType
  /-- The operator `+`. -/
  | plus
  /-- The operator `-`. -/
  | minus
  /-- The operator `*`. -/
  | star
  /-- The operator `/`. -/
  | slash
  /-- The operator `%`. -/
  | percent
  /-- The operator `<`. -/
  | less
  /-- The operator `>`. -/
  | greater
  /-- The operator `<=`. -/
  | lessEqual
  /-- The operator `>=`. -/
  | greaterEqual
  /-- The operator `==`. -/
  | equal
  /-- The operator `!=`. -/
  | notEqual
  /-- The operator `&&`. -/
  | and
  /-- The operator `||`. -/
  | or
  /-- The operator `!`. -/
  | not
  /-- The sign `=`. -/
  | assign
  /-- The left brace. -/
  | leftBrace
  /-- The right brace. -/
  | rightBrace
  /-- The left parenthesis. -/
  | leftParen
  /-- The right parenthesis. -/
  | rightParen
  /-- The colon. -/
  | colon
  /-- The semicolon. -/
  | semicolon
  /-- The comma. -/
  | comma
  /-- The sign `->`. -/
  | arrow
  /-- The sign `..`. -/
  | range
  /-- The end of the text. -/
  | endOfText
  deriving DecidableEq, Repr, Inhabited

namespace TokenKind

/-- The name under which a kind is listed. -/
def name : TokenKind → String
  | .intLiteral => "INT_LITERAL"
  | .floatLiteral => "FLOAT_LITERAL"
  | .stringLiteral => "STRING_LITERAL"
  | .boolLiteral => "BOOL_LITERAL"
  | .identifier => "IDENTIFIER"
  | .letWord => "LET"
  | .fnWord => "FN"
  | .returnWord => "RETURN"
  | .ifWord => "IF"
  | .elseWord => "ELSE"
  | .whileWord => "WHILE"
  | .forWord => "FOR"
  | .inWord => "IN"
  | .intType => "TYPE_INT"
  | .floatType => "TYPE_FLOAT"
  | .boolType => "TYPE_BOOL"
  | .stringType => "TYPE_STRING"
  | .voidType => "TYPE_VOID"
  | .plus => "PLUS"
  | .minus => "MINUS"
  | .star => "STAR"
  | .slash => "SLASH"
  | .percent => "PERCENT"
  | .less => "LT"
  | .greater => "GT"
  | .lessEqual => "LE"
  | .greaterEqual => "GE"
  | .equal => "EQ"
  | .notEqual => "NE"
  | .and => "AND"
  | .or => "OR"
  | .not => "NOT"
  | .assign => "ASSIGN"
  | .leftBrace => "LBRACE"
  | .rightBrace => "RBRACE"
  | .leftParen => "LPAREN"
  | .rightParen => "RPAREN"
  | .colon => "COLON"
  | .semicolon => "SEMICOLON"
  | .comma => "COMMA"
  | .arrow => "ARROW"
  | .range => "RANGE"
  | .endOfText => "EOF"

/-- The keywords with their kinds. -/
def keywords : List (String × TokenKind) :=
  [("let", .letWord), ("fn", .fnWord), ("return", .returnWord), ("if", .ifWord),
    ("else", .elseWord), ("while", .whileWord), ("for", .forWord), ("in", .inWord),
    ("true", .boolLiteral), ("false", .boolLiteral), ("int", .intType), ("float", .floatType),
    ("bool", .boolType), ("string", .stringType), ("void", .voidType)]

/-- The kind of a word. -/
def ofWord (word : String) : TokenKind := (keywords.lookup word).getD .identifier

/-- The signs of two characters. -/
def ofPair? : Char → Char → Option TokenKind
  | '-', '>' => some .arrow
  | '=', '=' => some .equal
  | '!', '=' => some .notEqual
  | '<', '=' => some .lessEqual
  | '>', '=' => some .greaterEqual
  | '&', '&' => some .and
  | '|', '|' => some .or
  | '.', '.' => some .range
  | _, _ => none

/-- The signs of one character. -/
def ofChar? : Char → Option TokenKind
  | '+' => some .plus
  | '-' => some .minus
  | '*' => some .star
  | '/' => some .slash
  | '%' => some .percent
  | '<' => some .less
  | '>' => some .greater
  | '!' => some .not
  | '=' => some .assign
  | '\x7b' => some .leftBrace
  | '\x7d' => some .rightBrace
  | '(' => some .leftParen
  | ')' => some .rightParen
  | ':' => some .colon
  | ';' => some .semicolon
  | ',' => some .comma
  | _ => none

/-- Whether a kind is a type. -/
def isType : TokenKind → Bool
  | .intType | .floatType | .boolType | .stringType | .voidType => true
  | _ => false

/-- How messages spell the kinds that have one spelling of their own. -/
def spelling? : TokenKind → Option String
  | .leftBrace => some "'\x7b'"
  | .rightBrace => some "'\x7d'"
  | .leftParen => some "'('"
  | .rightParen => some "')'"
  | .colon => some "':'"
  | .semicolon => some "';'"
  | .comma => some "','"
  | .arrow => some "'->'"
  | .range => some "'..'"
  | .assign => some "'='"
  | .endOfText => some "end of input"
  | _ => none

end TokenKind

/-- What a literal stands for. -/
inductive Literal where
  /-- A whole number. -/
  | int (value : Nat)
  /-- A float. -/
  | float (value : Float)
  /-- A text. -/
  | string (value : String)
  /-- A truth value. -/
  | bool (value : Bool)
  deriving Repr, Inhabited

/-- A token. -/
structure Token where
  /-- Its kind. -/
  kind : TokenKind
  /-- The characters it was read from, none for the end of the text. -/
  lexeme : String
  /-- Its place. -/
  span : Source.Span
  /-- What it stands for, when it is a literal. -/
  literal : Option Literal := none
  deriving Repr, Inhabited

namespace Token

/-- How messages name a token. -/
def describe (token : Token) : String :=
  match token.kind.spelling? with
  | some spelling => spelling
  | none => if token.lexeme = "" then token.kind.name else "'" ++ token.lexeme ++ "'"

/-- The value of a token as it is listed: for numbers, texts and names only. -/
def listedValue (token : Token) : Option String :=
  match token.kind, token.literal with
  | .intLiteral, some (.int value) => some (toString value)
  | .floatLiteral, some (.float value) => some (Number.floatText value)
  | .stringLiteral, some (.string value) => some (Text.quoted value)
  | .identifier, _ => some (Text.quoted token.lexeme)
  | _, _ => none

/-- The entry of a token in a list: the name of its kind, and its value in parentheses when it
is listed. -/
def entry (token : Token) : String :=
  match token.listedValue with
  | some value => token.kind.name ++ "(" ++ value ++ ")"
  | none => token.kind.name

end Token

end Lag
