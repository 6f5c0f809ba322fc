import Lag.Document.Fault

/-!
# Lexemes of documents

The text of a document is a sequence of lexemes: scalars, the signs between them, and the starts and
ends of blocks, which the indentation gives. `Lexeme.Kind.name` is how messages call one.
-/
namespace Lag.Document

/-- What a line before a document says about it. -/
inductive Directive where
  /-- The version of the format. -/
  | version (major minor : Nat)
  /-- What a handle of tags stands for. -/
  | handle (handle meaning : String)
  /-- Something that is not known. -/
  | other
  deriving DecidableEq, Repr

/-- A tag as it is written. -/
structure TagWord where
  /-- The handle before it, if there is one. -/
  handle : Option String
  /-- What follows the handle. -/
  suffix : String
  deriving DecidableEq, Repr

/-- What a lexeme is. -/
inductive Lexeme.Kind where
  /-- A line before a document. -/
  | directive (value : Directive)
  /-- The mark before a document. -/
  | documentStart
  /-- The mark after a document. -/
  | documentEnd
  /-- The end of the text. -/
  | textEnd
  /-- The start of a list in rows. -/
  | listStart
  /-- The start of a mapping in rows. -/
  | mappingStart
  /-- The end of a list or a mapping in rows. -/
  | blockEnd
  /-- The bracket before a list. -/
  | openBracket
  /-- The bracket after a list. -/
  | closeBracket
  /-- The brace before a mapping. -/
  | openBrace
  /-- The brace after a mapping. -/
  | closeBrace
  /-- The start of a key. -/
  | key
  /-- The colon before a value. -/
  | value
  /-- The dash before an item of a list. -/
  | dash
  /-- The comma between what stands in brackets. -/
  | comma
  /-- A name that stands for what it was given to. -/
  | alias (name : String)
  /-- A name that is given. -/
  | anchor (name : String)
  /-- A tag. -/
  | tag (word : TagWord)
  /-- A scalar. The flag says that it stands without quotation marks. -/
  | scalar (text : String) (isPlain : Bool)
  deriving DecidableEq, Repr

/-- A lexeme with its places. -/
structure Lexeme where
  /-- What it is. -/
  kind : Lexeme.Kind
  /-- Where it starts. -/
  start : Mark
  /-- Where it ends. -/
  stop : Mark
  deriving DecidableEq, Repr

/-- How messages call a lexeme. -/
def Lexeme.Kind.name : Lexeme.Kind → String
  | .directive _ => "<directive>"
  | .documentStart => "<document start>"
  | .documentEnd => "<document end>"
  | .textEnd => "<stream end>"
  | .listStart => "<block sequence start>"
  | .mappingStart => "<block mapping start>"
  | .blockEnd => "<block end>"
  | .openBracket => "["
  | .closeBracket => "]"
  | .openBrace => "\x7b"
  | .closeBrace => "\x7d"
  | .key => "?"
  | .value => ":"
  | .dash => "-"
  | .comma => ","
  | .alias _ => "<alias>"
  | .anchor _ => "<anchor>"
  | .tag _ => "<tag>"
  | .scalar _ _ => "<scalar>"

end Lag.Document
