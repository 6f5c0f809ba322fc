import Lag.Document
import Lag.Number.Reading

/-!
# Tags

The tag of a part of a text says what document it stands for. A plain scalar without a tag has the
one of the words it looks like: nothing, a truth value, an integer, a float, a day or moment, or one
of two signs with a meaning in mappings; all others are texts. Integers may be written in base two,
eight, ten and sixteen, and, like floats, in base sixty with colons. A float has a point, and a sign
before its exponent. Underscores may stand between digits.
-/
namespace Lag.Document

/-- A tag. -/
inductive Tag where
  /-- Nothing. -/
  | null
  /-- A truth value. -/
  | bool
  /-- An integer. -/
  | int
  /-- A float. -/
  | float
  /-- Bytes. -/
  | binary
  /-- A day or a moment. -/
  | timestamp
  /-- A list of pairs whose keys have an order. -/
  | omap
  /-- A list of pairs. -/
  | pairs
  /-- A set. -/
  | set
  /-- A text. -/
  | str
  /-- A list. -/
  | seq
  /-- A mapping. -/
  | map
  /-- The key of entries that are merged into a mapping. -/
  | merge
  /-- The key of the value that a mapping stands for. -/
  | value
  /-- Another tag. -/
  | other (text : String)
  deriving DecidableEq, Repr, Inhabited

namespace Tag

/-- The names of the tags that are known. -/
def names : List (String × Tag) :=
  [("null", .null), ("bool", .bool), ("int", .int), ("float", .float), ("binary", .binary),
    ("timestamp", .timestamp), ("omap", .omap), ("pairs", .pairs), ("set", .set), ("str", .str),
    ("seq", .seq), ("map", .map), ("merge", .merge), ("value", .value)]

/-- What stands before the names of the tags that are known. -/
def standard : String := "tag:yaml.org,2002:"

/-- The name of a tag that is known. -/
def name (tag : Tag) : String := ((names.find? fun (_, known) => known == tag).map Prod.fst).getD ""

/-- The text of a tag. -/
def toText : Tag → String
  | .other unknown => unknown
  | tag => standard ++ tag.name

/-- The tag with a text. -/
def ofText (text : String) : Tag :=
  ((names.find? fun (known, _) => standard ++ known == text).map Prod.snd).getD (.other text)

end Tag

/-! ## Words -/

/-- The words for nothing. -/
def nullWords : List String := ["", "~", "null", "Null", "NULL"]

/-- The words for yes. -/
def trueWords : List String := ["yes", "Yes", "YES", "true", "True", "TRUE", "on", "On", "ON"]

/-- The words for no. -/
def falseWords : List String := ["no", "No", "NO", "false", "False", "FALSE", "off", "Off", "OFF"]

/-- Whether a text is a digit and then digits and underscores. -/
def isDigits (first rest : Char → Bool) : List Char → Bool
  | [] => false
  | c :: more => first c && more.all fun c => rest c || c == '_'

/-- Whether a text is not empty and of some characters and underscores. -/
def isRun (kind : Char → Bool) (text : List Char) : Bool :=
  !text.isEmpty && text.all fun c => kind c || c == '_'

/-- Whether a character is a digit but zero. -/
def isCountDigit (c : Char) : Bool := c.isDigit && c != '0'

/-- Whether a character is a digit of base eight. -/
def isOctalDigit (c : Char) : Bool := '0' ≤ c && c ≤ '7'

/-- Whether a text is a number below sixty in one or two digits. -/
def isSixtieth : List Char → Bool
  | [digit] => digit.isDigit
  | [tens, digit] => '0' ≤ tens && tens ≤ '5' && digit.isDigit
  | _ => false

/-- Whether a text without its sign is an integer. -/
def isIntegerWord (body : List Char) : Bool :=
  match body with
  | ['0'] => true
  | '0' :: 'b' :: digits => isRun (fun c => c == '0' || c == '1') digits
  | '0' :: 'x' :: digits => isRun (fun c => (Number.digitIn? 16 c).isSome && c.toNat < 0x80) digits
  | '0' :: digits => isRun isOctalDigit digits
  | body =>
    match body.splitOn ':' with
    | first :: parts => isDigits isCountDigit Char.isDigit first && parts.all isSixtieth
    | [] => false

/-- Whether the end of a float is an exponent with a sign, or nothing. -/
def isExponent : List Char → Bool
  | [] => true
  | mark :: sign :: digits =>
    (mark == 'e' || mark == 'E') && (sign == '-' || sign == '+') && !digits.isEmpty &&
      digits.all Char.isDigit
  | _ => false

/-- Whether a character may stand between the digits of a float. -/
def isFloatDigit (c : Char) : Bool := c.isDigit || c == '_'

/-- Whether a text without its sign is a float with digits. Without digits before the point it has
no sign. -/
def isDecimalWord (hasSign : Bool) (body : List Char) : Bool :=
  let whole := body.takeWhile (· != '.')
  match body.dropWhile (· != '.') with
  | _ :: rest =>
    let fraction := rest.takeWhile isFloatDigit
    let exponent := rest.dropWhile isFloatDigit
    match whole.splitOn ':' with
    | [[]] => !hasSign && fraction.head?.any Char.isDigit && isExponent exponent
    | [digits] => isDigits Char.isDigit Char.isDigit digits && isExponent exponent
    | first :: parts =>
      isDigits Char.isDigit Char.isDigit first && parts.all isSixtieth && exponent.isEmpty
    | [] => false
  | [] => false

/-- Whether a word is a float. -/
def isFloatWord (word : List Char) : Bool :=
  let (_, body) := Number.takeSign word
  let hasSign := word.length != body.length
  let name := String.ofList body
  [".inf", ".Inf", ".INF"].contains name || (!hasSign && [".nan", ".NaN", ".NAN"].contains name) ||
    isDecimalWord hasSign body

/-- The tag of a word. -/
def Tag.ofWord (word : List Char) : Tag :=
  let name := String.ofList word
  if nullWords.contains name then .null
  else if trueWords.contains name || falseWords.contains name then .bool
  else if isFloatWord word then .float
  else if isIntegerWord (Number.takeSign word).2 then .int
  else if (Calendar.Stamp.ofChars? word).any Calendar.Stamp.isPlain then .timestamp
  else if name = "<<" then .merge
  else if name = "=" then .value
  else .str

/-- The tag of a scalar without one. A line end after a word does not make it another word. -/
def Tag.ofScalar (text : String) : Tag :=
  let chars := text.toList
  if chars.getLast? = some '\n' ∧ chars ≠ ['\n'] then Tag.ofWord chars.dropLast
  else Tag.ofWord chars

/-- The text of a tag gives the tag back. -/
theorem Tag.ofText_toText (tag : Tag) (known : ∀ text, tag ≠ .other text) :
    Tag.ofText tag.toText = tag := by
  cases tag with
  | other unknown => exact absurd rfl (known unknown)
  | _ => rfl

end Lag.Document
