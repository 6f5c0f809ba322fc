import Lag.Document.Cursor
import Lag.Document.Lexeme

/-!
# Directives, names and tags

A directive is a line that starts with a percent sign. A name follows an ampersand where it is
given and an asterisk where it is used. A tag follows an exclamation mark: it is a handle and a
suffix, or stands between angle brackets. In a tag a percent sign and two hexadecimal digits stand
for a byte.
-/
namespace Lag.Document

namespace Scan

/-- Whether a character is a hexadecimal digit. -/
def isHexDigit (c : Char) : Bool := (Number.digitIn? 16 c).isSome && c.toNat < 0x80

/-- A number of hexadecimal digits. -/
def takeHex (activity : Activity) (start : Mark) (wanted : String) (count : Nat) : Scan Nat := do
  let digits := ((← get).run isHexDigit).take count
  if digits.length < count then
    fail activity start (.expected wanted ((← get).lookAt digits.length))
  move count
  return Number.ofDigits 16 (digits.filterMap (Number.digitIn? 16))

/-! ## Names -/

/-- What is wanted where a name should stand. -/
def nameWanted : String := "alphabetic or numeric character"

/-- A name. -/
def takeName (activity : Activity) (start : Mark) : Scan String := do
  let name ← takeWhile isNameChar
  if name.isEmpty then expect activity start nameWanted fun _ => false
  return String.ofList name

/-- Whether a name that is given or used may end at a character. -/
def endsName (c : Char) : Bool :=
  isGap c || ['?', ':', ',', ']', '\x7d', '%', '@', '\x60'].contains c

/-- A name after the sign that gives or uses it. -/
def scanName (what : String) (kind : String → Lexeme.Kind) : Scan Lexeme := do
  let start ← here
  move 1
  let name ← takeName (.scanning what) start
  expect (.scanning what) start nameWanted endsName
  return ⟨kind name, start, ← here⟩

/-! ## Tags -/

/-- Whether a character may stand in a tag. -/
def isTagChar (c : Char) : Bool :=
  isNameChar c || (";/?:@&=+$,.!~*\x27()[]%".toList).contains c

/-- The bytes that percent signs stand for. -/
def takeBytes (activity : Activity) (start : Mark) : Nat → Scan (List UInt8)
  | 0 => return []
  | fuel + 1 => do
    if (← look) != '%' then return []
    move 1
    let byte ← takeHex activity start "URI escape sequence of 2 hexadecimal numbers" 2
    return UInt8.ofNat byte :: (← takeBytes activity start fuel)

/-- The characters that percent signs stand for. -/
def takeEscapes (activity : Activity) (start : Mark) : Scan (List Char) := do
  let cursor ← get
  let bytes ← takeBytes activity start cursor.rest.length
  match Text.decodeUtf8From 0 bytes with
  | .ok chars => return chars
  | .error fault =>
    throw (.problem (some ⟨activity, some start⟩) (.escape fault) cursor.mark)

/-- The characters of a tag. -/
def takeTagChars (activity : Activity) (start : Mark) : Nat → Scan (List Char)
  | 0 => return []
  | fuel + 1 => do
    let found ← look
    if found == '%' then
      let chars ← takeEscapes activity start
      return chars ++ (← takeTagChars activity start fuel)
    if !isTagChar found then return []
    move 1
    return found :: (← takeTagChars activity start fuel)

/-- The part of a tag after its handle. -/
def takeSuffix (what : String) (start : Mark) : Scan String := do
  let cursor ← get
  let chars ← takeTagChars (.scanning what) start cursor.rest.length
  if (← get).index = cursor.index then
    fail (.parsing what) start (.expected "URI" (← look))
  return String.ofList chars

/-- The handle of a tag: an exclamation mark, or a name between two. -/
def takeHandle (what : String) (start : Mark) : Scan String := do
  expect (.scanning what) start "'!'" (· == '!')
  move 1
  if (← look) == ' ' then return "!"
  let name ← takeWhile isNameChar
  expect (.scanning what) start "'!'" (· == '!')
  move 1
  return "!" ++ String.ofList name ++ "!"

/-- Whether a tag at the cursor has an exclamation mark after its first character. -/
def hasHandle (cursor : Cursor) : Bool :=
  (cursor.rest.tail.takeWhile fun c => !endsWord c).contains '!'

/-- The parts of a tag. -/
def takeTagWord (start : Mark) : Scan TagWord := do
  let cursor ← get
  let next := cursor.lookAt 1
  if next == '<' then
    move 2
    let suffix ← takeSuffix "a tag" start
    expect (.parsing "a tag") start "'>'" (· == '>')
    move 1
    return ⟨none, suffix⟩
  if isGap next then
    move 1
    return ⟨none, "!"⟩
  let handle ← if hasHandle cursor then takeHandle "a tag" start else do
    move 1
    pure "!"
  return ⟨some handle, ← takeSuffix "a tag" start⟩

/-- A tag. -/
def scanTag : Scan Lexeme := do
  let start ← here
  let word ← takeTagWord start
  expect (.scanning "a tag") start "' '" endsWord
  return ⟨.tag word, start, ← here⟩

/-! ## Directives -/

/-- The activity of reading a directive. -/
def directiveActivity : Activity := .scanning "a directive"

/-- A number of a version. -/
def takeVersion (start : Mark) : Scan Nat := do
  expect directiveActivity start "a digit" Char.isDigit
  return Number.ofDigits 10 ((← takeWhile Char.isDigit).map fun digit => digit.toNat - 48)

/-- What a directive with a name says. -/
def takeDirective (name : String) (start : Mark) : Scan Directive := do
  if name = "YAML" then
    skipSpaces
    let major ← takeVersion start
    expect directiveActivity start "a digit or '.'" (· == '.')
    move 1
    let minor ← takeVersion start
    expect directiveActivity start "a digit or ' '" endsWord
    return .version major minor
  if name = "TAG" then
    skipSpaces
    let handle ← takeHandle "a directive" start
    expect directiveActivity start "' '" (· == ' ')
    skipSpaces
    let meaning ← takeSuffix "a directive" start
    expect directiveActivity start "' '" endsWord
    return .handle handle meaning
  return .other

/-- A directive with the end of its line. -/
def scanDirective : Scan Lexeme := do
  let start ← here
  move 1
  let name ← takeName directiveActivity start
  expect directiveActivity start nameWanted endsWord
  let value ← takeDirective name start
  let stop ← here
  if value = .other then skipWhile fun c => !endsLine c
  skipLine directiveActivity start
  return ⟨.directive value, start, stop⟩

end Scan

end Lag.Document
