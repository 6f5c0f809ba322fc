import Lag.Text.Printable

/-!
# Quoted texts

A quoted text stands between two quotation marks. Apostrophes are used, unless the text holds an
apostrophe and no double quote. The mark itself and the backslash are written after a backslash,
line breaks and tabs by their letters, and every other character that is not printable by its
code in two, four or eight hexadecimal digits.
-/
namespace Lag.Text

/-- The apostrophe. -/
def apostrophe : Char := '\x27'

/-- The double quote. -/
def doubleQuote : Char := '\x22'

/-- The mark that a text is quoted with. -/
def quotationMark (text : List Char) : Char :=
  if text.contains apostrophe && !text.contains doubleQuote then doubleQuote else apostrophe

/-- A hexadecimal digit in small letters. -/
def hexDigit (value : Nat) : Char :=
  if value < 10 then Char.ofNat (48 + value) else Char.ofNat (87 + value)

/-- The last hexadecimal digits of a number, in writing order. -/
def hexDigits : Nat → Nat → List Char
  | 0, _ => []
  | width + 1, value => hexDigits width (value / 16) ++ [hexDigit (value % 16)]

/-- The code of a character after a backslash. -/
def charCode (c : Char) : List Char :=
  if c.toNat < 0x100 then '\\' :: 'x' :: hexDigits 2 c.toNat
  else if c.toNat < 0x10000 then '\\' :: 'u' :: hexDigits 4 c.toNat
  else '\\' :: 'U' :: hexDigits 8 c.toNat

/-- A character as it stands between quotation marks. -/
def quotedChar (mark c : Char) : List Char :=
  if c = mark ∨ c = '\\' then ['\\', c]
  else if c = '\n' then ['\\', 'n']
  else if c = '\r' then ['\\', 'r']
  else if c = '\t' then ['\\', 't']
  else if isPrintable c then [c]
  else charCode c

/-- The characters of a text between quotation marks. -/
def quotedChars (text : List Char) : List Char :=
  let mark := quotationMark text
  mark :: text.flatMap (quotedChar mark) ++ [mark]

/-- A text between quotation marks. -/
def quoted (text : String) : String := String.ofList (quotedChars text.toList)

/-- A text in ASCII: every other character is written by its code. -/
def toAscii (text : String) : String :=
  String.ofList (text.toList.flatMap fun c => if c.toNat < 0x80 then [c] else charCode c)

/-- A quoted text starts and ends with its quotation mark. -/
theorem quotedChars_eq (text : List Char) :
    quotedChars text =
      quotationMark text :: text.flatMap (quotedChar (quotationMark text)) ++
        [quotationMark text] := rfl

/-- Hexadecimal digits fill their width. -/
theorem length_hexDigits (width value : Nat) : (hexDigits width value).length = width := by
  induction width generalizing value with
  | zero => rfl
  | succ width ih => simp [hexDigits, ih]

end Lag.Text
