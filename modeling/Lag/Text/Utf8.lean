/-!
# Strict UTF-8

Files hold bytes; a source text is read from them by the UTF-8 rules without any tolerance: no
overlong form, no surrogate, nothing above U+10FFFF. A byte order mark is an ordinary character.
A fault names the bytes that cannot be part of a character, where they are, and why.
-/
namespace Lag.Text

/-- Why bytes are not UTF-8. -/
inductive Utf8Reason where
  /-- The byte starts no character. -/
  | invalidStart
  /-- A character is interrupted by a byte that does not continue it. -/
  | invalidContinuation
  /-- The bytes end inside a character. -/
  | unexpectedEnd
  deriving DecidableEq, Repr

/-- The wording of a reason. -/
def Utf8Reason.message : Utf8Reason → String
  | .invalidStart => "invalid start byte"
  | .invalidContinuation => "invalid continuation byte"
  | .unexpectedEnd => "unexpected end of data"

/-- Bytes that are not UTF-8: the first of them, its position, how many there are, and why. -/
structure Utf8Fault where
  /-- The first byte of the fault. -/
  first : UInt8
  /-- The position of the first byte. -/
  position : Nat
  /-- The number of bytes concerned, at least one. -/
  count : Nat
  /-- Why they are refused. -/
  reason : Utf8Reason
  deriving DecidableEq, Repr

/-- What the first byte of a character of several bytes says about the others. -/
structure Utf8Lead where
  /-- The number of bytes that follow. -/
  tails : Nat
  /-- The least second byte. -/
  low : Nat
  /-- The greatest second byte. -/
  high : Nat
  /-- The bits of the code point in the first byte. -/
  bits : Nat
  deriving DecidableEq, Repr

/-- The reading of a first byte; none for a byte that starts no character. -/
def utf8Lead? (byte : Nat) : Option Utf8Lead :=
  if byte < 0x80 then some ⟨0, 0, 0, byte⟩
  else if byte < 0xC2 then none
  else if byte < 0xE0 then some ⟨1, 0x80, 0xBF, byte - 0xC0⟩
  else if byte = 0xE0 then some ⟨2, 0xA0, 0xBF, 0⟩
  else if byte = 0xED then some ⟨2, 0x80, 0x9F, 0xD⟩
  else if byte < 0xF0 then some ⟨2, 0x80, 0xBF, byte - 0xE0⟩
  else if byte = 0xF0 then some ⟨3, 0x90, 0xBF, 0⟩
  else if byte < 0xF4 then some ⟨3, 0x80, 0xBF, byte - 0xF0⟩
  else if byte = 0xF4 then some ⟨3, 0x80, 0x8F, 4⟩
  else none

/-- The outcome of reading the bytes after a first byte. -/
inductive Utf8Tails where
  /-- All were there: the code point. -/
  | complete (code : Nat)
  /-- The bytes ended after some of them. -/
  | ended (read : Nat)
  /-- A byte did not continue the character, after some that did. -/
  | broken (read : Nat)
  deriving DecidableEq, Repr

/-- Read the bytes after a first byte: how many are left, the bounds of the next, how many were
read, and the bits so far. -/
def utf8Tails : Nat → Nat → Nat → Nat → Nat → List UInt8 → Utf8Tails
  | 0, _, _, _, code, _ => .complete code
  | _ + 1, _, _, read, _, [] => .ended read
  | left + 1, low, high, read, code, byte :: rest =>
    if low ≤ byte.toNat ∧ byte.toNat ≤ high then
      utf8Tails left 0x80 0xBF (read + 1) (code * 64 + byte.toNat % 64) rest
    else .broken read

/-- The characters that bytes encode; `position` is the position of the first byte. -/
def decodeUtf8From (position : Nat) : List UInt8 → Except Utf8Fault (List Char)
  | [] => .ok []
  | first :: rest =>
    match utf8Lead? first.toNat with
    | none => .error ⟨first, position, 1, .invalidStart⟩
    | some lead =>
      match utf8Tails lead.tails lead.low lead.high 0 lead.bits rest with
      | .ended read => .error ⟨first, position, read + 1, .unexpectedEnd⟩
      | .broken read => .error ⟨first, position, read + 1, .invalidContinuation⟩
      | .complete code =>
        match decodeUtf8From (position + 1 + lead.tails) (rest.drop lead.tails) with
        | .ok more => .ok (Char.ofNat code :: more)
        | .error fault => .error fault
  termination_by bytes => bytes.length
  decreasing_by simp only [List.length_drop, List.length_cons]; omega

/-- The text that bytes encode. -/
def decodeUtf8 (bytes : ByteArray) : Except Utf8Fault String :=
  (decodeUtf8From 0 bytes.toList).map String.ofList

end Lag.Text
