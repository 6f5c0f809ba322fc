import Lag.Document.Fault

/-!
# Bytes in letters

Three bytes are written in four letters, digits or signs for six bits each, in rows of 76. Two bytes
or one at the end take three or two of them, filled up with equality signs. Other characters are
passed over in reading, and so is what follows the end.
-/
namespace Lag.Document

/-- The characters for six bits, in the order of their values. -/
def sixBitChars : List Char :=
  "ABCDEFGHIJKLMNOPQRSTUVWXYZabcdefghijklmnopqrstuvwxyz0123456789+/".toList

/-- The character for six bits. -/
def sixBitChar (value : Nat) : Char := sixBitChars[value]?.getD 'A'

/-- The letters for bytes. -/
def lettersOf : List UInt8 → List Char
  | [] => []
  | [first] =>
    let number := first.toNat * 16
    [sixBitChar (number / 64), sixBitChar (number % 64), '=', '=']
  | [first, second] =>
    let number := (first.toNat * 256 + second.toNat) * 4
    [sixBitChar (number / 4096), sixBitChar (number / 64 % 64), sixBitChar (number % 64), '=']
  | first :: second :: third :: rest =>
    let number := (first.toNat * 256 + second.toNat) * 256 + third.toNat
    sixBitChar (number / 262144) :: sixBitChar (number / 4096 % 64) ::
      sixBitChar (number / 64 % 64) :: sixBitChar (number % 64) :: lettersOf rest

/-- Letters in rows of 76, each of which ends in a line feed. -/
def letterRows : List Char → List Char
  | [] => []
  | c :: rest => (c :: rest.take 75) ++ '\n' :: letterRows (rest.drop 75)
  termination_by letters => letters.length
  decreasing_by simp only [List.length_drop, List.length_cons]; omega

/-- The state of reading letters: the bits that are left over from the letters of a group, how many
letters of it there were, how many equality signs followed, and the bytes so far, the last first. -/
structure LetterState where
  /-- The bits that are left over. -/
  bits : Nat := 0
  /-- The number of letters of the group. -/
  group : Nat := 0
  /-- The number of equality signs. -/
  signs : Nat := 0
  /-- The bytes so far. -/
  bytes : List UInt8 := []

/-- Read a letter for six bits. -/
def LetterState.push (state : LetterState) (value : Nat) : LetterState :=
  match state.group with
  | 0 => ⟨value, 1, 0, state.bytes⟩
  | 1 => ⟨value % 16, 2, 0, UInt8.ofNat (state.bits * 4 + value / 16) :: state.bytes⟩
  | 2 => ⟨value % 4, 3, 0, UInt8.ofNat (state.bits * 16 + value / 4) :: state.bytes⟩
  | _ => ⟨0, 0, 0, UInt8.ofNat (state.bits * 64 + value) :: state.bytes⟩

/-- The bytes that letters write from a state on. -/
def readLetters (state : LetterState) : List Char → Except BytesFault (List UInt8)
  | [] =>
    if state.group = 0 then .ok state.bytes.reverse
    else if state.group = 1 then .error (.count (state.bytes.length / 3 * 4 + 1))
    else .error .padding
  | c :: rest =>
    if c = '=' then
      let signs := state.signs + 1
      if 2 ≤ state.group ∧ 4 ≤ state.group + signs then .ok state.bytes.reverse
      else readLetters { state with signs := signs } rest
    else
      match sixBitChars.idxOf? c with
      | some value => readLetters (state.push value) rest
      | none => readLetters state rest

/-- The bytes that a text writes. -/
def bytesOfText (text : String) : Except BytesFault (List UInt8) :=
  let chars := text.toList
  let isForeign (c : Char) : Bool := 0x80 ≤ c.toNat
  let before := chars.takeWhile fun c => !isForeign c
  match chars.drop before.length with
  | first :: rest => .error (.notAscii first before.length (rest.takeWhile isForeign).length.succ)
  | [] => readLetters {} chars

end Lag.Document
