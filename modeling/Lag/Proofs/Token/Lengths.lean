import Lag.Proofs.Tree.Regular
import Mathlib.Algebra.GroupWithZero.Nat

/-!
# Integers that are read can be written

An integer is read from a limited number of digits, so it is not too long to be written with as
many.
-/
namespace Lag

namespace Number

/-- The digits of a base are below it. -/
theorem digitRun_lt {base : Nat} {owed : Bool} {text rest : List Char} {values : List Nat}
    (run : digitRun base owed text = some (values, rest)) : ∀ value ∈ values, value < base := by
  induction text generalizing owed values with
  | nil =>
    unfold digitRun at run
    split at run
    · cases run
    · cases run
      simp
  | cons c more ih =>
    unfold digitRun at run
    split at run
    · rename_i digit found
      obtain ⟨⟨others, left⟩, later, same⟩ := Option.map_eq_some_iff.1 run
      cases same
      have small : digit < base := by
        unfold digitIn? at found
        simpa using (Option.filter_eq_some_iff.1 found).2
      exact List.forall_mem_cons.2 ⟨small, ih later⟩
    · split at run
      · cases run
      · split at run
        · exact ih run
        · cases run
          simp

/-- Digits write a number with as many digits, after the number that those before them write. -/
theorem foldl_digits_lt {base : Nat} {values : List Nat} (below : ∀ value ∈ values, value < base)
    (number : Nat) :
    values.foldl (fun number value => number * base + value) number <
      (number + 1) * base ^ values.length := by
  induction values generalizing number with
  | nil => simp
  | cons value rest ih =>
    obtain ⟨small, others⟩ := List.forall_mem_cons.1 below
    have step := ih others (number * base + value)
    have room : number * base + value + 1 ≤ (number + 1) * base := by
      rw [Nat.add_mul]
      omega
    calc
      rest.foldl (fun number value => number * base + value) (number * base + value)
        < (number * base + value + 1) * base ^ rest.length := step
      _ ≤ (number + 1) * base * base ^ rest.length := Nat.mul_le_mul_right _ room
      _ = (number + 1) * base ^ (value :: rest).length := by
        rw [List.length_cons, Nat.pow_succ', Nat.mul_assoc]

/-- Digits write a number with as many digits. -/
theorem ofDigits_lt {base : Nat} {values : List Nat} (below : ∀ value ∈ values, value < base) :
    ofDigits base values < base ^ values.length := by
  have bound := foldl_digits_lt below 0
  rwa [Nat.zero_add, Nat.one_mul] at bound

/-- An integer that is read is not too long to be written. -/
theorem natAbs_readInt {text : String} {value : Int} (reads : readInt text = .ok value) :
    value.natAbs < 10 ^ digitLimit := by
  unfold readInt readIntIn at reads
  dsimp only at reads
  split at reads
  · cases reads
  · cases reads
  · rename_i values rest _ taken
    split at reads
    · cases reads
    · rename_i short
      have run : digitRun 10 false (dropBaseMark 10 (takeSign
          (Text.trim Text.isMargin text).toList).2) = some (values, rest) := by
        unfold takeDigits at taken
        split at taken
        · cases taken
        · exact taken
      have length : values.length ≤ digitLimit := by
        have within := not_and.1 short rfl
        omega
      have bound : ofDigits 10 values < 10 ^ digitLimit :=
        Nat.lt_of_lt_of_le (ofDigits_lt (digitRun_lt run)) (Nat.pow_le_pow_right (by decide) length)
      split at reads
      · cases reads
        split
        · rwa [Int.natAbs_neg, Int.natAbs_natCast]
        · rwa [Int.natAbs_natCast]
      · cases reads

end Number

namespace Scan

/-- An integer that is the value of a numeral is not too long to be written. -/
theorem short_of_numberPiece {isFloat : Bool} {lexeme : List Char} {found : Piece} {value : Nat}
    (scanned : numberPiece isFloat lexeme = .ok found) (is : found.literal = some (.int value)) :
    value < 10 ^ Number.digitLimit := by
  unfold numberPiece at scanned
  dsimp only at scanned
  split at scanned
  · split at scanned <;> cases scanned
    cases is
  · split at scanned
    · rename_i number reads
      cases scanned
      cases is
      have bound := Number.natAbs_readInt reads
      omega
    · cases scanned

/-- An integer that is the value of a token is not too long to be written. -/
theorem IsWritten.short {value : Nat} (written : IsWritten (.int value)) :
    value < 10 ^ Number.digitLimit := by
  obtain ⟨first, rest, found, scanned, is⟩ := written
  unfold piece at scanned
  split at scanned
  · unfold string at scanned
    split at scanned
    · cases scanned
      cases is
    · cases scanned
  · split at scanned
    · unfold number at scanned
      dsimp only at scanned
      split at scanned
      · cases scanned
      · split at scanned
        · cases scanned
        · exact short_of_numberPiece scanned is
    · split at scanned
      · cases scanned
        unfold word at is
        dsimp only at is
        split at is <;> cases is
      · have plain : ∀ {c : Char} {piece : Piece}, sign c = .ok piece → piece.literal = none := by
          intro c piece signed
          unfold sign at signed
          split at signed <;> cases signed
          rfl
        split at scanned
        · split at scanned
          · cases scanned
            cases is
          · rw [plain scanned] at is
            cases is
        · rw [plain scanned] at is
          cases is

end Scan

end Lag
