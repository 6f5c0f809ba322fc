import Lag.Proofs.Accepted
import Lag.Proofs.Limits.Named
import Lag.Proofs.Limits.Refused
import Lag.Proofs.Scoping.Assigned
import Lag.Proofs.World.Ended

/-!
# Scripts that are built

A script whose text is read, checked and lowered is built into a module, unless its module does not
stay within the limits of the host. Two things are asked of its names: that they are made of
characters that names of the host may have, and that the host tells the parameters of a function
from each other and from the variables of the module. A host that runs out of memory when it reads
the text of a module is left out.
-/
namespace Lag

open Host (hostName isIdentifier symbolsOf)
open Typing (symbolsOf_function)

namespace Host

/-- The digits of a number may continue a name. -/
theorem mayContinueWord_of_digit {number : Nat} {c : Char} (inside : c ∈ Nat.toDigits 10 number) :
    Text.mayContinueWord c = true := by
  have isDigit := Nat.isDigit_of_mem_toDigits (by omega) (Nat.le_refl 10) inside
  have letter : isWordChar c = true := by simp [isWordChar, Char.isAlphanum, isDigit]
  have fits := ascii_word c.toNat (ascii_toDigits inside)
  rw [Char.ofNat_toNat] at fits
  exact (fits letter).1

/-- A name of the host stays one with a number. -/
theorem isIdentifier_numbered {name : String} (fits : isIdentifier name = true) (number : Nat) :
    isIdentifier (numbered name number) = true := by
  cases number with
  | zero => exact fits
  | succ number =>
    unfold isIdentifier at fits ⊢
    rw [toList_numbered]
    cases shape : name.toList with
    | nil =>
      rw [shape] at fits
      cases fits
    | cons first rest =>
      rw [shape] at fits
      obtain ⟨starts, continues⟩ := Bool.and_eq_true_iff.1 fits
      have digits : (Nat.toDigits 10 (number + 1)).all Text.mayContinueWord = true :=
        List.all_eq_true.2 fun c inside => mayContinueWord_of_digit inside
      have underscore : Text.mayContinueWord '_' = true := by decide
      show (Text.mayStartWord first && (rest ++ '_' :: Nat.toDigits 10 (number + 1)).all
        Text.mayContinueWord) = true
      rw [starts, List.all_append, List.all_cons, continues, underscore, digits]
      rfl

/-- The name that is chosen for a name of the host is one. -/
theorem isIdentifier_chooseName {name : String} (fits : isIdentifier name = true)
    (taken : List String) : isIdentifier (chooseName taken name) = true := by
  obtain ⟨chosen, is⟩ := exists_chooseName taken name
  rw [is]
  exact isIdentifier_numbered fits chosen

end Host

/-! ## Names of lowered programs -/

/-- The symbols of the parameters of a function. -/
def Function.paramSymbols (function : Function Mark) : List Symbol :=
  function.params.flatMap (·.note.symbol.toList)

/-- A program with names that the host takes. -/
structure Host.Takes (program : Program Mark) : Prop where
  /-- Every name is one of the host. -/
  identifiers : ∀ symbol ∈ symbolsOf program, isIdentifier symbol.name = true
  /-- The host tells the parameters of a function from each other. -/
  distinct : ∀ function ∈ program.functions, (function.paramSymbols.map (hostName program)).Nodup
  /-- The host tells the parameters of a function from the variables of the module that the
  function assigns to. -/
  outer : ∀ function ∈ program.functions, ∀ param ∈ function.paramSymbols,
    ∀ name ∈ Stmt.assignedAll (Names.ofProgram program) function.body,
      hostName program param ≠ Text.foldText name

instance (program : Program Mark) : Decidable (Host.Takes program) :=
  decidable_of_iff
    ((∀ symbol ∈ symbolsOf program, isIdentifier symbol.name = true) ∧
      (∀ function ∈ program.functions, (function.paramSymbols.map (hostName program)).Nodup) ∧
        ∀ function ∈ program.functions, ∀ param ∈ function.paramSymbols,
          ∀ name ∈ Stmt.assignedAll (Host.Names.ofProgram program) function.body,
            hostName program param ≠ Text.foldText name)
    ⟨fun ⟨identifiers, distinct, outer⟩ => ⟨identifiers, distinct, outer⟩,
      fun takes => ⟨takes.identifiers, takes.distinct, takes.outer⟩⟩

section

variable {program : Program Mark}

/-- The names in the module for a program whose names the host takes are names of the host. -/
theorem Host.Takes.identifiers_lowerAs (takes : Host.Takes program)
    (typed : Typing.Program program) (title : String) :
    ∀ name ∈ (program.lowerAs title).names, isIdentifier name = true := by
  intro name inside
  obtain ⟨symbol, known, rfl⟩ := typed.named title name inside
  obtain ⟨origin, is⟩ := typed.isSome_origin known
  have chosen : ∀ other ∈ symbolsOf program, ∀ taken,
      isIdentifier (Host.chooseName taken other.name) = true := fun other member taken =>
    Host.isIdentifier_chooseName (takes.identifiers other member) taken
  exact Host.Names.forall_find (isIdentifier · = true) chosen known is

/-- The module for a program whose names the host takes tells its parameters apart. -/
theorem Host.Takes.tellsParams (takes : Host.Takes program) (typed : Typing.Program program)
    (title : String) : (program.lowerAs title).TellsParams := by
  intro entry member
  obtain ⟨function, inside, rfl⟩ := List.mem_map.1 member
  obtain ⟨_, within, defines⟩ := typed.defines inside
  obtain ⟨_, _, params, _⟩ := defines
  have hosts : (function.lower (Host.Names.ofProgram program)).params.map Text.foldText =
      function.paramSymbols.map (hostName program) := by
    rw [Function.lower, List.map_map]
    exact params.hosts
  dsimp only
  rw [hosts]
  refine ⟨takes.distinct function inside, fun name global isParam => ?_⟩
  obtain ⟨written, isWritten, rfl⟩ := List.mem_map.1 global
  obtain ⟨param, own, same⟩ := List.mem_map.1 isParam
  exact takes.outer function inside param own written (List.mem_eraseDups.1 isWritten) same

/-- The module for a program whose names the host takes is accepted exactly if it stays within the
limits and the host has memory enough to read it. -/
theorem Host.Takes.refused?_eq_none_iff (takes : Host.Takes program)
    (typed : Typing.Program program) (title : String) :
    (program.lowerAs title).refused? = none ↔
      (program.lowerAs title).WithinLimits ∧ (program.lowerAs title).WithinStack :=
  Host.Module.refused?_eq_none_iff (takes.identifiers_lowerAs typed title)
    (takes.tellsParams typed title)

end

/-- A source text that is accepted and lowered compiles to a module unless the host refuses it. -/
theorem Accepts.compile {source : String} {file : Option String} {limit : Nat}
    {program : Program Mark} (accepts : Accepts source file limit program) {id : String}
    {lowered : Host.Module} (lowers : program.lower? id = some lowered) :
    Lag.compile source id file limit = accept id lowered := by
  obtain ⟨tree, reads, checks⟩ := accepts.passes
  unfold Lag.compile translate lowerProgram
  rw [reads]
  dsimp only
  rw [checks]
  dsimp only
  rw [lowers]

instance (lowered : Host.Module) : Decidable lowered.WithinLimits :=
  decidable_of_iff
    ((∀ line ∈ lowered.lines, line.level < Host.indentationLimit) ∧
      (∀ line ∈ lowered.lines, line.parentheses ≤ Host.parenthesesLimit) ∧
        (∀ line ∈ lowered.lines, line.loops ≤ Host.loopLimit) ∧ lowered.depth ≤ Host.treeLimit)
    ⟨fun ⟨indentation, parentheses, loops, depth⟩ => ⟨indentation, parentheses, loops, depth⟩,
      fun within => ⟨within.indentation, within.parentheses, within.loops, within.depth⟩⟩

instance (lowered : Host.Module) : Decidable lowered.WithinStack :=
  inferInstanceAs
    (Decidable (∀ pieces ∈ lowered.pieces, ∀ piece ∈ pieces, piece.rules ≤ Host.stackLimit))

/-- A program with a loop that changes a variable of the module. -/
def counting : String := "let x = 0; fn f(n: int) { while x < n { x = x - (1 - n); } }"

end Lag
