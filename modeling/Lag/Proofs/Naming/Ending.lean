import Lag.Proofs.Writing.Complete

/-!
# Renaming ends

The search for a free name ends for every name that does not start like the names of every module,
whatever names are taken: its numbered names differ from each other, and only finitely many are
words of the host or taken. There is one name that does not start so, but does with any number: the
search for it ends only as long as the name itself is free.
-/
namespace Lag

open Host (Ends IsFree Names numbered chooseName reservedWords search symbolsOf)

namespace Host

/-- A name that starts like the names of every module. -/
def IsPrelude (name : String) : Prop := name.toList.take 5 = "_lag_".toList

instance (name : String) : Decidable (IsPrelude name) :=
  inferInstanceAs (Decidable (name.toList.take 5 = "_lag_".toList))

/-- Only one name starts like the names of every module with a number and does not without one. -/
theorem isPrelude_numbered {name : String} (plain : ¬IsPrelude name) (number : Nat) :
    IsPrelude (numbered name (number + 1)) ↔ name = "_lag" := by
  unfold IsPrelude at *
  rw [take_numbered, ← String.toList_inj]
  match shape : name.toList with
  | [] | [_] | [_, _] | [_, _, _] => simp
  | _ :: _ :: _ :: _ :: [] => simp
  | _ :: _ :: _ :: _ :: _ :: _ =>
    rw [shape] at plain
    simpa using plain

/-- A name is reserved with a number if it is a word with it or starts like the names of every
module. -/
theorem isReserved_numbered_iff (name : String) (number : Nat) :
    isReserved (numbered name (number + 1)) = true ↔
      numbered name (number + 1) ∈ reservedWords ∨ IsPrelude (numbered name (number + 1)) := by
  rw [isReserved, isUnderscored_numbered, Bool.or_false, Bool.or_eq_true, List.contains_iff_mem,
    beq_iff_eq, IsPrelude]

/-- A name that does not start like the names of every module with a number has a free number, and
one that is not beyond the number of words and taken names. -/
theorem exists_free {name : String} (plain : ¬IsPrelude name) (other : name ≠ "_lag")
    (taken : List String) :
    ∃ number ≤ reservedWords.length + taken.length + 1, IsFree taken (numbered name number) := by
  obtain ⟨number, below, outside⟩ : ∃ number < reservedWords.length + taken.length + 1,
      numbered name (number + 1) ∉ reservedWords ++ taken := by
    apply Classical.byContradiction
    intro none
    have counted := @length_of_occupied taken name (reservedWords.length + taken.length + 1)
      fun number below => Classical.byContradiction fun outside => none ⟨number, below, outside⟩
    omega
  rw [List.mem_append, not_or] at outside
  refine ⟨number + 1, below, ?_, outside.2⟩
  rw [← Bool.not_eq_true, isReserved_numbered_iff, isPrelude_numbered plain]
  exact not_or.2 ⟨outside.1, other⟩

/-- The search for such a name reaches its first free number. -/
theorem search_reaches {name : String} (plain : ¬IsPrelude name) (other : name ≠ "_lag")
    (taken : List String) : ∃ number ≤ reservedWords.length + taken.length + 1,
      search taken name 0 = some (numbered name number) ∧ IsFree taken (numbered name number) := by
  obtain ⟨near, below, free⟩ := exists_free plain other taken
  have ends : Ends taken name := ⟨near, free⟩
  obtain ⟨number, is, reached, first⟩ := search_first (search_eq_chooseName ends)
  rw [Nat.zero_add] at is
  have least : number ≤ near := by
    apply Nat.le_of_not_lt
    intro later
    have occupied := first near later
    rw [Nat.zero_add] at occupied
    exact occupied free
  exact ⟨number, Nat.le_trans least below, by rw [search_eq_chooseName ends, is], is ▸ reached⟩

/-- The search for the one name that is reserved with any number ends if it is free itself. -/
theorem ends_lag {taken : List String} : Ends taken "_lag" ↔ "_lag" ∉ taken := by
  constructor
  · rintro ⟨number, free⟩
    cases number with
    | zero => exact free.2
    | succ number =>
      have prelude := (@isPrelude_numbered "_lag" (by decide) number).2 rfl
      have reserved := (isReserved_numbered_iff "_lag" number).2 (.inr prelude)
      exact absurd (free.1.symm.trans reserved) (by decide)
  · exact fun outside => ⟨0, by decide, outside⟩

/-- No name with a number is this one. -/
theorem numbered_ne_lag (name : String) (number : Nat) : numbered name (number + 1) ≠ "_lag" := by
  intro same
  obtain ⟨digit, rest, digits, isDigit⟩ := toDigits_eq_cons (number + 1)
  have inside : digit ∈ (numbered name (number + 1)).toList := by
    rw [toList_numbered, digits]
    simp
  have letters : "_lag".toList.all (!·.isDigit) = true := by decide
  rw [same] at inside
  have other := List.all_eq_true.1 letters digit inside
  rw [isDigit] at other
  cases other

/-- Another name does not get this one. -/
theorem chooseName_ne_lag {name : String} (other : name ≠ "_lag") (taken : List String) :
    chooseName taken name ≠ "_lag" := by
  obtain ⟨number, is⟩ := exists_chooseName taken name
  rw [is]
  cases number with
  | zero => exact other
  | succ number => exact numbered_ne_lag name number

/-- This name is kept as long as it is free. -/
theorem chooseName_lag {taken : List String} (free : "_lag" ∉ taken) :
    chooseName taken "_lag" = "_lag" := by
  obtain ⟨number, is, reached, _⟩ := search_first (search_eq_chooseName (ends_lag.2 free))
  rw [Nat.zero_add] at is
  cases number with
  | zero => exact is
  | succ number =>
    have prelude := (@isPrelude_numbered "_lag" (by decide) number).2 rfl
    have reserved := (isReserved_numbered_iff "_lag" number).2 (.inr prelude)
    rw [is] at reached
    exact absurd (reached.1.symm.trans reserved) (by decide)

namespace Names

/-- The searches for new symbols end, one after the other, exactly if at most one of them and of the
names before has the one name that is reserved with any number. -/
theorem settle_iff {names : Names} {symbols : List Symbol} (new : names.New symbols)
    (plain : ∀ symbol ∈ symbols, ¬IsPrelude symbol.name) (once : names.taken.count "_lag" ≤ 1) :
    names.Settle symbols ↔
      names.taken.count "_lag" + symbols.countP (·.name == "_lag") ≤ 1 := by
  induction symbols generalizing names with
  | nil => simpa [Settle] using once
  | cons symbol rest ih =>
    obtain ⟨⟨origin, declared, missing⟩, later⟩ := new
    obtain ⟨here, others⟩ := List.forall_mem_cons.1 plain
    have added : (names.add symbol).taken = chooseName names.taken symbol.name :: names.taken := by
      rw [add_new declared missing]
      rfl
    by_cases same : symbol.name = "_lag"
    · rw [Settle, List.countP_cons, if_pos (by simpa using same), same, ends_lag]
      by_cases free : "_lag" ∈ names.taken
      · have counted := List.count_pos_iff.2 free
        constructor
        · exact fun settle => absurd free settle.1
        · omega
      · have none : names.taken.count "_lag" = 0 := List.count_eq_zero.2 free
        have one : (names.add symbol).taken.count "_lag" = 1 := by
          rw [added, same, chooseName_lag free, List.count_cons_self, none]
        rw [ih later others (by omega), one, none]
        constructor
        · rintro ⟨_, settle⟩
          omega
        · exact fun settle => ⟨free, by omega⟩
    · have kept : (names.add symbol).taken.count "_lag" = names.taken.count "_lag" := by
        rw [added, List.count_cons_of_ne (chooseName_ne_lag same names.taken)]
      obtain ⟨near, _, free⟩ := exists_free here same names.taken
      rw [Settle, List.countP_cons, if_neg (by simpa using same), Nat.add_zero,
        ih later others (by omega), kept]
      exact and_iff_right ⟨near, free⟩

end Names

end Host

/-- The searches for the names of a checked program end exactly if at most one of its declarations
has the one name that is reserved with any number. -/
theorem Program.IsChecked.settle_iff {program : Program Mark} (checked : program.IsChecked)
    (plain : ∀ symbol ∈ symbolsOf program, ¬Host.IsPrelude symbol.name) :
    Names.Settle [] (symbolsOf program) ↔
      (symbolsOf program).countP (·.name == "_lag") ≤ 1 := by
  have settles := Names.settle_iff (checked.typed.leads checked.numbered).fresh plain (by decide)
  rwa [show Names.taken [] = [] from rfl, List.count_nil, Nat.zero_add] at settles

/-- Renaming ends. A checked program none of whose names starts like the names of every module is
written, unless two of its declarations have the one name that is reserved with any number. For
every other name, and whatever names are taken, the search reaches a candidate that is neither
reserved nor taken, within as many steps as there are words and taken names, and one more. -/
theorem renaming_ends {program : Program Mark} (checked : program.IsChecked)
    (plain : ∀ symbol ∈ symbolsOf program, ¬Host.IsPrelude symbol.name) (title : String) :
    ((∃ page, program.write title = some (.ok page)) ↔
        (symbolsOf program).countP (·.name == "_lag") ≤ 1) ∧
      ∀ symbol ∈ symbolsOf program, symbol.name ≠ "_lag" → ∀ taken : List String,
        ∃ number ≤ reservedWords.length + taken.length + 1,
          search taken symbol.name 0 = some (numbered symbol.name number) ∧
            IsFree taken (numbered symbol.name number) := by
  refine ⟨?_, fun symbol inside other taken =>
    Host.search_reaches (plain symbol inside) other taken⟩
  rw [← checked.settle_iff plain]
  constructor
  · rintro ⟨page, written⟩
    exact (checked.of_write written).1
  · exact fun settle => ⟨_, (checked.write_eq title).1 settle⟩

/-- A parameter that is hidden by a variable. -/
def hidden (name : String) : String :=
  "fn f(" ++ name ++ ": int) -> int \x7b let " ++ name ++ " = 2; return " ++ name ++ "; \x7d"

/-- The characters of the program around those of the name. -/
theorem spelled_hidden {name : String} {chars : List Char} (spelled : name = String.ofList chars) :
    hidden name = String.ofList ("fn f(".toList ++ chars ++ ": int) -> int \x7b let ".toList ++
      chars ++ " = 2; return ".toList ++ chars ++ "; \x7d".toList) := by
  simp only [hidden, spelled, String.ofList_append, String.ofList_toList]

/-- A variable hides a parameter with a name that is reserved with some numbers only. -/
theorem renaming_ends_hidden : ∃ program : Program Mark, program.IsChecked ∧
    (∀ symbol ∈ symbolsOf program, ¬Host.IsPrelude symbol.name) ∧
      ((∃ page, program.write "m" = some (.ok page)) ↔
        (symbolsOf program).countP (·.name == "_lag") ≤ 1) ∧
          ∀ symbol ∈ symbolsOf program, symbol.name ≠ "_lag" → ∀ taken : List String,
            ∃ number ≤ reservedWords.length + taken.length + 1,
              search taken symbol.name 0 = some (numbered symbol.name number) ∧
                IsFree taken (numbered symbol.name number) := by
  obtain ⟨program, accepts, plain⟩ : ∃ program, Accepts (hidden "__print") none 20 program ∧
      decide (∀ symbol ∈ symbolsOf program, ¬Host.IsPrelude symbol.name) = true :=
    exists_accepts (spelled_hidden rfl) (by decide) (by decide +kernel)
  have checked := accepts.checked
  exact ⟨program, checked, of_decide_eq_true plain,
    renaming_ends checked (of_decide_eq_true plain) "m"⟩

/-- A variable hides a parameter with the one name that is reserved with any number: the program is
read and checked, none of its names starts like the names of every module, and the search for the
name of the variable does not end. -/
theorem renaming_endless_hidden : ∃ program : Program Mark, program.IsChecked ∧
    (∀ symbol ∈ symbolsOf program, ¬Host.IsPrelude symbol.name) ∧
      ∀ title, program.write title = none := by
  obtain ⟨program, accepts, holds⟩ : ∃ program, Accepts (hidden "_lag") none 20 program ∧
      (decide (∀ symbol ∈ symbolsOf program, ¬Host.IsPrelude symbol.name) &&
        decide (1 < (symbolsOf program).countP (·.name == "_lag"))) = true :=
    exists_accepts (spelled_hidden rfl) (by decide) (by decide +kernel)
  obtain ⟨plain, twice⟩ := Bool.and_eq_true_iff.1 holds
  have checked := accepts.checked
  have unsettled : ¬Names.Settle [] (symbolsOf program) := fun settle =>
    Nat.not_lt.2 ((checked.settle_iff (of_decide_eq_true plain)).1 settle) (of_decide_eq_true twice)
  exact ⟨program, checked, of_decide_eq_true plain, fun title =>
    (checked.write_eq title).2 unsettled⟩

end Lag
