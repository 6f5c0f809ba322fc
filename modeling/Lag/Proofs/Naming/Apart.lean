import Lag.Host.Lower
import Lag.Proofs.Naming.Free
import Lag.Run.Given
import Lag.Text.Compatibility

/-!
# Names that the host tells apart

The host compares names by their compatibility form. The names that are chosen differ, but their
compatibility forms may not; a program whose names the host tells apart, also from the names that
stand for something else, is the one whose variables stay variables of their own. Names of ASCII
characters are told apart if the search for each of them ends.
-/
namespace Lag.Host

/-- What a name stands for in a module without functions and variables. -/
def meaning? (name : String) : Option Value := (Run.startValue? name).or (Run.givenValue? name)

/-- The name of a symbol as the host compares it. -/
def hostName (program : Program Mark) (symbol : Symbol) : String :=
  Text.foldText ((Names.ofProgram program).find symbol)

/-- A program whose symbols the host tells apart, from each other and from the names that stand for
something else. -/
structure Apart (program : Program Mark) : Prop where
  /-- Symbols of different declarations have different names. -/
  distinct : ∀ first ∈ symbolsOf program, ∀ second ∈ symbolsOf program,
    hostName program first = hostName program second → first.origin = second.origin
  /-- No symbol has a name that stands for something else. -/
  unused : ∀ symbol ∈ symbolsOf program, meaning? (hostName program symbol) = none

namespace Names

/-- Names of symbols whose searches end, one after the other. -/
def Settle (names : Names) : List Symbol → Prop
  | [] => True
  | symbol :: rest => Ends names.taken symbol.name ∧ (names.add symbol).Settle rest

/-- Whether the searches end is found out by searching. -/
def decidableSettle (names : Names) : (symbols : List Symbol) → Decidable (names.Settle symbols)
  | [] => inferInstanceAs (Decidable True)
  | symbol :: rest =>
    have : Decidable ((names.add symbol).Settle rest) := decidableSettle (names.add symbol) rest
    inferInstanceAs (Decidable (Ends names.taken symbol.name ∧ (names.add symbol).Settle rest))

instance (names : Names) (symbols : List Symbol) : Decidable (names.Settle symbols) :=
  decidableSettle names symbols

/-- Names that differ and are not reserved. -/
structure Sound (names : Names) : Prop where
  /-- The names differ. -/
  distinct : names.taken.Nodup
  /-- No name is reserved. -/
  unreserved : ∀ name ∈ names.taken, isReserved name = false

/-- A name that is chosen differs from those before it. -/
theorem Sound.add {names : Names} (sound : names.Sound) {symbol : Symbol}
    (ends : Ends names.taken symbol.name) : (names.add symbol).Sound := by
  obtain ⟨unreserved, untaken⟩ := isFree_chooseName ends
  unfold Names.add
  split
  · exact sound
  · split
    · exact sound
    · refine ⟨List.nodup_cons.2 ⟨untaken, sound.distinct⟩, fun name inside => ?_⟩
      rcases List.mem_cons.1 inside with rfl | before
      · exact unreserved
      · exact sound.unreserved name before

/-- Names that are chosen one after the other differ. -/
theorem Sound.foldl {names : Names} (sound : names.Sound) {symbols : List Symbol}
    (settle : names.Settle symbols) : (symbols.foldl Names.add names).Sound := by
  induction symbols generalizing names with
  | nil => exact sound
  | cons symbol rest ih => exact ih (sound.add settle.1) settle.2

/-- A name that is found stays. -/
theorem lookup_add {names : Names} {symbol : Symbol} {origin : Nat} {name : String}
    (found : List.lookup origin names = some name) :
    List.lookup origin (names.add symbol) = some name := by
  unfold Names.add
  split
  · exact found
  · rename_i other _
    split
    · exact found
    · rename_i missing
      have different : (origin == other) = false := by
        rw [beq_eq_false_iff_ne]
        rintro rfl
        rw [found] at missing
        cases missing
      rw [List.lookup_cons, different]
      exact found

/-- A name that is found stays when more symbols are named. -/
theorem lookup_foldl {names : Names} {symbols : List Symbol} {origin : Nat} {name : String}
    (found : List.lookup origin names = some name) :
    List.lookup origin (symbols.foldl Names.add names) = some name := by
  induction symbols generalizing names with
  | nil => exact found
  | cons symbol rest ih => exact ih (lookup_add found)

/-- A symbol that is named has a name. -/
theorem exists_lookup {names : Names} {symbols : List Symbol} {symbol : Symbol}
    (inside : symbol ∈ symbols) {origin : Nat} (declared : symbol.origin = some origin) :
    ∃ name, List.lookup origin (symbols.foldl Names.add names) = some name := by
  induction symbols generalizing names with
  | nil => cases inside
  | cons first rest ih =>
    rcases List.mem_cons.1 inside with rfl | later
    · have named : ∃ name, List.lookup origin (names.add symbol) = some name := by
        unfold Names.add
        rw [declared]
        cases found : List.lookup origin names with
        | some name => exact ⟨name, by simp only [found]⟩
        | none => exact ⟨_, by simp only [found, List.lookup_cons, beq_self_eq_true]; rfl⟩
      obtain ⟨name, found⟩ := named
      exact ⟨name, @lookup_foldl (names.add symbol) rest origin name found⟩
    · exact ih later

/-- A name that is found is one of the names. -/
theorem mem_of_lookup {names : Names} {origin : Nat} {name : String}
    (found : List.lookup origin names = some name) : (origin, name) ∈ names := by
  induction names with
  | nil => cases found
  | cons entry rest ih =>
    obtain ⟨other, given⟩ := entry
    rw [List.lookup_cons] at found
    split at found
    · rename_i same
      cases found
      rw [beq_iff_eq.1 same]
      exact List.mem_cons_self
    · exact List.mem_cons_of_mem _ (ih found)

/-- A symbol of a program has its host name among the names of the program. -/
theorem mem_find {program : Program Mark} {symbol : Symbol} (inside : symbol ∈ symbolsOf program)
    {origin : Nat} (declared : symbol.origin = some origin) :
    (origin, (ofProgram program).find symbol) ∈ ofProgram program := by
  obtain ⟨name, found⟩ := @exists_lookup [] _ _ inside _ declared
  have given : (ofProgram program).find symbol = name := by
    simp only [find, declared, Option.bind_some]
    rw [show List.lookup origin (ofProgram program) = some name from found]
    rfl
  rw [given]
  exact mem_of_lookup found

/-- What holds of the names that may be chosen for symbols holds of all names, if it holds of those
before. -/
theorem forall_taken (holds : String → Prop) {symbols : List Symbol}
    (chosen : ∀ symbol ∈ symbols, ∀ taken, holds (chooseName taken symbol.name)) {names : Names}
    (before : ∀ name ∈ names.taken, holds name) :
    ∀ name ∈ (symbols.foldl Names.add names).taken, holds name := by
  induction symbols generalizing names with
  | nil => exact before
  | cons symbol rest ih =>
    obtain ⟨here, later⟩ := List.forall_mem_cons.1 chosen
    refine ih later ?_
    unfold Names.add
    split
    · exact before
    · split
      · exact before
      · exact List.forall_mem_cons.2 ⟨here names.taken, before⟩

/-- What holds of the names that may be chosen for the symbols of a program holds of their host
names. -/
theorem forall_find (holds : String → Prop) {program : Program Mark}
    (chosen : ∀ symbol ∈ symbolsOf program, ∀ taken, holds (chooseName taken symbol.name))
    {symbol : Symbol} (inside : symbol ∈ symbolsOf program) {origin : Nat}
    (declared : symbol.origin = some origin) : holds ((ofProgram program).find symbol) :=
  forall_taken holds chosen (fun _ none => absurd none List.not_mem_nil) _
    (List.mem_map.2 ⟨_, mem_find inside declared, rfl⟩)

/-- A name that only one declaration has tells the declaration. -/
theorem Sound.origin_eq {names : Names} (sound : names.Sound) {first second : Nat} {name : String}
    (firstNamed : (first, name) ∈ names) (secondNamed : (second, name) ∈ names) :
    first = second := by
  have distinct := sound.distinct
  unfold Names.taken at distinct
  induction names with
  | nil => cases firstNamed
  | cons entry rest ih =>
    rw [List.map_cons, List.nodup_cons] at distinct
    obtain ⟨fresh, others⟩ := distinct
    have elsewhere : ∀ origin, (origin, name) ∈ rest → entry.2 ≠ name := by
      rintro origin inside same
      exact fresh (same ▸ List.mem_map.2 ⟨(origin, name), inside, rfl⟩)
    rcases List.mem_cons.1 firstNamed with here | firstLater
    · rcases List.mem_cons.1 secondNamed with alsoHere | secondLater
      · exact (Prod.mk.inj (here.trans alsoHere.symm)).1
      · exact absurd (congrArg Prod.snd here).symm (elsewhere second secondLater)
    · rcases List.mem_cons.1 secondNamed with here | secondLater
      · exact absurd (congrArg Prod.snd here).symm (elsewhere first firstLater)
      · exact ih ⟨others, fun other inside => sound.unreserved other (List.mem_cons_of_mem _ inside)⟩
          firstLater secondLater others

end Names

/-- A text of ASCII characters. -/
def IsAscii (text : String) : Prop := ∀ c ∈ text.toList, c.toNat < 0x80

instance (text : String) : Decidable (IsAscii text) :=
  List.decidableBAll (fun c : Char => c.toNat < 0x80) text.toList

/-- A number in front of nothing is of ASCII characters. -/
theorem ascii_toDigits {number : Nat} {c : Char} (inside : c ∈ Nat.toDigits 10 number) :
    c.toNat < 0x80 := by
  have isDigit := Nat.isDigit_of_mem_toDigits (by omega) (Nat.le_refl 10) inside
  simp only [Char.isDigit, Bool.and_eq_true, decide_eq_true_eq] at isDigit
  have below : c.val.toNat ≤ 57 := UInt32.le_iff_toNat_le.1 isDigit.2
  show c.val.toNat < 0x80
  omega

/-- A name of ASCII characters stays one with a number. -/
theorem ascii_numbered {name : String} (ascii : IsAscii name) (number : Nat) :
    IsAscii (numbered name number) := by
  cases number with
  | zero => exact ascii
  | succ number =>
    intro c inside
    rw [toList_numbered] at inside
    rcases List.mem_append.1 inside with before | after
    · exact ascii c before
    · rcases List.mem_cons.1 after with rfl | digit
      · decide
      · exact ascii_toDigits digit

/-- Symbols with names of ASCII characters get names of ASCII characters. -/
theorem ascii_chooseName {name : String} (ascii : IsAscii name) (taken : List String) :
    IsAscii (chooseName taken name) := by
  obtain ⟨chosen, is⟩ := exists_chooseName taken name
  rw [is]
  exact ascii_numbered ascii chosen

/-- The names that the host gives are reserved. -/
theorem reserved_given :
    (∀ name ∈ Run.givenFunctions, reservedWords.contains name = true) ∧
      (∀ name ∈ Run.givenKinds, reservedWords.contains name = true) ∧
        ∀ entry ∈ Run.givenThings, reservedWords.contains entry.1 = true := by
  -- After their first names both lists are in the order of the reserved words, so one pass through
  -- these is enough.
  have functions : (Run.givenFunctions.drop 2).Sublist reservedWords :=
    List.isSublist_iff_sublist.1 (by decide +kernel)
  have kinds : (Run.givenKinds.drop 5).Sublist reservedWords :=
    List.isSublist_iff_sublist.1 (by decide +kernel)
  have others : ∀ name ∈ Run.givenFunctions.take 2 ++ (Run.givenKinds.take 5 ++
      Run.givenThings.map (·.1)), name ∈ reservedWords := by
    decide +kernel
  simp only [List.contains_iff_mem]
  refine ⟨fun name inside => ?_, fun name inside => ?_, fun entry inside => ?_⟩
  · rw [← List.take_append_drop 2 Run.givenFunctions] at inside
    rcases List.mem_append.1 inside with early | late
    · exact others name (List.mem_append_left _ early)
    · exact functions.subset late
  · rw [← List.take_append_drop 5 Run.givenKinds] at inside
    rcases List.mem_append.1 inside with early | late
    · exact others name (List.mem_append_right _ (List.mem_append_left _ early))
    · exact kinds.subset late
  · exact others entry.1 (List.mem_append_right _
      (List.mem_append_right _ (List.mem_map_of_mem inside)))

/-- A name that is not reserved stands for nothing in a module without functions and variables. -/
theorem meaning?_eq_none {name : String} (unreserved : isReserved name = false) :
    meaning? name = none := by
  have parts := unreserved
  rw [isReserved, Bool.or_eq_false_iff, Bool.or_eq_false_iff] at parts
  obtain ⟨⟨word, _⟩, _⟩ := parts
  obtain ⟨functions, kinds, things⟩ := reserved_given
  have start : Run.startValue? name = none := by
    unfold Run.startValue?
    split
    all_goals first | rfl | exact absurd unreserved (by decide)
  have given : Run.givenValue? name = none := by
    unfold Run.givenValue?
    split
    · rename_i inside
      rw [functions name (List.contains_iff_mem.1 inside)] at word
      cases word
    · split
      · rename_i inside
        rw [kinds name (List.contains_iff_mem.1 inside)] at word
        cases word
      · refine List.lookup_eq_none_iff.2 fun entry inside => ?_
        rw [bne_iff_ne]
        rintro rfl
        rw [things entry inside] at word
        cases word
  rw [meaning?, start, given]
  rfl

/-- The host tells names of ASCII characters apart, if the search for each of them ends. -/
theorem apart_of_ascii {program : Program Mark}
    (declared : ∀ symbol ∈ symbolsOf program, symbol.origin.isSome = true)
    (ascii : ∀ symbol ∈ symbolsOf program, IsAscii symbol.name)
    (settles : Names.Settle [] (symbolsOf program)) : Apart program := by
  have empty : Names.Sound [] := ⟨List.nodup_nil, by simp [Names.taken]⟩
  have sound : (Names.ofProgram program).Sound := empty.foldl settles
  have named : ∀ symbol ∈ symbolsOf program, ∃ origin, symbol.origin = some origin ∧
      (origin, hostName program symbol) ∈ Names.ofProgram program := by
    intro symbol inside
    obtain ⟨origin, is⟩ := Option.isSome_iff_exists.1 (declared symbol inside)
    have asciiName : IsAscii ((Names.ofProgram program).find symbol) :=
      Names.forall_find IsAscii (fun other member => ascii_chooseName (ascii other member)) inside is
    have own : hostName program symbol = (Names.ofProgram program).find symbol :=
      Text.foldText_ascii asciiName
    exact ⟨origin, is, own ▸ Names.mem_find inside is⟩
  constructor
  · intro first firstInside second secondInside same
    obtain ⟨firstOrigin, firstIs, firstNamed⟩ := named first firstInside
    obtain ⟨secondOrigin, secondIs, secondNamed⟩ := named second secondInside
    rw [firstIs, secondIs, sound.origin_eq firstNamed (same ▸ secondNamed)]
  · intro symbol inside
    obtain ⟨origin, _, member⟩ := named symbol inside
    exact meaning?_eq_none (sound.unreserved _ (List.mem_map.2 ⟨_, member, rfl⟩))

end Lag.Host
