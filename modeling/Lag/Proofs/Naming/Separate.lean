import Lag.Proofs.Naming.Ending

/-!
# Symbols have names of their own

The names that the walk gives to symbols differ as they are spelled, and none of them is a word of
the host or a name of the lines that every module starts with. The host compares names by a form,
and that keeps them apart if the names of the program are written in it. Names that are not may
become one: a letter and another style of it are spelled differently and have one form.
-/
namespace Lag

open Host (Ends IsFree Names numbered chooseName isReserved reservedWords symbolsOf)

namespace Host

/-- The names that the lines of every module define. -/
def helperNames : List String := [
  "_lag_logging", "_lag_math", "_lag_logger", "_lag_str", "__lag_init__", "__lag_exports__"]

/-- What is used of the form in which the host compares names: ASCII texts are in it, and it leaves
the number after a name. -/
structure Folding (form : String → String) : Prop where
  /-- A text of ASCII characters is its own form. -/
  ascii : ∀ text, IsAscii text → form text = text
  /-- The form of a name with a number is the form of the name with the number. -/
  numbered : ∀ name number, form (numbered name number) = numbered (form name) number

/-- The compatibility form is such a form. -/
theorem folding_foldText : Folding Text.foldText where
  ascii _ ascii := Text.foldText_ascii ascii
  numbered name number := by
    cases number with
    | zero => rfl
    | succ number =>
      have ascii : ∀ c ∈ '_' :: Nat.toDigits 10 (number + 1), c.toNat < 0x80 :=
        List.forall_mem_cons.2 ⟨by decide, fun c inside => ascii_toDigits inside⟩
      have kept := Text.foldText_append_ascii name ascii
      rwa [← toList_numbered, ← toList_numbered, String.ofList_toList, String.ofList_toList]
        at kept

/-- A text all of whose bytes are small is of ASCII characters. -/
theorem isAscii_of_bytes {text : String}
    (bytes : text.toByteArray.data.toList.all (· < 0x80) = true) : IsAscii text := by
  intro c inside
  apply Classical.byContradiction
  intro beyond
  -- The last byte of another character says that bytes come before it.
  have last : UInt8.ofNat (c.val.toNat % 64 + 128) ∈ String.utf8EncodeChar c := by
    have high : ¬c.val.toNat ≤ 127 := by
      have same : c.val.toNat = c.toNat := rfl
      omega
    rw [String.utf8EncodeChar, if_neg high]
    split
    · simp
    · split <;> simp
  rw [← String.utf8Encode_toList, List.utf8Encode, List.data_toByteArray] at bytes
  have small := of_decide_eq_true
    (List.all_eq_true.1 bytes _ (List.mem_flatMap.2 ⟨c, inside, last⟩))
  rw [UInt8.lt_iff_toNat_lt, UInt8.toNat_ofNat'] at small
  have bound : (0x80 : UInt8).toNat = 128 := rfl
  omega

/-- The words of the host and the names of every module are reserved and of ASCII characters. -/
theorem reserved_ascii : ∀ word ∈ reservedWords ++ helperNames,
    isReserved word = true ∧ IsAscii word := by
  have helpers : ∀ word ∈ helperNames, isReserved word = true := by decide +kernel
  have bytes : (reservedWords ++ helperNames).all
      (fun word => word.toByteArray.data.toList.all (· < 0x80)) = true := by decide +kernel
  intro word inside
  refine ⟨?_, isAscii_of_bytes (List.all_eq_true.1 bytes word inside)⟩
  rcases List.mem_append.1 inside with isWord | isHelper
  · rw [isReserved, List.contains_iff_mem.2 isWord]
    rfl
  · exact helpers word isHelper

/-- A name that is chosen for a symbol whose name is its own form is its own form. -/
theorem Folding.chooseName {form : String → String} (folding : Folding form) {name : String}
    (own : form name = name) (taken : List String) :
    form (chooseName taken name) = chooseName taken name := by
  obtain ⟨number, is⟩ := exists_chooseName taken name
  rw [is, folding.numbered, own]

end Host

section

variable {program : Program Mark}

/-- The names of a program are sound if the search for each of them ends. -/
theorem Host.Names.sound_ofProgram (settle : Names.Settle [] (symbolsOf program)) :
    (Names.ofProgram program).Sound := by
  have empty : Names.Sound [] := ⟨List.nodup_nil, by simp [Names.taken]⟩
  exact empty.foldl settle

/-- Every symbol of a checked program has a name. -/
theorem Program.IsChecked.mem_names (checked : program.IsChecked) {symbol : Symbol}
    (inside : symbol ∈ symbolsOf program) : ∃ origin, symbol.origin = some origin ∧
      List.lookup origin (Names.ofProgram program) =
        some ((Names.ofProgram program).find symbol) ∧
      (origin, (Names.ofProgram program).find symbol) ∈ Names.ofProgram program := by
  obtain ⟨origin, is⟩ := checked.typed.isSome_origin inside
  obtain ⟨name, found⟩ := @Names.exists_lookup [] _ _ inside _ is
  have own : (Names.ofProgram program).find symbol = name := Names.find_of_lookup is found
  exact ⟨origin, is, own ▸ found, Names.mem_find inside is⟩

/-- No name that the search ends with is reserved. -/
theorem Program.IsChecked.unreserved (checked : program.IsChecked)
    (settle : Names.Settle [] (symbolsOf program)) {symbol : Symbol}
    (inside : symbol ∈ symbolsOf program) :
    isReserved ((Names.ofProgram program).find symbol) = false := by
  obtain ⟨origin, _, _, member⟩ := checked.mem_names inside
  exact (Names.sound_ofProgram settle).unreserved _ (List.mem_map.2 ⟨_, member, rfl⟩)

/-- Symbols of different declarations have different names. -/
theorem Program.IsChecked.find_ne (checked : program.IsChecked)
    (settle : Names.Settle [] (symbolsOf program)) {first second : Symbol}
    (firstInside : first ∈ symbolsOf program) (secondInside : second ∈ symbolsOf program)
    (apart : first.origin ≠ second.origin) :
    (Names.ofProgram program).find first ≠ (Names.ofProgram program).find second := by
  intro same
  obtain ⟨firstOrigin, firstIs, _, firstMember⟩ := checked.mem_names firstInside
  obtain ⟨secondOrigin, secondIs, _, secondMember⟩ := checked.mem_names secondInside
  have one := (Names.sound_ofProgram settle).origin_eq firstMember (same ▸ secondMember)
  rw [firstIs, secondIs, one] at apart
  exact apart rfl

end

/-- Every symbol has a name of its own. When the walk over a checked program ends, every symbol of
the program has a name, symbols of different declarations have different names, and no name is
reserved. If the names of the program are written in the form in which the host compares names, the
names are also different for the host, from each other and from all words of the host and names of
every module. -/
theorem names_separate {form : String → String} (folding : Host.Folding form)
    {program : Program Mark} (checked : program.IsChecked) {title : String} {page : Page}
    (written : program.write title = some (.ok page)) :
    (∀ symbol ∈ symbolsOf program, ∃ origin, symbol.origin = some origin ∧
        List.lookup origin page.names = some (page.names.find symbol) ∧
          isReserved (page.names.find symbol) = false) ∧
      (∀ first ∈ symbolsOf program, ∀ second ∈ symbolsOf program, first.origin ≠ second.origin →
        page.names.find first ≠ page.names.find second) ∧
      ((∀ symbol ∈ symbolsOf program, form symbol.name = symbol.name) →
        (∀ first ∈ symbolsOf program, ∀ second ∈ symbolsOf program,
          first.origin ≠ second.origin →
            form (page.names.find first) ≠ form (page.names.find second)) ∧
        ∀ symbol ∈ symbolsOf program, ∀ word ∈ reservedWords ++ Host.helperNames,
          form (page.names.find symbol) ≠ form word) := by
  obtain ⟨settle, rfl⟩ := checked.of_write written
  have different : ∀ first ∈ symbolsOf program, ∀ second ∈ symbolsOf program,
      first.origin ≠ second.origin →
        (Names.ofProgram program).find first ≠ (Names.ofProgram program).find second :=
    fun first firstInside second secondInside apart =>
      checked.find_ne settle firstInside secondInside apart
  refine ⟨fun symbol inside => ?_, different, fun own => ?_⟩
  · obtain ⟨origin, is, found, _⟩ := checked.mem_names inside
    exact ⟨origin, is, found, checked.unreserved settle inside⟩
  · have kept : ∀ symbol ∈ symbolsOf program,
        form ((Names.ofProgram program).find symbol) = (Names.ofProgram program).find symbol := by
      intro symbol inside
      obtain ⟨origin, is, _⟩ := checked.mem_names inside
      exact Names.forall_find (fun name => form name = name)
        (fun other member => folding.chooseName (own other member)) inside is
    refine ⟨fun first firstInside second secondInside apart => ?_,
      fun symbol inside word isWord => ?_⟩
    · have spelled := different first firstInside second secondInside apart
      rwa [← kept first firstInside, ← kept second secondInside] at spelled
    · obtain ⟨reserved, ascii⟩ := Host.reserved_ascii word isWord
      intro same
      have free := checked.unreserved settle inside
      rw [← kept symbol inside, show form ((Names.ofProgram program).find symbol) = _ from same,
        folding.ascii word ascii, reserved] at free
      cases free

/-- A function with two variables that the host takes for one. -/
def styled : String := "fn f() -> int \x7b let a = 1; let \u00aa = 2; return a; \x7d"

/-- A parameter, variables that hide it, and variables with names of the host have names of their
own. -/
theorem names_separate_shadowed : ∃ (program : Program Mark) (page : Page),
    Host.Folding Text.foldText ∧ program.IsChecked ∧ program.write "m" = some (.ok page) ∧
      (∀ symbol ∈ symbolsOf program, Text.foldText symbol.name = symbol.name) ∧
      (∀ symbol ∈ symbolsOf program, ∃ origin, symbol.origin = some origin ∧
          List.lookup origin page.names = some (page.names.find symbol) ∧
            isReserved (page.names.find symbol) = false) ∧
        (∀ first ∈ symbolsOf program, ∀ second ∈ symbolsOf program,
          first.origin ≠ second.origin → page.names.find first ≠ page.names.find second) ∧
        (∀ first ∈ symbolsOf program, ∀ second ∈ symbolsOf program,
          first.origin ≠ second.origin →
            Text.foldText (page.names.find first) ≠ Text.foldText (page.names.find second)) ∧
        ∀ symbol ∈ symbolsOf program, ∀ word ∈ reservedWords ++ Host.helperNames,
          Text.foldText (page.names.find symbol) ≠ Text.foldText word := by
  obtain ⟨program, accepts, holds⟩ : ∃ program,
      Accepts "fn f(x: int) { let x = 1; let print = x; }" none 20 program ∧
      (decide (∀ symbol ∈ symbolsOf program, ¬Host.IsPrelude symbol.name) &&
        (decide ((symbolsOf program).countP (·.name == "_lag") ≤ 1) &&
          decide (∀ symbol ∈ symbolsOf program, Text.foldText symbol.name = symbol.name))) = true :=
    exists_accepts rfl (by decide) (by decide +kernel)
  simp only [Bool.and_eq_true, decide_eq_true_eq] at holds
  obtain ⟨plain, few, own⟩ := holds
  have checked := accepts.checked
  have written := (checked.write_eq "m").1 ((checked.settle_iff plain).2 few)
  obtain ⟨named, different, forHost⟩ := names_separate Host.folding_foldText checked written
  exact ⟨program, _, Host.folding_foldText, checked, written, own, named, different, forHost own⟩

/-- Two variables of one function have names that are spelled differently and have one form. -/
theorem names_confused : ∃ (program : Program Mark) (page : Page), program.IsChecked ∧
    (∀ symbol ∈ symbolsOf program, ¬Host.IsPrelude symbol.name) ∧
      program.write "m" = some (.ok page) ∧
        ∃ first ∈ symbolsOf program, ∃ second ∈ symbolsOf program, first.origin ≠ second.origin ∧
          Text.foldText (page.names.find first) = Text.foldText (page.names.find second) := by
  obtain ⟨program, accepts, holds⟩ : ∃ program, Accepts styled none 20 program ∧
      (decide (∀ symbol ∈ symbolsOf program, ¬Host.IsPrelude symbol.name) &&
        (decide ((symbolsOf program).countP (·.name == "_lag") ≤ 1) &&
          decide (∃ first ∈ symbolsOf program, ∃ second ∈ symbolsOf program,
            first.origin ≠ second.origin ∧ Text.foldText ((Names.ofProgram program).find first) =
              Text.foldText ((Names.ofProgram program).find second)))) = true :=
    exists_accepts rfl (by decide) (by decide +kernel)
  simp only [Bool.and_eq_true, decide_eq_true_eq] at holds
  obtain ⟨plain, few, confused⟩ := holds
  have checked := accepts.checked
  have written := (checked.write_eq "m").1 ((checked.settle_iff plain).2 few)
  exact ⟨program, _, checked, plain, written, confused⟩

end Lag
