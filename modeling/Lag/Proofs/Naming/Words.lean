import Lag.Proofs.Reading.Written
import Lag.Proofs.Scoping.Layout
import Lag.Proofs.Tree.Scanned

/-!
# Host names are names of the grammar

A name of a program is made of characters that host names are made of, and so is every name that is
chosen for it. It is no keyword either: a name without a number is not reserved, and no keyword
ends with a digit.
-/
namespace Lag.Host

/-- Below the ASCII bound the characters of names are word characters, and no digit starts one. -/
theorem ascii_name : ∀ code < 0x80,
    (Scan.isNameChar (Char.ofNat code) = true → isWordChar (Char.ofNat code) = true) ∧
      (Scan.isNameStart (Char.ofNat code) = true → (Char.ofNat code).isDigit = false) := by
  decide +kernel

/-- The characters of names are word characters. -/
theorem isWordChar_of_isNameChar {c : Char} (goes : Scan.isNameChar c = true) :
    isWordChar c = true := by
  by_cases ascii : c.toNat < 0x80
  · have named := (ascii_name c.toNat ascii).1
    rw [Char.ofNat_toNat] at named
    exact named goes
  · have beyond : 0x80 ≤ c.toNat := by omega
    simp [isWordChar, beyond]

/-- No digit starts a name. -/
theorem isDigit_of_isNameStart {c : Char} (starts : Scan.isNameStart c = true) :
    c.isDigit = false := by
  by_cases ascii : c.toNat < 0x80
  · have named := (ascii_name c.toNat ascii).2
    rw [Char.ofNat_toNat] at named
    exact named starts
  · cases digit : c.isDigit with
    | false => rfl
    | true =>
      simp only [Char.isDigit, Bool.and_eq_true, decide_eq_true_eq] at digit
      have below : c.val.toNat ≤ 57 := UInt32.le_iff_toNat_le.1 digit.2
      have same : c.val.toNat = c.toNat := rfl
      omega

/-- The keywords are reserved, and none of them has a digit. -/
theorem reserved_keywords : ∀ word ∈ keywords,
    reservedWords.contains word = true ∧ ∀ c ∈ word.toList, c.isDigit = false := by
  have listed : keywords.all (fun word =>
      reservedWords.contains word && word.toList.all (!·.isDigit)) = true := by
    decide +kernel
  intro word inside
  obtain ⟨reserved, digitless⟩ := Bool.and_eq_true_iff.1 (List.all_eq_true.1 listed word inside)
  exact ⟨reserved, fun c within => by simpa using List.all_eq_true.1 digitless c within⟩

/-- The letters of a name with a number. -/
theorem letters_numbered {name : String} (isName : Scan.IsName name) (number : Nat) :
    (numbered name number).toList.all isWordChar = true ∧
      (numbered name number).toList.head?.any (!·.isDigit) = true := by
  obtain ⟨first, rest, shape, starts, goes⟩ := isName
  have firstGoes := Scan.isNameChar_of_isNameStart starts
  have digit := isDigit_of_isNameStart starts
  have letters : ∀ c ∈ first :: rest, isWordChar c = true := by
    intro c inside
    rcases List.mem_cons.1 inside with rfl | later
    · exact isWordChar_of_isNameChar firstGoes
    · exact isWordChar_of_isNameChar (goes c later)
  cases number with
  | zero =>
    rw [show numbered name 0 = name from rfl, shape]
    exact ⟨List.all_eq_true.2 letters, by simp [digit]⟩
  | succ number =>
    rw [toList_numbered, shape]
    refine ⟨List.all_eq_true.2 fun c inside => ?_, by simp [digit]⟩
    rcases List.mem_append.1 inside with before | after
    · exact letters c before
    · rcases List.mem_cons.1 after with rfl | isDigit
      · decide
      · have digits := Nat.isDigit_of_mem_toDigits (by omega) (Nat.le_refl 10) isDigit
        simp [isWordChar, Char.isAlphanum, digits]

/-- A name with a number is no keyword. -/
theorem keywords_numbered (name : String) (number : Nat) :
    keywords.contains (numbered name (number + 1)) = false := by
  cases isKeyword : keywords.contains (numbered name (number + 1)) with
  | false => rfl
  | true =>
    obtain ⟨digit, rest, digits, isDigit⟩ := toDigits_eq_cons (number + 1)
    have inside : digit ∈ (numbered name (number + 1)).toList := by
      rw [toList_numbered, digits]
      simp
    have none := (reserved_keywords _ (List.contains_iff_mem.1 isKeyword)).2 digit inside
    rw [isDigit] at none
    cases none

/-- A name that is not reserved is no keyword. -/
theorem keywords_unreserved {name : String} (unreserved : isReserved name = false) :
    keywords.contains name = false := by
  cases isKeyword : keywords.contains name with
  | false => rfl
  | true =>
    have reserved := (reserved_keywords _ (List.contains_iff_mem.1 isKeyword)).1
    rw [isReserved, reserved] at unreserved
    cases unreserved

/-- A name that is searched for is found unreserved, unless the search went past the name without a
number. -/
theorem unreserved_freeName {taken : List String} {name : String} {bound number : Nat}
    (searches : 0 < bound ∨ 0 < number) :
    isReserved (freeName taken name bound number) = false ∨
      ∃ chosen, freeName taken name bound number = numbered name (chosen + 1) := by
  induction bound generalizing number with
  | zero =>
    obtain ⟨chosen, rfl⟩ : ∃ chosen, number = chosen + 1 := ⟨number - 1, by omega⟩
    exact .inr ⟨chosen, rfl⟩
  | succ bound ih =>
    unfold freeName
    dsimp only
    split
    · exact ih (.inr (Nat.succ_pos number))
    · rename_i unoccupied
      exact .inl (isOccupied_eq_false_iff.1 (Bool.eq_false_iff.2 unoccupied)).1

/-- A name that is chosen is a name of the grammar. -/
theorem isWord_chooseName (taken : List String) {name : String} (isName : Scan.IsName name) :
    isWord (chooseName taken name) = true := by
  obtain ⟨chosen, is⟩ := exists_chooseName taken name
  have letters := letters_numbered isName chosen
  rw [← is] at letters
  refine isWord_iff.2 ⟨letters.1, letters.2, ?_⟩
  rw [chooseName_eq, nearName]
  rcases @unreserved_freeName taken name _ 0 (.inl (Nat.succ_pos _)) with unreserved | ⟨number, late⟩
  · exact keywords_unreserved unreserved
  · rw [late]
    exact keywords_numbered name number

end Lag.Host

namespace Lag

open Host (declared declaredAll declaredBy declaredIn symbolsOf)

/-! ## Names of programs -/

namespace Typing

/-- A symbol has the name of the declaration of a variable that introduces it. -/
theorem Declares.isName {inModule : Bool} {table next : SymbolTable} {binding : Binding Mark}
    (declares : Declares inModule table binding next) (regular : binding.Regular) :
    ∀ symbol ∈ binding.note.symbol.toList, Scan.IsName symbol.name := by
  obtain ⟨_, _, _, bound, _⟩ := declares
  intro symbol inside
  rw [bound] at inside
  obtain rfl := List.mem_singleton.1 inside
  exact regular.name

mutual

/-- The symbols that a well typed statement declares have names. -/
theorem Follows.isName {result : Ty} : ∀ {stmt : Stmt Mark} {table next : SymbolTable},
    Follows result table stmt next → stmt.Regular →
      ∀ symbol ∈ declared stmt, Scan.IsName symbol.name
  | .declare _, _, _, .declare declares, regular => declares.isName regular
  | .assign _ _ _, _, _, _, _ | .leave _ _, _, _, _, _ | .evaluate _ _, _, _, _, _ =>
    fun _ inside => nomatch inside
  | .block _ _, _, _, .block body, regular => body.isName regular
  | .ifThen _ _ _ _, _, _, .ifThen _ _ body, regular => body.isName regular.2
  | .ifElse _ _ _ _ _, _, _, .ifElse _ _ body _ other, regular => by
    intro symbol inside
    rcases List.mem_append.1 inside with first | second
    · exact body.isName regular.2.1 symbol first
    · exact other.isName regular.2.2.2 symbol second
  | .whileLoop _ _ _ _, _, _, .whileLoop _ _ body, regular => body.isName regular.2
  | .forLoop _ _ _ _ _ _, _, _, .forLoop _ _ _ _ noted _ body, regular => by
    intro symbol inside
    rw [declared, noted] at inside
    rcases List.mem_cons.1 inside with rfl | later
    · exact regular.1
    · exact body.isName regular.2.2.2 symbol later

/-- The symbols that well typed statements declare have names. -/
theorem Body.isName {result : Ty} : ∀ {body : List (Stmt Mark)} {table : SymbolTable},
    Body result table body → Stmt.AllRegular body →
      ∀ symbol ∈ declaredAll body, Scan.IsName symbol.name
  | [], _, _, _ => fun _ inside => nomatch inside
  | _ :: _, _, .cons first others, regular => by
    intro symbol inside
    rcases List.mem_append.1 inside with here | later
    · exact first.isName regular.1 symbol here
    · exact others.isName regular.2 symbol later

end

/-- The symbols of parameters have names. -/
theorem Params.isName {table next : SymbolTable} {params : List (Param Mark)}
    (takes : Params table params next) (regular : ∀ param ∈ params, param.Regular) :
    ∀ symbol ∈ params.flatMap (·.note.symbol.toList), Scan.IsName symbol.name := by
  induction takes with
  | nil => exact fun _ inside => nomatch inside
  | cons _ bound _ _ ih =>
    intro symbol inside
    rw [List.flatMap_cons, bound] at inside
    rcases List.mem_cons.1 inside with rfl | later
    · exact (regular _ List.mem_cons_self).name
    · exact ih (fun param member => regular param (List.mem_cons_of_mem _ member)) symbol later

/-- The symbols of a well typed function have names. -/
theorem Defines.isName {table : SymbolTable} {function : Function Mark}
    (defines : Defines table function) (regular : function.Regular) :
    ∀ symbol ∈ function.note.symbol.toList ++ declaredIn function, Scan.IsName symbol.name := by
  obtain ⟨bound, _, params, body, _⟩ := defines
  intro symbol inside
  rcases List.mem_append.1 inside with own | within
  · rw [bound] at own
    obtain rfl := List.mem_singleton.1 own
    exact regular.name
  · rcases List.mem_append.1 within with first | second
    · exact params.isName regular.params symbol first
    · exact body.isName regular.body symbol second

/-- The symbols that declarations introduce have names. -/
theorem Declarations.isName {table : SymbolTable} {declarations : List (Declaration Mark)}
    (typed : Declarations table declarations)
    (regular : ∀ declaration ∈ declarations, declaration.Regular) :
    ∀ symbol ∈ declarations.flatMap declaredBy, Scan.IsName symbol.name := by
  induction typed with
  | nil => exact fun _ inside => nomatch inside
  | function first _ ih =>
    intro symbol inside
    rcases List.mem_append.1 inside with here | later
    · exact first.isName (regular _ List.mem_cons_self) symbol (List.mem_append_left _ here)
    · exact ih (fun other member => regular other (List.mem_cons_of_mem _ member)) symbol later
  | binding first _ ih =>
    intro symbol inside
    rcases List.mem_append.1 inside with here | later
    · exact first.isName (regular _ List.mem_cons_self) symbol here
    · exact ih (fun other member => regular other (List.mem_cons_of_mem _ member)) symbol later

/-- The symbols of a well typed program that was read have names. -/
theorem Program.isName {program : Lag.Program Mark} (typed : Program program)
    (regular : program.Regular) : ∀ symbol ∈ symbolsOf program, Scan.IsName symbol.name := by
  intro symbol inside
  rcases List.mem_append.1 inside with first | second
  · obtain ⟨_, declared⟩ := typed
    exact declared.isName regular symbol first
  · obtain ⟨function, member, within⟩ := List.mem_flatMap.1 second
    obtain ⟨_, _, defines⟩ := typed.defines member
    have isDeclared : Declaration.function function ∈ program.declarations := by
      rw [← functionsOf_declarations] at member
      exact mem_functionsOf.1 member
    exact defines.isName (regular _ isDeclared) symbol (List.mem_append_right _ within)

/-- The host name of a symbol of a well typed program that was read is a name of the grammar. -/
theorem Program.isWord_find {program : Lag.Program Mark} (typed : Program program)
    (regular : program.Regular) {symbol : Symbol} (inside : symbol ∈ symbolsOf program) :
    Host.isWord ((Host.Names.ofProgram program).find symbol) = true := by
  obtain ⟨origin, is⟩ := typed.isSome_origin inside
  have chosen : ∀ other ∈ symbolsOf program, ∀ taken,
      Host.isWord (Host.chooseName taken other.name) = true := fun other member taken =>
    Host.isWord_chooseName taken (typed.isName regular other member)
  exact Host.Names.forall_find (Host.isWord · = true) chosen inside is

end Typing

end Lag
