import Lag.Host.Name

/-!
# Free names

A symbol gets the first numbered name that is neither reserved nor taken. There may be none: a
name that starts like the names of every module stays reserved with any number, and the search for
a free one does not end. But if there is a free name at all, there is one among the numbers that
are tried near by, because the numbered names differ and all but the first of them are reserved
alike.
-/
namespace Lag.Host

/-- A name that a symbol may get. -/
def IsFree (taken : List String) (name : String) : Prop :=
  isReserved name = false ∧ name ∉ taken

instance (taken : List String) (name : String) : Decidable (IsFree taken name) :=
  inferInstanceAs (Decidable (isReserved name = false ∧ name ∉ taken))

/-- A name that a symbol may get is not occupied. -/
theorem isOccupied_eq_false_iff {taken : List String} {name : String} :
    isOccupied taken name = false ↔ IsFree taken name := by
  rw [isOccupied, Bool.or_eq_false_iff, IsFree, List.contains_eq_mem, decide_eq_false_iff_not]

/-- A name whose search for a free number ends. -/
def Ends (taken : List String) (name : String) : Prop :=
  ∃ number, IsFree taken (numbered name number)

/-- The characters of a name with a number. -/
theorem toList_numbered (name : String) (number : Nat) :
    (numbered name (number + 1)).toList = name.toList ++ '_' :: Nat.toDigits 10 (number + 1) := by
  have digits : (toString (number + 1)).toList = Nat.toDigits 10 (number + 1) := Nat.toList_repr
  rw [numbered, if_neg (Nat.succ_ne_zero number), String.toList_append, String.toList_append, digits,
    List.append_assoc]
  rfl

/-- Different numbers give different names. -/
theorem numbered_injective (name : String) {first second : Nat}
    (same : numbered name (first + 1) = numbered name (second + 1)) : first = second := by
  have lists := congrArg String.toList same
  rw [toList_numbered, toList_numbered] at lists
  have digits := (List.cons.inj (List.append_cancel_left lists)).2
  have values := congrArg (Nat.ofDigitChars 10 · 0) digits
  simp only [Nat.ofDigitChars_ten_toDigits] at values
  exact Nat.succ.inj values

/-- A number in front of nothing starts with a digit. -/
theorem toDigits_eq_cons (number : Nat) :
    ∃ first rest, Nat.toDigits 10 number = first :: rest ∧ first.isDigit = true := by
  cases digits : Nat.toDigits 10 number with
  | nil => exact absurd digits Nat.toDigits_ne_nil
  | cons first rest =>
    have inside : first ∈ Nat.toDigits 10 number := by rw [digits]; exact List.mem_cons_self
    exact ⟨first, rest, rfl, Nat.isDigit_of_mem_toDigits (by omega) (Nat.le_refl 10) inside⟩

/-- A name with a number does not end with an underscore. -/
theorem isUnderscored_numbered (name : String) (number : Nat) :
    isUnderscored (numbered name (number + 1)).toList = false := by
  have digit : ∀ c ∈ Nat.toDigits 10 (number + 1), c.isDigit = true := fun c inside =>
    Nat.isDigit_of_mem_toDigits (by omega) (Nat.le_refl 10) inside
  rw [toList_numbered, isUnderscored, List.reverse_append, List.reverse_cons]
  cases reversed : (Nat.toDigits 10 (number + 1)).reverse with
  | nil => exact absurd (List.reverse_eq_nil_iff.1 reversed) Nat.toDigits_ne_nil
  | cons last rest =>
    have isDigit := digit last (List.mem_reverse.1 (by rw [reversed]; exact List.mem_cons_self))
    have other : last ≠ '_' := by
      rintro rfl
      simp at isDigit
    simp [other]

/-- Whether a name with a number starts like the names of every module does not depend on the
number. -/
theorem take_numbered (name : String) (number : Nat) :
    (numbered name (number + 1)).toList.take 5 = "_lag_".toList ↔
      (name.toList ++ ['_']).take 5 = "_lag_".toList := by
  obtain ⟨digit, rest, digits, isDigit⟩ := toDigits_eq_cons (number + 1)
  rw [toList_numbered, digits]
  have notLetter : digit ≠ 'l' ∧ digit ≠ 'a' ∧ digit ≠ 'g' ∧ digit ≠ '_' := by
    refine ⟨?_, ?_, ?_, ?_⟩ <;> rintro rfl <;> simp at isDigit
  -- From its fourth character on the name decides; before, a digit is in the way.
  match name.toList with
  | [] | [_] | [_, _] | [_, _, _] => simp [notLetter]
  | _ :: _ :: _ :: _ :: [] => simp
  | _ :: _ :: _ :: _ :: _ :: _ => simp

/-- Whether a name with a number is reserved only for its number is decided by the words. -/
theorem isReserved_numbered {name : String} {free other : Nat}
    (isFree : isReserved (numbered name (free + 1)) = false)
    (reserved : isReserved (numbered name (other + 1)) = true) :
    numbered name (other + 1) ∈ reservedWords := by
  simp only [isReserved, isUnderscored_numbered, Bool.or_false, Bool.or_eq_false_iff,
    Bool.or_eq_true, List.contains_iff_mem, beq_iff_eq, beq_eq_false_iff_ne] at isFree reserved
  rcases reserved with word | lag
  · exact word
  · exact absurd ((take_numbered name free).2 ((take_numbered name other).1 lag)) isFree.2

/-- A search with room for a free name finds one. -/
theorem isFree_freeName {taken : List String} {name : String} {bound number distance : Nat}
    (near : distance < bound) (free : IsFree taken (numbered name (number + distance))) :
    IsFree taken (freeName taken name bound number) := by
  induction bound generalizing number distance with
  | zero => omega
  | succ bound ih =>
    unfold freeName
    dsimp only
    split
    · rename_i occupied
      cases distance with
      | zero =>
        rw [Nat.add_zero] at free
        rw [isOccupied_eq_false_iff.2 free] at occupied
        cases occupied
      | succ distance =>
        have later : number + (distance + 1) = number + 1 + distance := by omega
        exact ih (by omega) (later ▸ free)
    · rename_i unoccupied
      exact isOccupied_eq_false_iff.1 (Bool.eq_false_iff.2 unoccupied)

/-- If all numbers up to a bound are occupied, there are as many reserved and taken names. -/
theorem length_of_occupied {taken : List String} {name : String} {bound : Nat}
    (occupied : ∀ number < bound, numbered name (number + 1) ∈ reservedWords ++ taken) :
    bound ≤ reservedWords.length + taken.length := by
  have distinct : ((List.range bound).map fun number => numbered name (number + 1)).Nodup := by
    refine List.pairwise_map.2 (List.nodup_range.imp fun {first second} different same => ?_)
    exact different (numbered_injective name same)
  have inside : (List.range bound).map (fun number => numbered name (number + 1)) ⊆
      reservedWords ++ taken := by
    intro candidate member
    obtain ⟨number, below, rfl⟩ := List.mem_map.1 member
    exact occupied number (List.mem_range.1 below)
  have counted := List.Nodup.length_le_of_subset distinct inside
  rwa [List.length_map, List.length_range, List.length_append] at counted

/-- The name that is found near by is free if any is. -/
theorem isFree_nearName {taken : List String} {name : String} (ends : Ends taken name) :
    IsFree taken (nearName taken name) := by
  obtain ⟨number, free⟩ := ends
  unfold nearName
  by_cases near : number < reservedWords.length + taken.length + 2
  · exact isFree_freeName near (by rwa [Nat.zero_add])
  · -- The free number is out of reach, but not all of the numbers before it can be occupied.
    obtain ⟨previous, rfl⟩ : ∃ previous, number = previous + 1 := ⟨number - 1, by omega⟩
    have exists_free : ∃ closer < reservedWords.length + taken.length + 1,
        numbered name (closer + 1) ∉ reservedWords ++ taken := by
      apply Classical.byContradiction
      intro none
      have counted := @length_of_occupied taken name (reservedWords.length + taken.length + 1)
        fun closer below => Classical.byContradiction fun outside => none ⟨closer, below, outside⟩
      omega
    obtain ⟨closer, below, outside⟩ := exists_free
    rw [List.mem_append, not_or] at outside
    have unreserved : isReserved (numbered name (closer + 1)) = false := by
      cases reserved : isReserved (numbered name (closer + 1)) with
      | false => rfl
      | true => exact absurd (isReserved_numbered free.1 reserved) outside.1
    exact isFree_freeName (by omega : closer + 1 < _)
      (by rw [Nat.zero_add]; exact ⟨unreserved, outside.2⟩)

/-- A bounded search gives a name with a number. -/
theorem exists_freeName (taken : List String) (name : String) (bound number : Nat) :
    ∃ chosen, freeName taken name bound number = numbered name chosen := by
  induction bound generalizing number with
  | zero => exact ⟨number, rfl⟩
  | succ bound ih =>
    unfold freeName
    dsimp only
    split
    · exact ih (number + 1)
    · exact ⟨number, rfl⟩

/-- There is a free name exactly when the one that is found near by is free. -/
theorem ends_iff_nearName {taken : List String} {name : String} :
    Ends taken name ↔ IsFree taken (nearName taken name) := by
  refine ⟨isFree_nearName, fun free => ?_⟩
  obtain ⟨chosen, is⟩ := exists_freeName taken name (reservedWords.length + taken.length + 2) 0
  rw [nearName, is] at free
  exact ⟨chosen, free⟩

instance (taken : List String) (name : String) : Decidable (Ends taken name) :=
  decidable_of_iff _ ends_iff_nearName.symm

/-! ## The search without a bound -/

/-- What a search finds is the first free name from its number on. -/
theorem search_first {taken : List String} {name : String} {number : Nat} {found : String}
    (finds : search taken name number = some found) :
    ∃ distance, found = numbered name (number + distance) ∧ IsFree taken found ∧
      ∀ earlier < distance, ¬IsFree taken (numbered name (number + earlier)) := by
  refine search.partial_correctness taken name (fun number found => ∃ distance,
    found = numbered name (number + distance) ∧ IsFree taken found ∧
      ∀ earlier < distance, ¬IsFree taken (numbered name (number + earlier))) ?_ number found finds
  intro continued ih number found finds
  dsimp only at finds
  split at finds
  · rename_i occupied
    obtain ⟨distance, is, free, before⟩ := ih (number + 1) found finds
    refine ⟨distance + 1, by rw [is]; congr 1; omega, free, fun earlier below => ?_⟩
    cases earlier with
    | zero =>
      intro here
      rw [Nat.add_zero] at here
      rw [isOccupied_eq_false_iff.2 here] at occupied
      cases occupied
    | succ earlier =>
      have later : number + (earlier + 1) = number + 1 + earlier := by omega
      rw [later]
      exact before earlier (by omega)
  · rename_i unoccupied
    obtain rfl := Option.some.inj finds
    exact ⟨0, rfl, isOccupied_eq_false_iff.1 (Bool.eq_false_iff.2 unoccupied), by simp⟩

/-- A search finds what a bounded search finds free. -/
theorem search_freeName {taken : List String} {name : String} {bound number : Nat}
    (free : IsFree taken (freeName taken name bound number)) :
    search taken name number = some (freeName taken name bound number) := by
  induction bound generalizing number with
  | zero =>
    rw [freeName] at free ⊢
    rw [search, isOccupied_eq_false_iff.2 free]
    rfl
  | succ bound ih =>
    unfold freeName at free ⊢
    rw [search]
    dsimp only at free ⊢
    split
    · rename_i occupied
      rw [if_pos occupied] at free
      exact ih free
    · rfl

/-- A search ends exactly when there is a free name. -/
theorem search_isSome {taken : List String} {name : String} :
    (search taken name 0).isSome = true ↔ Ends taken name := by
  constructor
  · intro found
    obtain ⟨found, is⟩ := Option.isSome_iff_exists.1 found
    obtain ⟨distance, rfl, free, _⟩ := search_first is
    exact ⟨_, free⟩
  · intro ends
    have found : search taken name 0 = some (nearName taken name) :=
      search_freeName (isFree_nearName ends)
    rw [found]
    rfl

/-- A name for which there is no free name is searched for without an end. -/
theorem search_eq_none {taken : List String} {name : String} (endless : ¬Ends taken name) :
    search taken name 0 = none := by
  rw [← Option.not_isSome_iff_eq_none, search_isSome]
  exact endless

/-! ## The name that is chosen -/

/-- The name that is chosen is the one that is found near by. -/
theorem chooseName_eq (taken : List String) (name : String) :
    chooseName taken name = nearName taken name := by
  unfold chooseName
  dsimp only
  split
  · rename_i occupied
    have endless : ¬Ends taken name := by
      intro ends
      rw [isOccupied_eq_false_iff.2 (isFree_nearName ends)] at occupied
      cases occupied
    rw [search_eq_none endless]
    rfl
  · rfl

/-- The name that is chosen is the one that the search finds if it ends. -/
theorem search_eq_chooseName {taken : List String} {name : String} (ends : Ends taken name) :
    search taken name 0 = some (chooseName taken name) := by
  rw [chooseName_eq]
  exact search_freeName (isFree_nearName ends)

/-- The name that is chosen is free if the search for one ends. -/
theorem isFree_chooseName {taken : List String} {name : String} (ends : Ends taken name) :
    IsFree taken (chooseName taken name) := by
  rw [chooseName_eq]
  exact isFree_nearName ends

/-- The name that is chosen is the one of a symbol with a number. -/
theorem exists_chooseName (taken : List String) (name : String) :
    ∃ chosen, chooseName taken name = numbered name chosen := by
  rw [chooseName_eq]
  exact exists_freeName taken name (reservedWords.length + taken.length + 2) 0

end Lag.Host
