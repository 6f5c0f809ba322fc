import Lag.Text.Lines
import Mathlib.Data.List.TakeWhile

/-!
# The line around a place

Places count line feeds, and a quoted line is found by its number among lines that other characters
end, too. Both rules agree on a line as long as the text up to its end has no other line breaks than
line feeds, with or without a carriage return before them.
-/
namespace Lag.Text

/-- The last line of a text in which only line feeds end lines. -/
def lastLine (text : List Char) : List Char := (text.reverse.takeWhile (· != '\n')).reverse

/-- A line without a carriage return at its end. -/
def dropReturn (line : List Char) : List Char :=
  if line.getLast? = some '\r' then line.dropLast else line

/-- A text up to the end of the line in which an offset lies. -/
def throughLine (text : List Char) (offset : Nat) : List Char :=
  text.take offset ++ (text.drop offset).takeWhile (· != '\n')

/-- The line in which an offset of a text lies: what is between the line feed before the offset and
the next one, without a carriage return at its end. -/
def lineAround (text : List Char) (offset : Nat) : List Char :=
  dropReturn (lastLine (text.take offset) ++ (text.drop offset).takeWhile (· != '\n'))

/-- A text in which nothing but line feeds ends lines. A carriage return may stand before a line
feed or at the end of the text. -/
def FeedsOnly (text : List Char) : Prop :=
  ∀ before c after, text = before ++ c :: after → isLineBreak c = true →
    c = '\n' ∨ c = '\r' ∧ (after = [] ∨ after.head? = some '\n')

/-! ## Lines that line feeds end -/

/-- A line feed starts a new last line. -/
theorem lastLine_append_feed (before : List Char) {after : List Char} (inside : '\n' ∈ after) :
    lastLine (before ++ after) = lastLine after := by
  have split : ∀ text : List Char, '\n' ∈ text →
      (text ++ before.reverse).takeWhile (· != '\n') = text.takeWhile (· != '\n') := by
    intro text found
    induction text with
    | nil => cases found
    | cons c rest ih =>
      by_cases feed : c = '\n'
      · simp [feed]
      · have later : '\n' ∈ rest := (List.mem_cons.1 found).resolve_left (Ne.symm feed)
        simp [feed, ih later]
  have reversed : '\n' ∈ after.reverse := List.mem_reverse.2 inside
  rw [lastLine, lastLine, List.reverse_append, split _ reversed]

/-- A text without line feeds continues the last line. -/
theorem lastLine_append (before : List Char) {after : List Char} (noFeed : '\n' ∉ after) :
    lastLine (before ++ after) = lastLine before ++ after := by
  have all : ∀ c ∈ after.reverse, (c != '\n') = true := by
    intro c inside
    have here : c ∈ after := List.mem_reverse.1 inside
    have other : c ≠ '\n' := fun same => noFeed (same ▸ here)
    simpa using other
  rw [lastLine, lastLine, List.reverse_append, List.takeWhile_append_of_pos all]
  simp

/-- A text without line feeds is one line. -/
theorem lastLine_of_not_mem {text : List Char} (noFeed : '\n' ∉ text) : lastLine text = text :=
  lastLine_append [] noFeed

/-- A line feed at the front belongs to an earlier line. -/
theorem lastLine_feed (rest : List Char) : lastLine ('\n' :: rest) = lastLine rest := by
  by_cases feed : '\n' ∈ rest
  · exact lastLine_append_feed ['\n'] feed
  · exact (lastLine_append ['\n'] feed).trans (lastLine_of_not_mem feed).symm

/-- There is no line feed up to the next one. -/
theorem not_mem_untilFeed (text : List Char) : '\n' ∉ text.takeWhile (· != '\n') := by
  intro inside
  have other := List.mem_takeWhile_imp inside
  simp at other

/-- The last line of a text up to the end of a line. -/
theorem lastLine_throughLine (text : List Char) (offset : Nat) :
    lastLine (throughLine text offset) =
      lastLine (text.take offset) ++ (text.drop offset).takeWhile (· != '\n') :=
  lastLine_append _ (not_mem_untilFeed _)

/-- As many lines end before the end of a line as before a place in it. -/
theorem count_throughLine (text : List Char) (offset : Nat) :
    (throughLine text offset).count '\n' = (text.take offset).count '\n' := by
  rw [throughLine, List.count_append, List.count_eq_zero.2 (not_mem_untilFeed _), Nat.add_zero]

/-- Behind a line there is the end of the text or a line feed. -/
theorem exists_throughLine (text : List Char) (offset : Nat) :
    ∃ rest, text = throughLine text offset ++ rest ∧ (rest = [] ∨ rest.head? = some '\n') := by
  refine ⟨(text.drop offset).dropWhile (· != '\n'), ?_, ?_⟩
  · rw [throughLine, List.append_assoc, List.takeWhile_append_dropWhile, List.take_append_drop]
  · cases left : (text.drop offset).dropWhile (· != '\n') with
    | nil => exact .inl rfl
    | cons c rest =>
      have stops := List.head?_dropWhile_not (fun c : Char => c != '\n') (text.drop offset)
      simp only [left, List.head?_cons] at stops
      exact .inr (by simpa using stops)

/-! ## Lines that every line break ends -/

/-- What follows in a text with line feeds only is one. -/
theorem FeedsOnly.of_append (before : List Char) {after : List Char}
    (feeds : FeedsOnly (before ++ after)) : FeedsOnly after := by
  intro front c rest same breaks
  have whole : before ++ after = (before ++ front) ++ c :: rest := by
    rw [same, List.append_assoc]
  exact feeds _ c rest whole breaks

/-- A text in which only line feeds are line breaks. -/
theorem FeedsOnly.of_forall {text : List Char}
    (feeds : ∀ c ∈ text, isLineBreak c = true → c = '\n') : FeedsOnly text := by
  intro before c after same breaks
  have inside : c ∈ text := by
    rw [same]
    simp
  exact .inl (feeds c inside breaks)

/-- A line feed ends a line. -/
theorem splitLines_feed (rest : List Char) : splitLines ('\n' :: rest) = [] :: splitLines rest :=
  rfl

/-- A carriage return before a line feed ends no line of its own. -/
theorem splitLines_return_feed (rest : List Char) :
    splitLines ('\r' :: '\n' :: rest) = splitLines ('\n' :: rest) :=
  (splitLines_feed rest).symm

/-- A character that breaks no line belongs to the first line. -/
theorem splitLines_plain {c : Char} (plain : isLineBreak c = false) (rest : List Char) :
    splitLines (c :: rest) = match splitLines rest with
      | [] => [[c]]
      | line :: lines => (c :: line) :: lines := by
  conv =>
    lhs
    unfold splitLines
  split
  · rename_i same
    cases same
  · rename_i same
    cases same
    cases plain
  · rename_i same
    cases same
    refine (if_neg (by simp [plain])).trans ?_
    cases splitLines rest <;> rfl

/-- A carriage return stays at the end of a line that starts with other characters. -/
theorem dropReturn_cons {c : Char} (other : c ≠ '\r') (line : List Char) :
    dropReturn (c :: line) = c :: dropReturn line := by
  cases line with
  | nil => simp [dropReturn, other]
  | cons next rest =>
    unfold dropReturn
    rw [List.getLast?_cons_cons]
    split <;> simp

/-- The line before a line break, or before the end of the text, behind a character that breaks no
line. -/
theorem getElem?_splitLines_plain {c : Char} {front rest : List Char} (plain : isLineBreak c = false)
    (ih : (splitLines (front ++ rest))[front.count '\n']? =
      if lastLine front = [] ∧ rest = [] then none else some (dropReturn (lastLine front))) :
    (splitLines (c :: front ++ rest))[(c :: front).count '\n']? =
      if lastLine (c :: front) = [] ∧ rest = [] then none
      else some (dropReturn (lastLine (c :: front))) := by
  have noFeed : c ≠ '\n' := by
    rintro rfl
    cases plain
  have noReturn : c ≠ '\r' := by
    rintro rfl
    cases plain
  have counted : (c :: front).count '\n' = front.count '\n' := List.count_cons_of_ne noFeed
  rw [List.cons_append, splitLines_plain plain, counted]
  by_cases feed : '\n' ∈ front
  · -- the line starts behind a line feed further on
    have positive : 0 < front.count '\n' := List.count_pos_iff.2 feed
    obtain ⟨before, enough⟩ : ∃ before, front.count '\n' = before + 1 :=
      ⟨front.count '\n' - 1, by omega⟩
    rw [show lastLine (c :: front) = lastLine front from lastLine_append_feed [c] feed, ← ih, enough]
    cases splitLines (front ++ rest) <;> rfl
  · -- the line starts with the character
    have whole : lastLine (c :: front) = c :: front := by
      apply lastLine_of_not_mem
      simp [feed, Ne.symm noFeed]
    have none : front.count '\n' = 0 := List.count_eq_zero.2 feed
    rw [none, lastLine_of_not_mem feed] at ih
    rw [none, whole, dropReturn_cons noReturn, if_neg (by simp)]
    cases lines : splitLines (front ++ rest) with
    | nil =>
      have empty : front = [] ∧ rest = [] := by
        by_contra other
        rw [lines, if_neg other] at ih
        cases ih
      simp [empty.1, dropReturn]
    | cons line later =>
      have other : ¬ (front = [] ∧ rest = []) := by
        intro empty
        rw [lines, if_pos empty] at ih
        cases ih
      rw [lines, if_neg other] at ih
      cases ih
      rfl

/-- A line that ends where the text ends or a line feed follows is found by the number of line feeds
before it, without the carriage return at its end, if nothing but line feeds ends lines before. An
empty line at the end of the text is not found. -/
theorem getElem?_splitLines {front rest : List Char} (feeds : FeedsOnly front)
    (ends : rest = [] ∨ rest.head? = some '\n') :
    (splitLines (front ++ rest))[front.count '\n']? =
      if lastLine front = [] ∧ rest = [] then none else some (dropReturn (lastLine front)) := by
  induction front with
  | nil =>
    cases rest with
    | nil => rfl
    | cons c rest =>
      have feed : c = '\n' := by simpa using ends
      subst feed
      simp [splitLines_feed, lastLine, dropReturn]
  | cons c front ih =>
    have later := ih (FeedsOnly.of_append [c] feeds)
    by_cases feed : c = '\n'
    · subst feed
      have counted : ('\n' :: front).count '\n' = front.count '\n' + 1 := List.count_cons_self
      rw [List.cons_append, splitLines_feed, lastLine_feed, counted, ← later]
      rfl
    by_cases back : c = '\r'
    · subst back
      have counted : ('\r' :: front).count '\n' = front.count '\n' := List.count_cons_of_ne feed
      rcases feeds [] '\r' front rfl rfl with same | ⟨_, rfl | follows⟩
      · cases same
      · rcases ends with rfl | follows
        · rfl
        · obtain ⟨others, rfl⟩ : ∃ others, rest = '\n' :: others := List.head?_eq_some_iff.1 follows
          rfl
      · obtain ⟨others, rfl⟩ : ∃ others, front = '\n' :: others := List.head?_eq_some_iff.1 follows
        have same : lastLine ('\r' :: '\n' :: others) = lastLine ('\n' :: others) :=
          lastLine_append_feed ['\r'] List.mem_cons_self
        rw [counted, same, ← later]
        exact congrArg (·[('\n' :: others).count '\n']?) (splitLines_return_feed (others ++ rest))
    · have plain : isLineBreak c = false := by
        by_contra breaks
        rcases feeds [] c front rfl (by simpa using breaks) with same | ⟨same, _⟩
        · exact feed same
        · exact back same
      exact getElem?_splitLines_plain plain later

/-- The line in which an offset of a text lies has the number of line feeds before the offset, if
nothing but line feeds ends lines up to its end. -/
theorem lineAt?_linesOf {text : String} {offset : Nat}
    (feeds : FeedsOnly (throughLine text.toList offset)) {line : String}
    (found : lineAt? (linesOf text) (1 + (text.toList.take offset).count '\n') = some line) :
    line.toList = lineAround text.toList offset := by
  obtain ⟨rest, split, ends⟩ := exists_throughLine text.toList offset
  have known := getElem?_splitLines feeds ends
  rw [← split, count_throughLine] at known
  have listed : ((splitLines text.toList)[(text.toList.take offset).count '\n']?).map
      String.ofList = some line := by
    rw [lineAt?, if_neg (by omega), Nat.add_sub_cancel_left, linesOf, List.getElem?_toArray,
      List.getElem?_map] at found
    exact found
  rw [known] at listed
  split at listed
  · cases listed
  · cases listed
    rw [String.toList_ofList, lineAround, lastLine_throughLine]

/-- No quoted line holds a line break. -/
theorem not_isLineBreak_of_lineAt? {text line : String} {number : Nat}
    (found : lineAt? (linesOf text) number = some line) {c : Char} (inside : c ∈ line.toList) :
    isLineBreak c = false := by
  unfold lineAt? at found
  split at found
  · cases found
  · rw [linesOf, List.getElem?_toArray, List.getElem?_map] at found
    obtain ⟨chars, listed, rfl⟩ := Option.map_eq_some_iff.1 found
    rw [String.toList_ofList] at inside
    exact not_isLineBreak_of_mem_splitLines (List.mem_of_getElem? listed) inside

end Lag.Text
