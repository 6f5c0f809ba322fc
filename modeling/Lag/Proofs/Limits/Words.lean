import Lag.Host.Limit

/-!
# Words and parentheses of a line

The host refuses a line of a module for a word that is no name, or for its parentheses. Here the two
are looked at one by one: a line is read character by character to see that its words are names, and
the parentheses that are open at once are counted. A line whose words are names is refused exactly
if too many of its parentheses are open at once.
-/
namespace Lag.Host

/-- Whether a name is one of the host: a character that may start a name, and characters that may
continue one. -/
def isIdentifier (name : String) : Bool :=
  match name.toList with
  | [] => false
  | first :: rest => Text.mayStartWord first && rest.all Text.mayContinueWord

/-- Whether a character starts a quoted text. -/
def isMark (c : Char) : Prop := c = Text.apostrophe ∨ c = Text.doubleQuote

instance (c : Char) : Decidable (isMark c) :=
  inferInstanceAs (Decidable (c = Text.apostrophe ∨ c = Text.doubleQuote))

/-- The greatest number of parentheses that are open at once in a text, when a number of them is
open before it. Quoted texts have none. -/
def parenthesesIn (opened : Nat) : List Char → Nat
  | [] => opened
  | c :: rest =>
    if isMark c then parenthesesIn opened (rest.drop (quotedLength c rest))
    else if c = '(' then parenthesesIn (opened + 1) rest
    else if c = ')' then max opened (parenthesesIn (opened - 1) rest)
    else parenthesesIn opened rest
  termination_by text => text.length
  decreasing_by all_goals (try simp only [List.length_drop, List.length_cons]); omega

/-- The greatest number of parentheses that are open at once in a line. A comment has none. -/
def Line.parentheses (line : Line) : Nat :=
  if line.text.startsWith "#" then 0 else parenthesesIn 0 line.text.toList

/-! ## Reading words -/

/-- Where the next character of a line stands. -/
inductive Standing where
  /-- Outside words and quoted texts. -/
  | outside
  /-- In a word. -/
  | word
  /-- In a quoted text that ends with a mark. -/
  | quoted (mark : Char)
  /-- After a backslash in a quoted text that ends with a mark. -/
  | escaped (mark : Char)
  deriving DecidableEq, Repr

namespace Standing

/-- A character outside words. -/
def leave (c : Char) : Option Standing :=
  if isMark c then some (.quoted c)
  else if isWordChar c && !c.isDigit then
    if Text.mayStartWord c then some .word else none
  else some .outside

/-- A character of a line, none if it keeps a word from being a name. -/
def step : Standing → Char → Option Standing
  | .outside, c => leave c
  | .word, c =>
    if isWordChar c then if Text.mayContinueWord c then some .word else none else leave c
  | .quoted mark, c =>
    if c = '\\' then some (.escaped mark)
    else if c = mark then some .outside
    else some (.quoted mark)
  | .escaped mark, _ => some (.quoted mark)

/-- The characters of a line, none if a word in it is no name. -/
def steps : Standing → List Char → Option Standing
  | standing, [] => some standing
  | standing, c :: rest => (standing.step c).bind fun next => next.steps rest

/-- The characters of a text come after those before it. -/
theorem steps_append (standing : Standing) (first second : List Char) :
    standing.steps (first ++ second) =
      (standing.steps first).bind fun next => next.steps second := by
  induction first generalizing standing with
  | nil => rfl
  | cons c first ih =>
    rw [List.cons_append, steps, steps]
    cases standing.step c with
    | none => rfl
    | some next => exact ih next

/-- Characters up to a standing may be followed by others. -/
theorem steps_eq_append {standing next : Standing} {first : List Char}
    (goes : standing.steps first = some next) (second : List Char) :
    standing.steps (first ++ second) = next.steps second := by
  rw [steps_append, goes]
  rfl

end Standing

open Standing

/-- After a quoted text the words go on outside it. -/
theorem steps_quoted (mark : Char) : ∀ text : List Char,
    (steps (.quoted mark) text).isSome = true →
      (steps .outside (text.drop (quotedLength mark text))).isSome = true
  | [], _ => rfl
  | '\\' :: [], _ => by
    simp only [quotedLength]
    split <;> rfl
  | '\\' :: c :: rest, goes => by
    rw [quotedLength, Nat.add_comm 2]
    exact steps_quoted mark rest goes
  | c :: rest, goes => by
    by_cases backslash : c = '\\'
    · subst backslash
      cases rest with
      | nil =>
        simp only [quotedLength]
        split <;> rfl
      | cons second rest =>
        rw [quotedLength, Nat.add_comm 2]
        exact steps_quoted mark rest goes
    · have length : quotedLength mark (c :: rest) =
          if c = mark then 1 else 1 + quotedLength mark rest := by
        rw [quotedLength]
        rintro _ _ rfl
        exact absurd rfl backslash
      rw [length]
      by_cases ends : c = mark
      · rw [if_pos ends]
        rw [steps, step, if_neg backslash, if_pos ends] at goes
        exact goes
      · rw [if_neg ends, Nat.add_comm]
        rw [steps, step, if_neg backslash, if_neg ends] at goes
        exact steps_quoted mark rest goes

/-- A word that goes on has characters that may continue a name, and the words go on after it. -/
theorem steps_word {text : List Char} (goes : (steps .word text).isSome = true) :
    (text.takeWhile isWordChar).all Text.mayContinueWord = true ∧
      (steps .outside (text.dropWhile isWordChar)).isSome = true := by
  induction text with
  | nil => exact ⟨rfl, rfl⟩
  | cons c rest ih =>
    rw [steps, step] at goes
    by_cases letter : isWordChar c = true
    · rw [if_pos letter] at goes
      by_cases continues : Text.mayContinueWord c = true
      · rw [if_pos continues] at goes
        obtain ⟨others, later⟩ := ih goes
        rw [List.takeWhile_cons_of_pos letter, List.dropWhile_cons_of_pos letter]
        exact ⟨by rw [List.all_cons, continues, others]; rfl, later⟩
      · rw [if_neg continues] at goes
        cases goes
    · rw [if_neg letter] at goes
      rw [List.takeWhile_cons_of_neg letter, List.dropWhile_cons_of_neg letter]
      exact ⟨rfl, goes⟩

/-- A word of characters that a name may have is one. -/
theorem firstUnfit?_eq_none {first : Char} {rest : List Char}
    (starts : Text.mayStartWord first = true) (continues : rest.all Text.mayContinueWord = true) :
    Text.firstUnfit? (first :: rest) = none := by
  have found : rest.findIdx? (!Text.mayContinueWord ·) = none := by
    rw [List.findIdx?_eq_none_iff]
    intro c inside
    rw [List.all_eq_true.1 continues c inside]
    rfl
  rw [Text.firstUnfit?, starts, found]
  rfl

/-! ## Parentheses -/

/-- No mark and no parenthesis belongs to a word. -/
theorem plain_of_isWordChar {c : Char} (letter : isWordChar c = true) :
    ¬isMark c ∧ c ≠ '(' ∧ c ≠ ')' := by
  refine ⟨?_, ?_, ?_⟩
  · rintro (rfl | rfl) <;> exact absurd letter (by decide)
  · rintro rfl
    exact absurd letter (by decide)
  · rintro rfl
    exact absurd letter (by decide)

/-- A character of a word is no parenthesis. -/
theorem parenthesesIn_cons {c : Char} (plain : ¬isMark c ∧ c ≠ '(' ∧ c ≠ ')') (opened : Nat)
    (rest : List Char) : parenthesesIn opened (c :: rest) = parenthesesIn opened rest := by
  rw [parenthesesIn, if_neg plain.1, if_neg plain.2.1, if_neg plain.2.2]

/-- A word has no parentheses. -/
theorem parenthesesIn_dropWhile (opened : Nat) (text : List Char) :
    parenthesesIn opened (text.dropWhile isWordChar) = parenthesesIn opened text := by
  induction text with
  | nil => rfl
  | cons c rest ih =>
    by_cases letter : isWordChar c = true
    · rw [List.dropWhile_cons_of_pos letter, ih,
        parenthesesIn_cons (plain_of_isWordChar letter)]
    · rw [List.dropWhile_cons_of_neg letter]

/-- No fewer parentheses are open at once than at the start. -/
theorem le_parenthesesIn (opened : Nat) (text : List Char) : opened ≤ parenthesesIn opened text := by
  fun_induction parenthesesIn opened text with
  | case1 opened => exact Nat.le_refl _
  | case2 opened c rest mark ih => exact ih
  | case3 opened rest _ ih => omega
  | case4 opened rest _ _ ih => omega
  | case5 opened c rest _ _ _ ih => exact ih

/-- A character outside words and quoted texts is followed by others outside them, unless it starts
a word that is a name. -/
theorem steps_outside {c : Char} {rest : List Char} (plain : ¬isMark c)
    (goes : (steps .outside (c :: rest)).isSome = true) :
    if isWordChar c && !c.isDigit then
      Text.firstUnfit? (c :: rest.takeWhile isWordChar) = none ∧
        (steps .outside (rest.dropWhile isWordChar)).isSome = true
    else (steps .outside rest).isSome = true := by
  rw [steps, step, leave, if_neg plain] at goes
  split
  · rename_i letter
    rw [if_pos letter] at goes
    by_cases starts : Text.mayStartWord c = true
    · rw [if_pos starts] at goes
      obtain ⟨continues, later⟩ := steps_word goes
      exact ⟨firstUnfit?_eq_none starts continues, later⟩
    · rw [if_neg starts] at goes
      cases goes
  · rename_i letter
    rw [if_neg letter] at goes
    exact goes

/-- A text whose words are names is refused exactly if too many parentheses are open at once. -/
theorem scanText_eq_none_iff {opened position : Nat} {text : List Char}
    (few : opened ≤ parenthesesLimit) (goes : (steps .outside text).isSome = true) :
    scanText opened position text = none ↔ parenthesesIn opened text ≤ parenthesesLimit := by
  fun_induction scanText opened position text with
  | case1 opened position => simp [parenthesesIn, few]
  | case2 opened position c rest mark length ih =>
    have quotes : isMark c := mark
    rw [steps, step, leave, if_pos quotes] at goes
    rw [parenthesesIn, if_pos quotes]
    exact ih few (steps_quoted c rest goes)
  | case3 opened position rest full plain =>
    have notMark : ¬isMark '(' := plain
    have more := le_parenthesesIn (opened + 1) rest
    rw [parenthesesIn, if_neg notMark, if_pos rfl]
    simp only [reduceCtorEq, false_iff]
    omega
  | case4 opened position rest room plain ih =>
    have notMark : ¬isMark '(' := plain
    rw [parenthesesIn, if_neg notMark, if_pos rfl]
    exact ih (by omega) (steps_outside plain goes)
  | case5 opened position rest plain _ ih =>
    have notMark : ¬isMark ')' := plain
    rw [parenthesesIn, if_neg notMark, if_neg (by decide), if_pos rfl]
    rw [ih (by omega) (steps_outside plain goes)]
    omega
  | case6 opened position c rest plain _ _ letter word before unfit found =>
    have fit := steps_outside plain goes
    rw [if_pos letter] at fit
    rw [fit.1] at found
    cases found
  | case7 opened position c rest plain notOpen notClosed letter word found ih =>
    have fit := steps_outside plain goes
    rw [if_pos letter] at fit
    have dropped : rest.drop (word.length - 1) = rest.dropWhile isWordChar := by
      show rest.drop (rest.takeWhile isWordChar).length = _
      calc rest.drop (rest.takeWhile isWordChar).length
        _ = (rest.takeWhile isWordChar ++ rest.dropWhile isWordChar).drop
              (rest.takeWhile isWordChar).length := by rw [List.takeWhile_append_dropWhile]
        _ = rest.dropWhile isWordChar := List.drop_left
    rw [dropped] at ih ⊢
    rw [ih few fit.2, parenthesesIn_dropWhile, parenthesesIn_cons ⟨plain, notOpen, notClosed⟩]
  | case8 opened position c rest plain notOpen notClosed other ih =>
    have fit := steps_outside plain goes
    rw [if_neg other] at fit
    rw [parenthesesIn_cons ⟨plain, notOpen, notClosed⟩]
    exact ih few fit

end Lag.Host
