import Lag.Proofs.Reading.Lexed
import Mathlib.Data.List.Forall2

/-!
# Phrases of lexemes

Lexemes are read as a phrase of a level when the production of that level takes exactly them, as
long as nothing follows that it could go on with. Operators group to the left, so a phrase that an
operator of its own level follows is taken as the left operand of that operator; only a comparison
is not, because comparisons next to each other form a chain.
-/
namespace Lag.Host

/-- What may follow a phrase of a level: nothing, what ends an expression, or an operator of a
lower level. -/
def Stops (level : Level) (rest : List Lexeme) : Prop :=
  ∀ lexeme ∈ rest.head?, lexeme = .sign ")" ∨ lexeme = .sign "," ∨
    ∃ op : Operator, op.level < level ∧ lexeme = op.lexeme

/-- Nothing may follow a phrase. -/
theorem stops_nil (level : Level) : Stops level [] := fun _ inside => nomatch inside

/-- A closing parenthesis may follow a phrase. -/
theorem stops_close (level : Level) (rest : List Lexeme) : Stops level (.sign ")" :: rest) := by
  intro lexeme inside
  obtain rfl : .sign ")" = lexeme := by simpa using inside
  exact .inl rfl

/-- A comma may follow a phrase. -/
theorem stops_comma (level : Level) (rest : List Lexeme) : Stops level (.sign "," :: rest) := by
  intro lexeme inside
  obtain rfl : .sign "," = lexeme := by simpa using inside
  exact .inr (.inl rfl)

/-- An operator of a lower level may follow a phrase. -/
theorem stops_operator {level : Level} {op : Operator} (lower : op.level < level)
    (rest : List Lexeme) : Stops level (op.lexeme :: rest) := by
  intro lexeme inside
  obtain rfl : op.lexeme = lexeme := by simpa using inside
  exact .inr (.inr ⟨op, lower, rfl⟩)

/-- What may follow a phrase may follow one of a higher level. -/
theorem Stops.mono {level higher : Level} {rest : List Lexeme} (stops : Stops level rest)
    (le : level ≤ higher) : Stops higher rest := by
  intro lexeme inside
  rcases stops lexeme inside with close | comma | ⟨op, lower, is⟩
  · exact .inl close
  · exact .inr (.inl comma)
  · exact .inr (.inr ⟨op, Nat.lt_of_lt_of_le lower le, is⟩)

/-- The operators of a level do not follow its phrases. -/
theorem Stops.no_operator {level : Level} {rest : List Lexeme} (stops : Stops level rest) :
    ∀ lexeme ∈ rest.head?, operator? level lexeme = none := by
  intro lexeme inside
  rcases stops lexeme inside with rfl | rfl | ⟨op, lower, rfl⟩
  · rfl
  · rfl
  · have different : op.level ≠ level := Nat.ne_of_lt lower
    rw [operator?_lexeme, if_neg different]

/-- A level without operators has none. -/
theorem operator?_eq_none {level : Level} (none : ∀ op : Operator, op.level ≠ level)
    (lexeme : Lexeme) : operator? level lexeme = Option.none := by
  unfold operator?
  refine Option.filter_eq_none_iff.2 fun op _ same => ?_
  exact none op (eq_of_beq same)

/-- Operands are joined up to what is no operator of the level. -/
theorem joined_stops {level : Level} (operand : Reader Phrase) (left : Phrase) {rest : List Lexeme}
    (ends : ∀ lexeme ∈ rest.head?, operator? level lexeme = none) :
    joined level operand left rest = some (left, rest) := by
  cases rest with
  | nil => rw [joined]
  | cons lexeme rest =>
    have none := ends lexeme rfl
    rw [joined, none]

/-- An operator joins its operands. -/
theorem joined_operator {level : Level} {operand : Reader Phrase} {op : Operator}
    (is : op.level = level) (left : Phrase) {text rest : List Lexeme} {right : Phrase}
    (reads : operand text = some (right, rest)) (shorter : rest.length ≤ text.length) :
    joined level operand left (op.lexeme :: text) =
      joined level operand (.binary op left right) rest := by
  rw [joined, operator?_lexeme, if_pos is]
  dsimp only
  rw [reads]
  dsimp only
  rw [if_pos shorter]

/-- Parts and calls end where a phrase ends. -/
theorem trailers_stops (expression : Reader Phrase) (holder : Phrase) {level : Level}
    {rest : List Lexeme} (stops : Stops level rest) :
    trailers expression holder rest = some (holder, rest) := by
  have noPart : ∀ others, rest ≠ .sign "." :: others := by
    rintro others rfl
    rcases stops _ rfl with impossible | impossible | ⟨op, _, impossible⟩
    · exact absurd impossible (by decide)
    · exact absurd impossible (by decide)
    · cases op <;> exact absurd impossible (by decide)
  have noCall : ∀ others, rest ≠ .sign "(" :: others := by
    rintro others rfl
    rcases stops _ rfl with impossible | impossible | ⟨op, _, impossible⟩
    · exact absurd impossible (by decide)
    · exact absurd impossible (by decide)
    · cases op <;> exact absurd impossible (by decide)
  unfold trailers
  split
  · exact absurd rfl (noPart _)
  · exact absurd rfl (noCall _)
  · rfl

/-! ## Levels -/

/-- The level that bounds what may follow a phrase: operators of its own level may, but for
comparisons. -/
def afterLevel (level : Level) : Level := if level = comparisonLevel then level else level + 1

/-- Lexemes that are read as a phrase of a level, and as the left operand of what follows. -/
def Reads (level : Level) (found : List Lexeme) (phrase : Phrase) : Prop :=
  ∀ depth, found.length ≤ depth → ∀ rest, Stops (afterLevel level) rest →
    atLeast (expression depth) level (found ++ rest) =
      joined level (atLeast (expression depth) (level + 1)) phrase rest

/-- A phrase is read alone where nothing goes on. -/
theorem Reads.alone {level : Level} {found : List Lexeme} {phrase : Phrase}
    (reads : Reads level found phrase) {depth : Nat} (deep : found.length ≤ depth)
    {rest : List Lexeme} (stops : Stops level rest) :
    atLeast (expression depth) level (found ++ rest) = some (phrase, rest) := by
  have after : level ≤ afterLevel level := by
    unfold afterLevel
    split
    · exact Nat.le_refl _
    · exact Nat.le_succ _
  rw [reads depth deep rest (stops.mono after), joined_stops _ _ stops.no_operator]

/-- Lexemes that are read as a phrase of a level without operators. -/
theorem reads_of_alone {level : Level} (none : ∀ op : Operator, op.level ≠ level)
    {found : List Lexeme} {phrase : Phrase}
    (alone : ∀ depth, found.length ≤ depth → ∀ rest, Stops (level + 1) rest →
      atLeast (expression depth) level (found ++ rest) = some (phrase, rest)) :
    Reads level found phrase := by
  intro depth deep rest stops
  have plain : level ≠ comparisonLevel := none .less ∘ Eq.symm
  rw [afterLevel, if_neg plain] at stops
  rw [alone depth deep rest stops, joined_stops _ _ fun lexeme _ => operator?_eq_none none lexeme]

/-- No operator has the level of negations of truth. -/
theorem level_ne_not (op : Operator) : op.level ≠ notLevel := by
  cases op <;> decide

/-- No operator has the level of changes of sign. -/
theorem level_ne_negate (op : Operator) : op.level ≠ negateLevel := by
  cases op <;> decide

/-- No operator has the level of names, literals and calls. -/
theorem level_ne_atom (op : Operator) : op.level ≠ atomLevel := by
  cases op <;> decide

/-- No atom starts with a negation of truth, and so no comparison does. -/
theorem atLeast_comparison_not (expression : Reader Phrase) (rest : List Lexeme) :
    atLeast expression comparisonLevel (.word "not" :: rest) = none := by
  have atoms : atom expression (.word "not" :: rest) = none := by
    simp [atom, keywords]
  show comparison (chain 5 (chain 6 (factor (primary expression)))) (.word "not" :: rest) = none
  simp [comparison, chain, factor, primary, atoms]

/-- No atom starts with a change of sign. -/
theorem atLeast_atom_negate (expression : Reader Phrase) (rest : List Lexeme) :
    atLeast expression atomLevel (.sign "-" :: rest) = none := by
  show primary expression (.sign "-" :: rest) = none
  simp [primary, atom]

/-- A text without a negation of truth in front is that of a comparison. -/
theorem inversion_eq {operand : Reader Phrase} {text : List Lexeme} {result : Phrase × List Lexeme}
    (refuses : ∀ rest, operand (.word "not" :: rest) = none)
    (reads : operand text = some result) : inversion operand text = some result := by
  unfold inversion
  split
  · rw [refuses] at reads
    cases reads
  · exact reads

/-- A text without a change of sign in front is that of a primary. -/
theorem factor_eq {operand : Reader Phrase} {text : List Lexeme} {result : Phrase × List Lexeme}
    (refuses : ∀ rest, operand (.sign "-" :: rest) = none)
    (reads : operand text = some result) : factor operand text = some result := by
  unfold factor
  split
  · rw [refuses] at reads
    cases reads
  · exact reads

/-- A first operand starts a chain. -/
theorem chain_eq {level : Level} {operand : Reader Phrase} {text rest : List Lexeme}
    {first : Phrase} (reads : operand text = some (first, rest)) :
    chain level operand text = joined level operand first rest := by
  unfold chain
  rw [reads]

/-- A comparison without operators is its operand. -/
theorem comparison_eq {operand : Reader Phrase} {text rest : List Lexeme} {first : Phrase}
    (reads : operand text = some (first, rest))
    (ends : ∀ lexeme ∈ rest.head?, operator? comparisonLevel lexeme = none) :
    comparison operand text = some (first, rest) := by
  have alone : comparisons operand rest = some ([], rest) := by
    cases rest with
    | nil => rw [comparisons]
    | cons lexeme rest =>
      have none := ends lexeme rfl
      rw [comparisons, none]
  unfold comparison
  rw [reads]
  dsimp only
  rw [alone]

/-- A phrase of a level is also one of the level below. -/
theorem Reads.step {level : Nat} {found : List Lexeme} {phrase : Phrase}
    (reads : Reads (level + 1) found phrase) (positive : 0 < level) (below : level < atomLevel) :
    Reads level found phrase := by
  intro depth deep rest stops
  have after : afterLevel level ≤ level + 1 := by
    unfold afterLevel
    split
    · exact Nat.le_succ _
    · exact Nat.le_refl _
  have operand := reads.alone deep (stops.mono after)
  have levels : level = 1 ∨ level = 2 ∨ level = notLevel ∨ level = comparisonLevel ∨ level = 5 ∨
      level = 6 ∨ level = negateLevel := by
    unfold notLevel comparisonLevel negateLevel
    unfold atomLevel at below
    omega
  rcases levels with rfl | rfl | rfl | rfl | rfl | rfl | rfl
  · exact chain_eq operand
  · exact chain_eq operand
  · rw [joined_stops _ _ fun lexeme _ => operator?_eq_none level_ne_not lexeme]
    exact inversion_eq (atLeast_comparison_not (expression depth)) operand
  · have ends : Stops comparisonLevel rest := stops
    rw [joined_stops _ _ ends.no_operator]
    exact comparison_eq operand ends.no_operator
  · exact chain_eq operand
  · exact chain_eq operand
  · rw [joined_stops _ _ fun lexeme _ => operator?_eq_none level_ne_negate lexeme]
    exact factor_eq (atLeast_atom_negate (expression depth)) operand

/-- A phrase of a level is also one of every lower level. -/
theorem Reads.lower {level lower : Nat} {found : List Lexeme} {phrase : Phrase}
    (reads : Reads level found phrase) (below : level ≤ atomLevel) (positive : 0 < lower)
    (le : lower ≤ level) : Reads lower found phrase := by
  induction level with
  | zero =>
    obtain rfl : lower = 0 := by omega
    exact reads
  | succ level ih =>
    by_cases same : lower = level + 1
    · exact same ▸ reads
    · have less : level < atomLevel := below
      have step := reads.step (by omega) less
      exact ih step (Nat.le_of_lt less) (by omega)

/-! ## Operators -/

/-- An operator that is no comparison is read between its operands. -/
theorem reads_binary {op : Operator} (plain : op.level ≠ comparisonLevel)
    {leftFound rightFound : List Lexeme} {left right : Phrase}
    (leftReads : Reads op.level leftFound left)
    (rightReads : Reads (op.level + 1) rightFound right) :
    Reads op.level (leftFound ++ op.lexeme :: rightFound) (.binary op left right) := by
  intro depth deep rest stops
  rw [List.length_append, List.length_cons] at deep
  have follows : Stops (afterLevel op.level) (op.lexeme :: (rightFound ++ rest)) := by
    rw [afterLevel, if_neg plain]
    exact stops_operator (Nat.lt_succ_self _) _
  rw [afterLevel, if_neg plain] at stops
  have operand := rightReads.alone (by omega : rightFound.length ≤ depth) stops
  have shorter : rest.length ≤ (rightFound ++ rest).length := by
    rw [List.length_append]
    omega
  rw [List.append_assoc, List.cons_append, leftReads depth (by omega) _ follows,
    joined_operator rfl left operand shorter]

/-- A comparison is read between its operands. -/
theorem reads_compare {op : Operator} (compares : op.level = comparisonLevel)
    {leftFound rightFound : List Lexeme} {left right : Phrase}
    (leftReads : Reads (comparisonLevel + 1) leftFound left)
    (rightReads : Reads (comparisonLevel + 1) rightFound right) :
    Reads comparisonLevel (leftFound ++ op.lexeme :: rightFound)
      (.compare left [(op, right)]) := by
  intro depth deep rest stops
  rw [List.length_append, List.length_cons] at deep
  have ends : Stops comparisonLevel rest := stops
  have higher : Stops (comparisonLevel + 1) rest := ends.mono (Nat.le_succ _)
  have follows : Stops (comparisonLevel + 1) (op.lexeme :: (rightFound ++ rest)) :=
    stops_operator (compares ▸ Nat.lt_succ_self _) _
  have first := leftReads.alone (by omega : leftFound.length ≤ depth) follows
  have second := rightReads.alone (by omega : rightFound.length ≤ depth) higher
  have shorter : rest.length ≤ (rightFound ++ rest).length := by
    rw [List.length_append]
    omega
  have last : comparisons (atLeast (expression depth) (comparisonLevel + 1)) rest =
      some ([], rest) := by
    cases rest with
    | nil => rw [comparisons]
    | cons lexeme rest =>
      have none := ends.no_operator lexeme rfl
      rw [comparisons, none]
  have others : comparisons (atLeast (expression depth) (comparisonLevel + 1))
      (op.lexeme :: (rightFound ++ rest)) = some ([(op, right)], rest) := by
    rw [comparisons, operator?_lexeme, if_pos compares]
    dsimp only
    rw [second]
    dsimp only
    rw [if_pos shorter, last]
    rfl
  rw [joined_stops _ _ ends.no_operator, List.append_assoc, List.cons_append]
  show comparison (atLeast (expression depth) (comparisonLevel + 1)) _ = _
  unfold comparison
  rw [first]
  dsimp only
  rw [others]

/-- A negation of truth is read in front of its operand. -/
theorem reads_not {found : List Lexeme} {phrase : Phrase} (reads : Reads notLevel found phrase) :
    Reads notLevel (.word "not" :: found) (.not phrase) := by
  refine reads_of_alone level_ne_not fun depth deep rest stops => ?_
  rw [List.length_cons] at deep
  have operand := reads depth (by omega) rest stops
  rw [joined_stops _ _ fun lexeme _ => operator?_eq_none level_ne_not lexeme] at operand
  show inversion (atLeast (expression depth) comparisonLevel) (.word "not" :: (found ++ rest)) = _
  have inner : inversion (atLeast (expression depth) comparisonLevel) (found ++ rest) =
      some (phrase, rest) := operand
  rw [inversion, inner]
  rfl

/-- A change of sign is read in front of its operand. -/
theorem reads_negate {found : List Lexeme} {phrase : Phrase}
    (reads : Reads negateLevel found phrase) :
    Reads negateLevel (.sign "-" :: found) (.negate phrase) := by
  refine reads_of_alone level_ne_negate fun depth deep rest stops => ?_
  rw [List.length_cons] at deep
  have operand := reads depth (by omega) rest stops
  rw [joined_stops _ _ fun lexeme _ => operator?_eq_none level_ne_negate lexeme] at operand
  show factor (primary (expression depth)) (.sign "-" :: (found ++ rest)) = _
  have inner : factor (primary (expression depth)) (found ++ rest) = some (phrase, rest) := operand
  rw [factor, inner]
  rfl

/-! ## Atoms and calls -/

/-- Lexemes that are read as something that parts and calls may follow. -/
def Heads (found : List Lexeme) (phrase : Phrase) : Prop :=
  ∀ expression rest, primary expression (found ++ rest) = trailers expression phrase rest

/-- What parts and calls may follow is a phrase without them. -/
theorem Heads.reads {found : List Lexeme} {phrase : Phrase} (heads : Heads found phrase) :
    Reads atomLevel found phrase := by
  refine reads_of_alone level_ne_atom fun depth _ rest stops => ?_
  show primary (expression depth) (found ++ rest) = _
  rw [heads, trailers_stops _ _ stops]

/-- A numeral is a literal. -/
theorem heads_numeral (value : Literal) : Heads [.numeral value] (.literal value) :=
  fun _ _ => rfl

/-- A quoted text is a literal. -/
theorem heads_text (value : String) : Heads [.text value] (.literal (.string value)) :=
  fun _ _ => rfl

/-- The two truth values are literals. -/
theorem heads_truth (value : Bool) :
    Heads [.word (if value then "True" else "False")] (.literal (.bool value)) := by
  cases value <;> exact fun _ _ => rfl

/-- A word that is no keyword is a name. -/
theorem heads_name {name : String} (plain : keywords.contains name = false) :
    Heads [.word name] (.name name) := by
  intro expression rest
  have isAtom : atom expression (.word name :: rest) = some (.name name, rest) := by
    unfold atom
    split
    · rename_i impossible
      cases impossible
    · rename_i impossible
      cases impossible
    · rename_i same
      cases same
      exact absurd plain (by decide)
    · rename_i same
      cases same
      exact absurd plain (by decide)
    · rename_i same
      cases same
      rw [plain]
      rfl
    · rename_i impossible
      cases impossible
    · rename_i other _
      exact (other _ _ rfl).elim
  show primary expression (.word name :: rest) = _
  rw [primary, isAtom]

/-- A part of what a name stands for. -/
theorem heads_part {holder name : String} (holderPlain : keywords.contains holder = false)
    (plain : keywords.contains name = false) :
    Heads [.word holder, .sign ".", .word name] (.part (.name holder) name) := by
  intro expression rest
  have first := heads_name holderPlain expression (.sign "." :: .word name :: rest)
  show primary expression ([.word holder] ++ .sign "." :: .word name :: rest) = _
  rw [first, trailers, plain]
  rfl

/-- An expression in parentheses binds as strongly as an atom. -/
theorem reads_parentheses {found : List Lexeme} {phrase : Phrase} (reads : Reads 1 found phrase) :
    Reads atomLevel (.sign "(" :: found ++ [.sign ")"]) phrase := by
  refine reads_of_alone level_ne_atom fun depth deep rest stops => ?_
  rw [List.cons_append, List.length_cons, List.length_append] at deep
  cases depth with
  | zero => omega
  | succ depth =>
    have inner := reads.alone (by omega : found.length ≤ depth) (stops_close 1 rest)
    have isAtom : atom (expression (depth + 1)) (.sign "(" :: (found ++ .sign ")" :: rest)) =
        some (phrase, rest) := by
      rw [← expression] at inner
      unfold atom
      split <;> rename_i same <;> try cases same
      · rw [inner]
        rfl
      · exact (same _ rfl).elim
    rw [List.cons_append, List.cons_append, List.append_assoc]
    show primary (expression (depth + 1)) (.sign "(" :: (found ++ .sign ")" :: rest)) = _
    rw [primary, isAtom]
    exact trailers_stops _ _ stops

/-- The lexemes of arguments, with commas between them. -/
def separated : List (List Lexeme) → List Lexeme
  | [] => []
  | first :: others => first ++ others.flatMap (.sign "," :: ·)

/-- Later arguments are read one after the other. -/
theorem laterArguments_eq {founds : List (List Lexeme)} {phrases : List Phrase}
    (all : List.Forall₂ (Reads 1) founds phrases) {depth : Nat}
    (deep : (founds.flatMap (.sign "," :: ·)).length ≤ depth) (rest : List Lexeme) :
    laterArguments (expression (depth + 1)) (founds.flatMap (.sign "," :: ·) ++ .sign ")" :: rest) =
      some (phrases, rest) := by
  induction all with
  | nil =>
    rw [List.flatMap_nil, List.nil_append, laterArguments]
  | @cons found phrase founds phrases reads _ ih =>
    rw [List.flatMap_cons, List.cons_append, List.length_cons, List.length_append] at deep
    have stops : Stops 1 (founds.flatMap (.sign "," :: ·) ++ .sign ")" :: rest) := by
      cases founds with
      | nil => exact stops_close 1 rest
      | cons next founds => exact stops_comma 1 _
    have first : expression (depth + 1)
        (found ++ (founds.flatMap (.sign "," :: ·) ++ .sign ")" :: rest)) =
          some (phrase, founds.flatMap (.sign "," :: ·) ++ .sign ")" :: rest) :=
      reads.alone (by omega) stops
    have shorter : (founds.flatMap (.sign "," :: ·) ++ .sign ")" :: rest).length ≤
        (found ++ (founds.flatMap (.sign "," :: ·) ++ .sign ")" :: rest)).length := by
      rw [@List.length_append _ found]
      omega
    rw [List.flatMap_cons, List.append_assoc, List.cons_append, laterArguments, first]
    dsimp only
    rw [if_pos shorter, ih (by omega)]
    rfl

/-- No expression starts with a closing parenthesis. -/
theorem expression_close (depth : Nat) (rest : List Lexeme) :
    expression depth (.sign ")" :: rest) = none := by
  cases depth with
  | zero => rfl
  | succ depth =>
    simp [expression, atLeast, chain, inversion, comparison, factor, primary, atom]

/-- The arguments of a call are read up to its closing parenthesis. -/
theorem argumentsOf_eq {founds : List (List Lexeme)} {phrases : List Phrase}
    (all : List.Forall₂ (Reads 1) founds phrases) {depth : Nat}
    (deep : (separated founds).length ≤ depth) (rest : List Lexeme) :
    argumentsOf (expression (depth + 1)) (separated founds ++ .sign ")" :: rest) =
      some (phrases, rest) := by
  cases all with
  | nil => rfl
  | @cons found phrase founds phrases reads others =>
    rw [separated, List.length_append] at deep
    have stops : Stops 1 (founds.flatMap (.sign "," :: ·) ++ .sign ")" :: rest) := by
      cases founds with
      | nil => exact stops_close 1 rest
      | cons next founds => exact stops_comma 1 _
    have first : expression (depth + 1)
        (found ++ (founds.flatMap (.sign "," :: ·) ++ .sign ")" :: rest)) =
          some (phrase, founds.flatMap (.sign "," :: ·) ++ .sign ")" :: rest) :=
      reads.alone (by omega) stops
    have later := laterArguments_eq others (by omega : _ ≤ depth) rest
    rw [separated, List.append_assoc]
    unfold argumentsOf
    split
    · rename_i same
      rw [same, expression_close] at first
      cases first
    · rw [first]
      dsimp only
      rw [later]
      rfl

/-- A call is read as one. -/
theorem reads_call {function : List Lexeme} {called : Phrase} (heads : Heads function called)
    {founds : List (List Lexeme)} {phrases : List Phrase}
    (all : List.Forall₂ (Reads 1) founds phrases) :
    Reads atomLevel (function ++ .sign "(" :: separated founds ++ [.sign ")"])
      (.call called phrases) := by
  refine reads_of_alone level_ne_atom fun depth deep rest stops => ?_
  rw [List.append_assoc, List.length_append, List.cons_append, List.length_cons,
    List.length_append] at deep
  cases depth with
  | zero => omega
  | succ depth =>
    have arguments := argumentsOf_eq all (by omega : (separated founds).length ≤ depth) rest
    have shorter : rest.length ≤ (separated founds ++ .sign ")" :: rest).length := by
      rw [List.length_append, List.length_cons]
      omega
    rw [List.append_assoc, List.append_assoc, List.cons_append]
    show primary (expression (depth + 1))
      (function ++ .sign "(" :: (separated founds ++ .sign ")" :: rest)) = _
    rw [heads, trailers, arguments]
    dsimp only
    rw [if_pos shorter]
    exact trailers_stops _ _ stops

end Lag.Host
