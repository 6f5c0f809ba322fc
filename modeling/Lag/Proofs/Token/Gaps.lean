import Lag.Proofs.Token.Placed

/-!
# Gaps between tokens

A gap is a blank character, and then blank characters, comments to the end of their line and
comments in brackets, which nest; the rules here say so without the scanner. Before a gap a token
is scanned as it was scanned before anything else: no reader looks past the gap, and none goes on
with its first character. So a source text may be taken apart into the lexemes of its tokens and
put together again with other gaps: its tokens stay the same, up to their places. The gap before the
first token and the one after the last may be empty or start with a comment; only a sign of division
at the end of a text would be taken for a part of the comment.
-/
namespace Lag

/-- A token without its place. -/
def Token.unplaced (token : Token) : Token := { token with span := {} }

namespace Scan

/-! ## Gaps -/

/-- What follows the opening bracket of a comment, up to and with its closing bracket. A character
of the comment belongs to no bracket. -/
inductive Comment : List Char → Prop
  | close : Comment ['*', '/']
  | nested {inner rest : List Char} : Comment inner → Comment rest →
    Comment ('/' :: '*' :: (inner ++ rest))
  | other {c : Char} {rest : List Char} : ¬['/', '*'] <+: c :: rest → ¬['*', '/'] <+: c :: rest →
    Comment rest → Comment (c :: rest)

/-- Blank characters and comments, in any order. -/
inductive Gap : List Char → Prop
  | none : Gap []
  | blank {c : Char} {rest : List Char} : isGap c = true → Gap rest → Gap (c :: rest)
  | line {text rest : List Char} : '\n' ∉ text → Gap rest →
    Gap ('/' :: '/' :: (text ++ '\n' :: rest))
  | comment {text rest : List Char} : Comment text → Gap rest →
    Gap ('/' :: '*' :: (text ++ rest))

/-- A gap that separates tokens: it starts with a blank character. -/
inductive Separator : List Char → Prop
  | mk {c : Char} {rest : List Char} : isGap c = true → Gap rest → Separator (c :: rest)

/-- The lexemes of tokens, with a gap before each of them. The lexeme of the end of the text is
empty, so that the gap before it is the one after the other tokens. -/
def weave : List (List Char) → List Token → List Char
  | gap :: gaps, token :: tokens => gap ++ (token.lexeme.toList ++ weave gaps tokens)
  | _, _ => []

/-- What separates tokens is a gap. -/
theorem Separator.gap {text : List Char} (separates : Separator text) : Gap text := by
  obtain ⟨blank, rest⟩ := separates
  exact .blank blank rest

/-- A comment is passed up to its closing bracket, whatever follows and however deep it lies. -/
theorem commentLength?_append {text : List Char} (comment : Comment text) :
    ∀ (depth : Nat) (more : List Char), commentLength? (depth + 1) (text ++ more) =
      (commentLength? depth more).map (· + text.length) := by
  induction comment with
  | close => exact fun depth more => rfl
  | @nested inner rest _ _ innerPasses restPasses =>
    intro depth more
    show (commentLength? (depth + 2) (inner ++ rest ++ more)).map (· + 2) = _
    rw [List.append_assoc, innerPasses, restPasses, Option.map_map, Option.map_map]
    congr 1
    funext length
    simp only [Function.comp_apply, List.length_cons, List.length_append]
    omega
  | @other c rest opens closes _ passes =>
    intro depth more
    have step : commentLength? (depth + 1) (c :: (rest ++ more)) =
        (commentLength? (depth + 1) (rest ++ more)).map (· + 1) := by
      refine commentLength?.eq_5 depth c (rest ++ more) ?_ ?_
      · intro left is starts
        subst is
        cases rest with
        | nil => nomatch ‹Comment []›
        | cons next rest => exact opens (by simp_all)
      · intro left is starts
        subst is
        cases rest with
        | nil => nomatch ‹Comment []›
        | cons next rest => exact closes (by simp_all)
    rw [List.cons_append, step, passes, Option.map_map]
    rfl

/-- A blank character is passed. -/
theorem gapLength_blank {c : Char} (blank : isGap c = true) {more : List Char} {length : Nat}
    (passes : gapLength more = .ok length) : gapLength (c :: more) = .ok (1 + length) := by
  have other : c ≠ '/' := by
    rintro rfl
    cases blank
  rw [gapLength.eq_4 c more (fun _ same _ => other same) (fun _ same _ => other same), if_pos blank,
    passes]

/-- A gap is passed, whatever follows it. -/
theorem gapLength_append {gap : List Char} (isGap : Gap gap) {more : List Char} {length : Nat}
    (passes : gapLength more = .ok length) :
    gapLength (gap ++ more) = .ok (gap.length + length) := by
  induction isGap with
  | none => rw [List.nil_append, List.length_nil, Nat.zero_add, passes]
  | @blank c rest blank _ ih =>
    rw [List.cons_append, gapLength_blank blank ih, List.length_cons, Nat.add_comm 1,
      Nat.add_right_comm]
  | @line text rest noFeed _ ih =>
    have comment : (text ++ '\n' :: (rest ++ more)).takeWhile (· != '\n') = text := by
      have inside : ∀ c ∈ text, (c != '\n') = true := by
        intro c inside
        have other : c ≠ '\n' := fun same => noFeed (same ▸ inside)
        simpa using other
      rw [List.takeWhile_append_of_pos inside, List.takeWhile_cons_of_neg (by decide),
        List.append_nil]
    have after := gapLength_blank (c := '\n') rfl ih
    rw [List.cons_append, List.cons_append, List.append_assoc, List.cons_append, gapLength.eq_2,
      comment, List.drop_left, after]
    simp only [List.length_cons, List.length_append, Except.ok.injEq]
    omega
  | @comment text rest comment _ ih =>
    have size : commentLength? 1 (text ++ (rest ++ more)) = some text.length := by
      rw [commentLength?_append comment 0]
      simp [commentLength?]
    rw [List.cons_append, List.cons_append, List.append_assoc, gapLength.eq_3, size]
    dsimp only
    rw [List.drop_left, ih]
    simp only [List.length_cons, List.length_append, Except.ok.injEq]
    omega

/-! ## Readers before a gap -/

/-- Whether a character may stand between the mark of an exponent and its digits. -/
def isSign (c : Char) : Bool := c == '+' || c == '-'

/-- Whether a gap may start with a character. -/
def startsGap (c : Char) : Bool := isGap c || c == '/'

/-- A text that ends what stands before it: there is nothing in it, or it starts as a gap may. -/
def Ends (text : List Char) : Prop := ∀ c ∈ text.head?, startsGap c = true

/-- A blank character ends what stands before it. -/
theorem ends_blank {blank : Char} (isBlank : isGap blank = true) (rest : List Char) :
    Ends (blank :: rest) := by
  rintro c ⟨⟩
  rw [startsGap, isBlank, Bool.true_or]

/-- A gap ends what stands before it. -/
theorem Gap.ends {gap : List Char} (isGap : Gap gap) : Ends gap := by
  cases isGap with
  | none => exact fun c inside => nomatch inside
  | blank blank _ => exact ends_blank blank _
  | line _ _ | comment _ _ =>
    rintro c ⟨⟩
    rfl

/-- No gap starts with a digit, a character of a name or a number, or a sign. -/
theorem plain_of_startsGap {c : Char} (starts : startsGap c = true) :
    Text.isDigit c = false ∧ isNameChar c = false ∧ c ≠ '.' ∧ c ≠ 'e' ∧ c ≠ 'E' ∧
      isSign c = false := by
  simp only [startsGap, isGap, Bool.or_eq_true, beq_iff_eq] at starts
  rcases starts with (((rfl | rfl) | rfl) | rfl) | rfl <;> decide

/-- A reader of characters at the front of a text that a gap ends: where it does not go on after
some characters, it does not go on with a gap or at the end of the text either. -/
def Stops (reader : List Char → List Char) : Prop :=
  ∀ front more rest : List Char, Ends rest →
    (reader (front ++ more)).length ≤ front.length →
      reader (front ++ rest) = reader (front ++ more)

/-- No character of a class without those that start gaps is in front of what ends a text. -/
theorem takeWhile_of_ends {inside : Char → Bool}
    (outside : ∀ c, startsGap c = true → inside c = false) {rest : List Char} (ends : Ends rest) :
    rest.takeWhile inside = [] := by
  match rest with
  | [] => rfl
  | c :: rest => exact List.takeWhile_cons_of_neg (by simp [outside c (ends c rfl)])

/-- A run of characters of a class without those that start gaps stops at a gap. -/
theorem stops_takeWhile {inside : Char → Bool}
    (outside : ∀ c, startsGap c = true → inside c = false) : Stops (List.takeWhile inside) := by
  intro front more rest ends short
  rw [List.takeWhile_append] at short ⊢
  rw [List.takeWhile_append]
  split at short
  · rename_i whole
    have ended : more.takeWhile inside = [] := by
      rw [List.length_append] at short
      exact List.eq_nil_of_length_eq_zero (by omega)
    rw [if_pos whole, if_pos whole, ended, takeWhile_of_ends outside ends]
  · rename_i part
    rw [if_neg part, if_neg part]

/-- Digits stop at a gap. -/
theorem stops_digits : Stops (List.takeWhile Text.isDigit) :=
  stops_takeWhile fun _ starts => (plain_of_startsGap starts).1

/-- A fraction starts with a point. -/
theorem fraction_of_ne {c : Char} (other : c ≠ '.') (rest : List Char) :
    fraction (c :: rest) = [] :=
  fraction.eq_2 _ fun _ _ same => other (List.cons.inj same).1

/-- A point without a digit after it is no fraction. -/
theorem fraction_point {c : Char} (noDigit : Text.isDigit c = false) (rest : List Char) :
    fraction ('.' :: c :: rest) = [] := by
  rw [fraction, if_neg (by simp [noDigit])]

/-- No fraction starts a gap, with or without a point before the gap. -/
theorem fraction_of_ends {rest : List Char} (ends : Ends rest) :
    fraction rest = [] ∧ fraction ('.' :: rest) = [] := by
  match rest with
  | [] => exact ⟨rfl, rfl⟩
  | c :: rest =>
    obtain ⟨noDigit, _, noPoint, _⟩ := plain_of_startsGap (ends c rfl)
    exact ⟨fraction_of_ne noPoint rest, fraction_point noDigit rest⟩

/-- A fraction stops at a gap. -/
theorem stops_fraction : Stops fraction := by
  intro front more rest ends short
  match front with
  | [] =>
    rw [List.nil_append, (fraction_of_ends ends).1]
    exact (List.eq_nil_of_length_eq_zero (Nat.le_zero.1 short)).symm
  | c :: front =>
    by_cases point : c = '.'
    · subst point
      match front with
      | [] =>
        rw [List.singleton_append, (fraction_of_ends ends).2]
        rw [List.singleton_append] at short ⊢
        match more with
        | [] => rfl
        | next :: more =>
          by_cases digit : Text.isDigit next = true
          · rw [fraction, if_pos digit, List.takeWhile_cons_of_pos digit] at short
            simp at short
          · rw [fraction_point (by simpa using digit)]
      | next :: front =>
        simp only [List.cons_append, fraction] at short ⊢
        split at short
        · rename_i digit
          have goesOn := stops_digits (next :: front) more rest ends (by simpa using short)
          rw [if_pos digit, if_pos digit]
          exact congrArg ('.' :: ·) goesOn
        · rename_i other
          rw [if_neg other, if_neg other]
    · rw [List.cons_append, List.cons_append, fraction_of_ne point, fraction_of_ne point]

/-- The mark of an exponent is a letter, maybe with a sign after it. -/
theorem exponentHead_cons (c : Char) (rest : List Char) : exponentHead (c :: rest) =
    if c = 'e' ∨ c = 'E' then c :: rest.head?.toList.filter isSign else [] := by
  by_cases mark : c = 'e' ∨ c = 'E'
  · rw [if_pos mark]
    match rest with
    | [] => rcases mark with rfl | rfl <;> rfl
    | next :: rest =>
      by_cases plus : next = '+'
      · subst plus
        rcases mark with rfl | rfl <;> rfl
      · by_cases minus : next = '-'
        · subst minus
          rcases mark with rfl | rfl <;> rfl
        · have unsigned : isSign next = false := by simp [isSign, plus, minus]
          rcases mark with rfl | rfl <;> simp [exponentHead, unsigned, plus, minus]
  · rw [if_neg mark]
    simp [exponentHead, not_or.1 mark]

/-- No exponent and no sign of one starts a gap. -/
theorem exponent_of_ends {rest : List Char} (ends : Ends rest) :
    exponentHead rest = [] ∧ rest.head?.toList.filter isSign = [] := by
  match rest with
  | [] => exact ⟨rfl, rfl⟩
  | c :: rest =>
    obtain ⟨_, _, _, noMark, noCapital, noSign⟩ := plain_of_startsGap (ends c rfl)
    rw [exponentHead_cons, if_neg (by simp [noMark, noCapital])]
    simp [noSign]

/-- The mark of an exponent stops at a gap. -/
theorem stops_exponentHead : Stops exponentHead := by
  intro front more rest ends short
  match front with
  | [] =>
    rw [List.nil_append, (exponent_of_ends ends).1]
    exact (List.eq_nil_of_length_eq_zero (Nat.le_zero.1 short)).symm
  | c :: front =>
    rw [List.cons_append, List.cons_append, exponentHead_cons, exponentHead_cons]
    match front with
    | [] =>
      rw [List.singleton_append, exponentHead_cons] at short
      rw [List.nil_append, List.nil_append]
      split
      · rename_i mark
        rw [if_pos mark, List.length_cons] at short
        have unsigned : more.head?.toList.filter isSign = [] :=
          List.eq_nil_of_length_eq_zero (by simpa using short)
        rw [unsigned, (exponent_of_ends ends).2]
      · rfl
    | next :: front => rfl

/-- A reader that stops at a gap does so after characters that were passed before. -/
theorem Stops.after {reader : List Char → List Char} (stops : Stops reader)
    {front more rest : List Char} (ends : Ends rest) {size : Nat}
    (within : size + (reader ((front ++ more).drop size)).length ≤ front.length) :
    reader ((front ++ rest).drop size) = reader ((front ++ more).drop size) := by
  have passed : size ≤ front.length := by omega
  rw [List.drop_append_of_le_length passed] at within ⊢
  rw [List.drop_append_of_le_length passed]
  exact stops _ _ _ ends (by rw [List.length_drop]; omega)

/-- A number stops at a gap. -/
theorem parts_append {front more rest : List Char} (whole : (parts (front ++ more)).lexeme = front)
    (ends : Ends rest) : parts (front ++ rest) = parts (front ++ more) := by
  have size : (parts (front ++ more)).whole.length + (parts (front ++ more)).part.length +
      (parts (front ++ more)).mark.length + (parts (front ++ more)).power.length =
        front.length := by
    simpa only [Parts.lexeme, List.length_append] using congrArg List.length whole
  generalize read : parts (front ++ more) = found at size ⊢
  have digits : (front ++ rest).takeWhile Text.isDigit = found.whole := by
    subst read
    exact stops_digits _ _ _ ends (show (parts _).whole.length ≤ _ by omega)
  have part : fraction ((front ++ rest).drop found.whole.length) = found.part := by
    subst read
    exact stops_fraction.after ends (show _ + (parts _).part.length ≤ _ by omega)
  have mark : exponentHead ((front ++ rest).drop (found.whole ++ found.part).length) =
      found.mark := by
    subst read
    exact stops_exponentHead.after ends
      (show _ + (parts _).mark.length ≤ _ by rw [List.length_append]; omega)
  have power : ((front ++ rest).drop
      ((found.whole ++ found.part).length + found.mark.length)).takeWhile Text.isDigit =
        found.power := by
    subst read
    exact stops_digits.after ends
      (show _ + (parts _).power.length ≤ _ by rw [List.length_append]; omega)
  unfold parts
  dsimp only
  rw [digits, part, mark, power]

/-- A number that is followed by nothing that could go on with it is converted. -/
theorem number_of_parts {text : List Char}
    (complete : (parts text).mark = [] ∨ (parts text).power ≠ [])
    (ends : (text.drop (parts text).lexeme.length).takeWhile isNameChar = []) :
    number text = numberPiece (parts text).isFloat (parts text).lexeme := by
  have finished : ¬(!(parts text).mark.isEmpty && (parts text).power.isEmpty) = true := by
    rcases complete with noMark | hasPower
    · simp [noMark]
    · simp [hasPower]
  have noTrail : ¬((text.drop (parts text).lexeme.length).takeWhile isNameChar).head?.any
      isNameStart = true := by
    rw [ends]
    exact Bool.false_ne_true
  show (if (!(parts text).mark.isEmpty && (parts text).power.isEmpty) = true then _
    else if _ then _ else numberPiece _ _) = _
  rw [if_neg finished]
  exact if_neg noTrail

/-! ## Tokens before a gap -/

/-- A number before a gap is scanned again. -/
theorem number_again {front more rest : List Char} {found : Piece}
    (scanned : number (front ++ more) = .ok found) (lexeme : found.lexeme = front)
    (ends : Ends rest) : number (front ++ rest) = .ok found := by
  rcases number_cases (front ++ more) with ⟨complete, same⟩ | ⟨fault, failed, _⟩
  · rw [same] at scanned
    have whole := (lexeme_numberPiece scanned).1.symm.trans lexeme
    have again := parts_append whole ends
    rw [number_of_parts, again, scanned]
    · rwa [again]
    · rw [again, whole, List.drop_left]
      exact takeWhile_of_ends (fun _ starts => (plain_of_startsGap starts).2.1) ends
  · rw [failed] at scanned
    cases scanned

/-- A text in quotes ends with its closing quote, whatever follows. -/
theorem stringBody_append {text consumed values : List Char}
    (scanned : stringBody text = .ok (consumed, values)) (rest : List Char) :
    stringBody (consumed ++ rest) = .ok (consumed, values) := by
  fun_induction stringBody text generalizing consumed values with
  | case1 | case3 | case4 | case5 | case7 | case9 => cases scanned
  | case2 => 
    cases scanned
    rfl
  | case6 c left value is inner innerValues inside ih =>
    cases scanned
    simp only [List.cons_append, stringBody, is, ih inside]
  | case8 c left noQuote noFeed noEnd noEscape inner innerValues inside ih =>
    cases scanned
    rw [List.cons_append, stringBody.eq_6 c _ noQuote noFeed, ih inside]
    · intro same _
      cases left with
      | nil => exact noEnd same rfl
      | cons next left => exact noEscape next left same rfl
    · intro _ _ same _
      cases left with
      | nil => exact noEnd same rfl
      | cons next left => exact noEscape next left same rfl

/-- A text in quotes is scanned again, whatever follows. -/
theorem string_again {front more : List Char} {found : Piece}
    (scanned : string (front ++ more) = .ok found) (lexeme : found.lexeme = '\x22' :: front)
    (rest : List Char) : string (front ++ rest) = .ok found := by
  unfold string at scanned
  split at scanned
  · rename_i consumed values inner
    cases scanned
    obtain rfl : consumed = front := (List.cons.inj lexeme).2
    unfold string
    rw [stringBody_append inner]
  · cases scanned

/-- A word before a gap is scanned again. -/
theorem word_again {front more rest : List Char}
    (lexeme : (word (front ++ more)).lexeme = front) (ends : Ends rest) :
    word (front ++ rest) = word (front ++ more) := by
  have stops : Stops (List.takeWhile isNameChar) :=
    stops_takeWhile fun _ starts => (plain_of_startsGap starts).2.1
  have same := stops front more rest ends (Nat.le_of_eq (congrArg List.length lexeme))
  unfold word
  rw [same]

/-- The start of a gap is no part of a sign of two characters. -/
theorem ofPair?_of_startsGap {next : Char} (starts : startsGap next = true) (c : Char) :
    TokenKind.ofPair? c next = none := by
  simp only [startsGap, isGap, Bool.or_eq_true, beq_iff_eq] at starts
  unfold TokenKind.ofPair?
  split <;> first | rfl | simp at starts

/-- A token before a gap is scanned again, whatever followed it before. -/
theorem piece_again {c : Char} {others more rest : List Char} {found : Piece}
    (scanned : piece c (others ++ more) = .ok found) (lexeme : found.lexeme = c :: others)
    (ends : Ends rest) : piece c (others ++ rest) = .ok found := by
  unfold piece at scanned ⊢
  split at scanned
  · rename_i quote
    subst quote
    rw [if_pos rfl]
    exact string_again scanned lexeme rest
  · rename_i noQuote
    rw [if_neg noQuote]
    split at scanned
    · rename_i digit
      rw [if_pos digit]
      have whole : number (c :: others ++ more) = .ok found := scanned
      have again : number (c :: others ++ rest) = .ok found := number_again whole lexeme ends
      exact again
    · rename_i noDigit
      rw [if_neg noDigit]
      split at scanned
      · rename_i starts
        rw [if_pos starts]
        cases scanned
        have whole : (word (c :: others ++ more)).lexeme = c :: others := lexeme
        have again : word (c :: others ++ rest) = word (c :: others ++ more) :=
          word_again whole ends
        exact congrArg Except.ok again
      · rename_i noName
        rw [if_neg noName]
        match others with
        | [] =>
          have alone : sign c = .ok found := by
            match more with
            | [] => exact scanned
            | next :: more =>
              simp only [List.nil_append] at scanned
              split at scanned
              · cases scanned
                cases lexeme
              · exact scanned
          match rest with
          | [] => exact alone
          | next :: rest => simpa only [List.nil_append, ofPair?_of_startsGap (ends next rfl)]
        | next :: others => exact scanned

/-- A sign of a division is a token by itself. -/
theorem piece_slash (more : List Char) : piece '/' more = .ok ⟨.slash, ['/'], none⟩ := by
  cases more <;> rfl

/-- No token starts with a blank character. -/
theorem piece_of_isGap {c : Char} (blank : isGap c = true) (more : List Char) :
    piece c more = .error (.located (.unexpectedCharacter c) [] [c]) := by
  simp only [isGap, Bool.or_eq_true, beq_iff_eq] at blank
  rcases blank with ((rfl | rfl) | rfl) | rfl <;> cases more <;> rfl

/-- No gap starts with a token. A sign of division before a comment is none. -/
theorem gapLength_of_piece {c : Char} {others more rest : List Char} {found : Piece}
    (scanned : piece c (others ++ more) = .ok found) (lexeme : found.lexeme = c :: others)
    (apart : found.kind = .slash → ∀ next ∈ rest.head?, isGap next = true) :
    gapLength (c :: (others ++ rest)) = .ok 0 := by
  have solid : ¬isGap c = true := by
    intro gap
    rw [piece_of_isGap gap] at scanned
    cases scanned
  have noComment : ∀ (sign : Char) (left : List Char), isGap sign = false → c = '/' →
      others ++ rest = sign :: left → False := by
    rintro sign left noGap rfl starts
    rw [piece_slash] at scanned
    cases scanned
    cases lexeme
    rw [List.nil_append] at starts
    have blank := apart rfl sign (by rw [starts]; rfl)
    rw [blank] at noGap
    cases noGap
  rw [gapLength.eq_4 c _ (fun left => noComment '/' left rfl) (fun left => noComment '*' left rfl),
    if_neg solid]

/-! ## Tokens of a text with other gaps -/

/-- A gap at the end of a text is followed by the end of the text. -/
theorem tokensFrom_end {text : List Char} (gap : Gap text) (file : Option String)
    (place : Source.Location) : tokensFrom file place text =
      ([⟨.endOfText, "", ⟨file, place.after text, place.after text⟩, none⟩], none) := by
  have length := gapLength_append gap gapLength.eq_1
  rw [List.append_nil, Nat.add_zero] at length
  rw [tokensFrom, length]
  dsimp only
  rw [List.take_length]
  split
  · rfl
  · rename_i ahead
    rw [List.drop_length] at ahead
    cases ahead

/-- A token after a gap is followed by the tokens after it. -/
theorem tokensFrom_next {gap rest : List Char} (isGap : Gap gap) {found : Piece} {c : Char}
    {others : List Char} (lexeme : found.lexeme = c :: others)
    (starts : gapLength (found.lexeme ++ rest) = .ok 0)
    (scanned : piece c (others ++ rest) = .ok found) (file : Option String)
    (place : Source.Location) : ∃ start stop : Source.Location,
      tokensFrom file place (gap ++ (found.lexeme ++ rest)) =
        (⟨found.kind, String.ofList found.lexeme, ⟨file, start, stop⟩, found.literal⟩ ::
          (tokensFrom file stop rest).1, (tokensFrom file stop rest).2) := by
  have length := gapLength_append isGap starts
  rw [Nat.add_zero] at length
  refine ⟨place.after gap, (place.after gap).after found.lexeme, ?_⟩
  rw [tokensFrom, length]
  dsimp only
  split
  · rename_i ahead
    rw [List.drop_left, lexeme] at ahead
    cases ahead
  · rename_i first more ahead
    rw [List.drop_left, lexeme] at ahead
    obtain ⟨rfl, rfl⟩ := List.cons.inj (show c :: (others ++ rest) = first :: more from ahead)
    rw [scanned]
    dsimp only
    rw [if_neg (by simp [lexeme]), List.take_left, ← List.cons_append, ← lexeme, List.drop_left]

/-- Gaps around tokens, one before each of them, the end of the text included. Those that stand
between two tokens separate them. -/
structure Spaces (gaps : List (List Char)) (tokens : List Token) : Prop where
  /-- There is one gap for each token. -/
  fits : gaps.length = tokens.length
  /-- All of them are gaps. -/
  gap : ∀ gap ∈ gaps, Gap gap
  /-- The first one and the last one need not separate anything. -/
  between : ∀ gap ∈ gaps.tail.dropLast, Separator gap

/-- The gaps after a token are gaps around the tokens after it, and the first of them separates the
token from the next one, unless that is the end of the text. -/
theorem Spaces.after {gap : List Char} {gaps : List (List Char)} {token next : Token}
    {tokens : List Token} (spaces : Spaces (gap :: gaps) (token :: next :: tokens)) :
    ∃ space more, gaps = space :: more ∧ Spaces gaps (next :: tokens) ∧
      (tokens ≠ [] → Separator space) := by
  have fits : gaps.length = (next :: tokens).length := by simpa using spaces.fits
  obtain ⟨space, more, rfl⟩ := List.exists_cons_of_length_eq_add_one fits
  have isGap : ∀ gap ∈ space :: more, Gap gap :=
    fun gap inside => spaces.gap gap (List.mem_cons_of_mem _ inside)
  have between : ∀ gap ∈ (space :: more).dropLast, Separator gap := spaces.between
  cases more with
  | nil =>
    have last : tokens = [] := List.eq_nil_of_length_eq_zero (by simpa using fits.symm)
    exact ⟨space, [], rfl, ⟨fits, isGap, fun _ inside => nomatch inside⟩, (absurd last ·)⟩
  | cons other more =>
    rw [List.dropLast_cons_cons] at between
    refine ⟨space, _, rfl, ⟨fits, isGap, ?_⟩, fun _ => between space List.mem_cons_self⟩
    exact fun gap inside => between gap (List.mem_cons_of_mem _ inside)

/-- The end of a text has no characters. -/
theorem lexeme_of_alone {file : Option String} {place : Source.Location} {text : List Char}
    {token : Token} (alone : tokensFrom file place text = ([token], none)) : token.lexeme = "" := by
  rw [tokensFrom] at alone
  split at alone
  · cases alone
  · dsimp only at alone
    split at alone
    · cases alone
      rfl
    · split at alone
      · cases alone
      · rename_i found read
        split at alone
        · rename_i empty
          exact absurd (List.isEmpty_iff.1 empty) (fits_of_piece read).consumes
        · -- After a token with characters there is the end of the text at least.
          obtain ⟨tokens, failure⟩ := Prod.mk.inj alone
          obtain ⟨_, nothing⟩ := List.cons.inj tokens
          obtain ⟨inner, final, complete⟩ := complete_tokensFrom failure
          have split := complete.split
          simp [nothing] at split

/-- What is woven after a token ends it, and starts with a blank character unless the end of the
text comes next. -/
theorem weave_ends {space : List Char} {more : List (List Char)} {next : Token}
    {tokens : List Token} (gap : Gap space) (separates : tokens ≠ [] → Separator space)
    (final : tokens = [] → next.lexeme = "") :
    Ends (weave (space :: more) (next :: tokens)) ∧
      (tokens ≠ [] → ∀ c ∈ (weave (space :: more) (next :: tokens)).head?, isGap c = true) := by
  by_cases last : tokens = []
  · subst last
    have alone : weave (space :: more) [next] = space := by
      rw [weave, final rfl, weave.eq_2 more [] fun _ _ _ _ _ same => nomatch same]
      exact List.append_nil space
    rw [alone]
    exact ⟨gap.ends, (absurd rfl ·)⟩
  · obtain ⟨blank, _⟩ := separates last
    refine ⟨ends_blank blank _, fun _ => ?_⟩
    rintro c ⟨⟩
    exact blank

/-- A token that is scanned has characters at the front of the text. -/
theorem split_of_piece {c : Char} {more : List Char} {found : Piece}
    (scanned : piece c more = .ok found) :
    ∃ others rest, found.lexeme = c :: others ∧ more = others ++ rest := by
  obtain ⟨⟨rest, whole⟩, consumes, _, _⟩ := fits_of_piece scanned
  obtain ⟨first, others, is⟩ := List.exists_cons_of_ne_nil consumes
  rw [is] at whole
  obtain ⟨rfl, same⟩ := List.cons.inj whole
  exact ⟨others, rest, is, same.symm⟩

/-- The lexemes of scanned tokens, woven with gaps, are scanned as the same tokens. -/
theorem tokensFrom_weave {file : Option String} {place : Source.Location} {text : List Char}
    (scanned : (tokensFrom file place text).2 = none)
    (apart : ∀ last ∈ (tokensFrom file place text).1.dropLast.getLast?, last.kind ≠ .slash) :
    ∀ {gaps : List (List Char)}, Spaces gaps (tokensFrom file place text).1 →
      ∀ origin : Source.Location, ∃ tokens : List Token,
        tokensFrom file origin (weave gaps (tokensFrom file place text).1) = (tokens, none) ∧
          tokens.map Token.unplaced = (tokensFrom file place text).1.map Token.unplaced := by
  fun_induction tokensFrom file place text with
  | case1 | case3 => cases scanned
  | case2 =>
    intro gaps spaces origin
    obtain ⟨gap, rfl⟩ := List.length_eq_one_iff.1 spaces.fits
    have ended := tokensFrom_end (spaces.gap gap List.mem_cons_self) file origin
    rw [← List.append_nil gap] at ended
    exact ⟨_, ended, rfl⟩
  | case4 =>
    rename_i place text gap _ start c more ahead found read stop token empty
    exact absurd (List.isEmpty_iff.1 empty) (fits_of_piece read).consumes
  | case5 =>
    rename_i place text gap _ start c more ahead found read stop token _ tokens failure later ih
    intro gaps spaces origin
    obtain ⟨others, rest, lexeme, rfl⟩ := split_of_piece read
    obtain ⟨gap, gaps, rfl⟩ := List.exists_cons_of_length_eq_add_one spaces.fits
    -- What follows is not empty: the end of the text comes after every token.
    obtain ⟨inner, final, complete⟩ := complete_tokensFrom (by rw [later]; exact scanned)
    rw [later] at complete ih
    have some : tokens ≠ [] := by
      have split : tokens = inner ++ [final] := complete.split
      simp [split]
    obtain ⟨next, tokens, rfl⟩ := List.exists_cons_of_ne_nil some
    obtain ⟨space, more, rfl, restSpaces, separates⟩ := spaces.after
    obtain ⟨ends, blank⟩ := @weave_ends space more next tokens
      (restSpaces.gap space List.mem_cons_self) separates (by
        rintro rfl
        exact lexeme_of_alone (later.trans (congrArg _ scanned)))
    have again := piece_again read lexeme ends
    have noGap := gapLength_of_piece read lexeme fun slash => blank (by
      rintro rfl
      exact apart token rfl slash)
    rw [← List.cons_append, ← lexeme] at noGap
    obtain ⟨first, last, is⟩ := tokensFrom_next (spaces.gap gap List.mem_cons_self) lexeme noGap
      again file origin
    have restApart : ∀ last ∈ (next :: tokens).dropLast.getLast?, last.kind ≠ .slash := by
      intro last inside
      cases tokens with
      | nil => cases inside
      | cons => exact apart last (by simpa [List.getLast?_cons] using inside)
    obtain ⟨others, scans, same⟩ := ih scanned restApart restSpaces last
    refine ⟨⟨found.kind, _, ⟨file, first, last⟩, found.literal⟩ :: others, ?_,
      congrArg (token.unplaced :: ·) same⟩
    rw [weave, show token.lexeme.toList = found.lexeme from String.toList_ofList, is, scans]

/-- The lexemes of the tokens of a text, woven with gaps, are scanned as the same tokens. -/
theorem scan_weave {source : String} {file : Option String} {tokens : List Token}
    (scanned : scan source file = (tokens, none))
    (apart : ∀ last ∈ tokens.dropLast.getLast?, last.kind ≠ .slash) {gaps : List (List Char)}
    (spaces : Spaces gaps tokens) :
    ∃ others, scan (String.ofList (weave gaps tokens)) file = (others, none) ∧
      others.map Token.unplaced = tokens.map Token.unplaced := by
  have whole : tokensFrom file {} source.toList = (tokens, none) := scanned
  have woven := @tokensFrom_weave file {} source.toList (by rw [whole])
  rw [whole] at woven
  unfold scan
  rw [String.toList_ofList]
  exact woven apart spaces {}

end Scan

end Lag
