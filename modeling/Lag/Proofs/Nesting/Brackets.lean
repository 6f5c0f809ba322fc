import Lag.Tree.Parse

/-!
# Which brackets are open

Tokens are balanced if every bracket in them has its partner, one pair inside the other or after it.
Tokens leave brackets open if the opening brackets among them that have no partner are these, with
balanced tokens between them. What is left open is unique where it exists: it is computed by a walk
over the tokens that keeps a stack.
-/
namespace Lag

/-- Whether a kind is that of an opening bracket. -/
def TokenKind.isOpener : TokenKind → Bool
  | .leftParen | .leftBrace => true
  | _ => false

/-- Whether a kind is that of a closing bracket. -/
def TokenKind.isCloser : TokenKind → Bool
  | .rightParen | .rightBrace => true
  | _ => false

/-- Whether a kind is that of a bracket. -/
def TokenKind.isBracket (kind : TokenKind) : Bool := kind.isOpener || kind.isCloser

/-- An opening bracket is closed by a closing bracket. -/
theorem TokenKind.isCloser_closing (kind : TokenKind) : (Parse.closing kind).isCloser = true := by
  unfold Parse.closing
  split <;> rfl

/-- The kinds of closing brackets. -/
theorem TokenKind.isCloser_iff {kind : TokenKind} :
    kind.isCloser = true ↔ kind = .rightBrace ∨ kind = .rightParen := by
  cases kind <;> decide

/-- An opening bracket does not end the text. -/
theorem TokenKind.ne_endOfText_of_isOpener {kind : TokenKind} (opens : kind.isOpener = true) :
    kind ≠ .endOfText := by
  rintro rfl
  cases opens

/-- A closing bracket does not end the text. -/
theorem TokenKind.ne_endOfText_of_isCloser {kind : TokenKind} (closes : kind.isCloser = true) :
    kind ≠ .endOfText := by
  rintro rfl
  cases closes

/-- No kind both opens and closes. -/
theorem TokenKind.not_isOpener_of_isCloser {kind : TokenKind} (closes : kind.isCloser = true) :
    kind.isOpener = false := by
  cases kind <;> simp_all [isOpener, isCloser]

namespace Parse

/-- Every bracket among some tokens has its partner. -/
inductive Balanced : List Token → Prop where
  /-- No tokens. -/
  | nil : Balanced []
  /-- A token that is no bracket. -/
  | token {token : Token} {text : List Token} (other : token.kind.isBracket = false) :
    Balanced text → Balanced (token :: text)
  /-- A bracket with its partner and what they enclose. -/
  | brackets {opener closer : Token} {inside text : List Token}
    (opens : opener.kind.isOpener = true) (closes : closer.kind = closing opener.kind) :
    Balanced inside → Balanced text → Balanced (opener :: (inside ++ closer :: text))

/-- The opening brackets without partners among some tokens, innermost first. -/
inductive Leaves : List Token → List Token → Prop where
  /-- Every bracket has its partner. -/
  | balanced {text : List Token} : Balanced text → Leaves text []
  /-- After an opening bracket without a partner every bracket has its partner. -/
  | opener {before text outer : List Token} {opener : Token} (opens : opener.kind.isOpener = true) :
    Leaves before outer → Balanced text → Leaves (before ++ opener :: text) (opener :: outer)

/-- Balanced tokens after balanced tokens. -/
theorem Balanced.append {text more : List Token} (first : Balanced text) (second : Balanced more) :
    Balanced (text ++ more) := by
  induction first with
  | nil => exact second
  | token other _ ih => exact .token other ih
  | @brackets opener closer inside text opens closes enclosed _ _ ih =>
    rw [List.cons_append, List.append_assoc, List.cons_append]
    exact .brackets opens closes enclosed ih

namespace Leaves

variable {text more opened outer : List Token} {token opener : Token}

/-- What is left open are opening brackets. -/
theorem isOpener (leaves : Leaves text opened) : ∀ opener ∈ opened, opener.kind.isOpener = true := by
  induction leaves with
  | balanced _ => simp
  | opener opens _ _ ih => simpa using ⟨opens, ih⟩

/-- Balanced tokens leave open what was open before them. -/
theorem append (leaves : Leaves text opened) (balanced : Balanced more) :
    Leaves (text ++ more) opened := by
  cases leaves with
  | balanced first => exact .balanced (first.append balanced)
  | opener opens before rest =>
    rw [List.append_assoc, List.cons_append]
    exact .opener opens before (rest.append balanced)

/-- A token that is no bracket leaves open what was open before it. -/
theorem concat (leaves : Leaves text opened) (other : token.kind.isBracket = false) :
    Leaves (text ++ [token]) opened :=
  leaves.append (.token other .nil)

/-- An opening bracket is open after it. -/
theorem opens (leaves : Leaves text opened) (opens : token.kind.isOpener = true) :
    Leaves (text ++ [token]) (token :: opened) :=
  .opener opens leaves .nil

/-- The partner of the innermost open bracket closes it. -/
theorem closes (leaves : Leaves text (opener :: outer)) (closes : token.kind = closing opener.kind) :
    Leaves (text ++ [token]) outer := by
  cases leaves with
  | @opener before inside outer opener opens left enclosed =>
    rw [List.append_assoc, List.cons_append]
    exact left.append (.brackets opens closes enclosed .nil)

end Leaves

/-- What is open after a token, unless it closes a bracket that is not the innermost open one. -/
def bracket (opened : List Token) (token : Token) : Option (List Token) :=
  if token.kind.isOpener then some (token :: opened)
  else if token.kind.isCloser then
    match opened with
    | opener :: outer => if token.kind = closing opener.kind then some outer else none
    | [] => none
  else some opened

/-- An opening bracket is open after it. -/
theorem bracket_of_opens {token : Token} (opened : List Token) (opens : token.kind.isOpener = true) :
    bracket opened token = some (token :: opened) :=
  if_pos opens

/-- The partner of the innermost open bracket closes it. -/
theorem bracket_of_closes {opener closer : Token} (outer : List Token)
    (closes : closer.kind = closing opener.kind) :
    bracket (opener :: outer) closer = some outer := by
  have isCloser : closer.kind.isCloser = true := by
    rw [closes]
    exact TokenKind.isCloser_closing opener.kind
  have noOpener := TokenKind.not_isOpener_of_isCloser isCloser
  unfold bracket
  rw [if_neg (by simp [noOpener]), if_pos isCloser]
  exact if_pos closes

/-- Other tokens change nothing of what is open. -/
theorem bracket_of_other {token : Token} (opened : List Token)
    (other : token.kind.isBracket = false) : bracket opened token = some opened := by
  simp only [TokenKind.isBracket, Bool.or_eq_false_iff] at other
  simp [bracket, other]

/-- What tokens leave open, unless a closing bracket among them has no partner. -/
def leftOpen (tokens : List Token) : Option (List Token) := tokens.foldlM bracket []

/-- Balanced tokens change nothing of what is open. -/
theorem foldlM_of_balanced {text : List Token} (balanced : Balanced text) (opened : List Token) :
    text.foldlM bracket opened = some opened := by
  induction balanced generalizing opened with
  | nil => rfl
  | token other _ ih =>
    rw [List.foldlM_cons, bracket_of_other opened other]
    exact ih opened
  | @brackets opener closer inside text opens closes _ _ enclosed rest =>
    rw [List.foldlM_cons, bracket_of_opens opened opens]
    show (inside ++ closer :: text).foldlM bracket (opener :: opened) = some opened
    rw [List.foldlM_append, enclosed]
    show (closer :: text).foldlM bracket (opener :: opened) = some opened
    rw [List.foldlM_cons, bracket_of_closes opened closes]
    exact rest opened

/-- What a step of the walk leaves open is open after the token. -/
theorem leaves_of_bracket {text opened next : List Token} {token : Token}
    (leaves : Leaves text opened) (step : bracket opened token = some next) :
    Leaves (text ++ [token]) next := by
  unfold bracket at step
  split at step
  · rename_i opens
    cases step
    exact leaves.opens opens
  · rename_i noOpener
    split at step
    · cases opened with
      | nil => cases step
      | cons opener outer =>
        simp only [Option.ite_none_right_eq_some, Option.some.injEq] at step
        obtain ⟨closes, rfl⟩ := step
        exact leaves.closes closes
    · rename_i noCloser
      cases step
      exact leaves.concat (by simp [TokenKind.isBracket, noOpener, noCloser])

/-- The walk over the tokens computes what they leave open. -/
theorem leftOpen_eq_some_iff {tokens opened : List Token} :
    leftOpen tokens = some opened ↔ Leaves tokens opened := by
  constructor
  · suffices ∀ (rest before start : List Token), Leaves before start →
        rest.foldlM bracket start = some opened → Leaves (before ++ rest) opened from
      fun walked => this tokens [] [] (.balanced .nil) walked
    intro rest
    induction rest with
    | nil =>
      intro before start leaves walked
      cases walked
      rwa [List.append_nil]
    | cons token rest ih =>
      intro before start leaves walked
      rw [List.foldlM_cons, Option.bind_eq_bind, Option.bind_eq_some_iff] at walked
      obtain ⟨next, step, walked⟩ := walked
      rw [List.append_cons]
      exact ih _ _ (leaves_of_bracket leaves step) walked
  · intro leaves
    unfold leftOpen
    induction leaves with
    | balanced whole => exact foldlM_of_balanced whole []
    | @opener before text outer opener opens _ balanced ih =>
      rw [List.foldlM_append, ih]
      show (opener :: text).foldlM bracket outer = some (opener :: outer)
      rw [List.foldlM_cons, bracket_of_opens outer opens]
      exact foldlM_of_balanced balanced (opener :: outer)

/-- Tokens leave open at most one list of brackets. -/
theorem Leaves.unique {tokens opened other : List Token} (first : Leaves tokens opened)
    (second : Leaves tokens other) : opened = other := by
  rw [← leftOpen_eq_some_iff] at first second
  rw [first] at second
  cases second
  rfl

end Parse

end Lag
