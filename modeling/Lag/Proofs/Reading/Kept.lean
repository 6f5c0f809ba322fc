import Lag.Number.Reading
import Lag.Proofs.Accepted
import Lag.Proofs.Naming.Words
import Lag.Proofs.Typing.Occurring

/-!
# Host expressions keep their trees

The text that an expression of an accepted program is lowered to is read back as the expression:
with the same operators on the same operands, and with the conversions and calls that its notes ask
for. Every name that it reads or calls is a name of the grammar, so the only thing left open is that
floats are read back from their texts.
-/
namespace Lag

open Host (Phrase operatorPhrase builtinPhrase symbolsOf ReadsBack)

/-! ## Phrases of expressions -/

/-- The phrase of a literal. The infinity has no numeral: it is converted from a word. -/
def Literal.phrase : Literal → Phrase
  | .float value =>
    if value == Number.infinity then .call (.name "float") [.literal (.string "inf")]
    else .literal (.float value)
  | value => .literal value

/-- The value of a phrase that is a literal, or that converts a text. -/
def Host.Phrase.constant? : Phrase → Option Literal
  | .literal value => some value
  | .call (.name "float") [.literal (.string text)] =>
    (Number.readFloat text).toOption.map .float
  | _ => none

/-- The phrase of a literal has the value of the literal. -/
theorem Literal.constant?_phrase (value : Literal) : value.phrase.constant? = some value := by
  cases value with
  | float value =>
    show Host.Phrase.constant? (if value == Number.infinity then _ else _) = _
    by_cases same : (value == Number.infinity) = true
    · rw [if_pos same, Number.eq_infinity same]
      show (Number.readFloat "inf").toOption.map Literal.float = _
      rw [Number.readFloat_inf]
      rfl
    · rw [if_neg same]
      rfl
  | int _ => rfl
  | string _ => rfl
  | bool _ => rfl

/-- A phrase where a note stands: it is converted to a float exactly if that is noted. -/
def Mark.phrase (mark : Mark) (phrase : Phrase) : Phrase :=
  if mark.widened then .call (.name "float") [phrase] else phrase

/-- The host operator between operands: the quotient is a whole number exactly between integers. -/
def BinaryOp.between (op : BinaryOp) (left right : Expr Mark) : Host.Operator :=
  if op = .divide ∧ left.note.type = some .int ∧ right.note.type = some .int then .floorDivide
  else op.lower false

/-- The built-in function that a name stands for. -/
def Ident.builtin? (callee : Ident Mark) : Option Builtin :=
  callee.note.symbol.bind fun symbol =>
    if symbol.kind = .builtin then Builtin.ofName? symbol.name else none

/-- The phrase of a call: a built-in function has its own. -/
def Ident.callPhrase (names : Host.Names) (callee : Ident Mark) (arguments : List Phrase) :
    Phrase :=
  match callee.builtin? with
  | some builtin => builtinPhrase builtin arguments
  | none => .call (.name (callee.lower names)) arguments

mutual

/-- The phrase of an expression: its tree, with the names that symbols have in the host. -/
def Expr.phrase (names : Host.Names) : Expr Mark → Phrase
  | .literal mark value _ => mark.phrase value.phrase
  | .read ident => ident.note.phrase (.name (ident.lower names))
  | .unary mark .not operand => mark.phrase (.not (operand.phrase names))
  | .unary mark .negate operand => mark.phrase (.negate (operand.phrase names))
  | .binary mark op left right =>
    mark.phrase
      (operatorPhrase (op.between left right) (left.phrase names) (right.phrase names))
  | .call mark callee arguments =>
    mark.phrase (callee.callPhrase names (Expr.phrases names arguments))

/-- The phrases of expressions. -/
def Expr.phrases (names : Host.Names) : List (Expr Mark) → List Phrase
  | [] => []
  | expr :: rest => expr.phrase names :: Expr.phrases names rest

end

mutual

/-- The floats of the literals of an expression, but for the infinity. -/
def Expr.floats {α : Type} : Expr α → List Float
  | .literal _ (.float value) _ => if value == Number.infinity then [] else [value]
  | .literal _ _ _ => []
  | .read _ => []
  | .unary _ _ operand => operand.floats
  | .binary _ _ left right => left.floats ++ right.floats
  | .call _ _ arguments => Expr.allFloats arguments

/-- The floats of the literals of expressions, but for the infinity. -/
def Expr.allFloats {α : Type} : List (Expr α) → List Float
  | [] => []
  | expr :: rest => expr.floats ++ Expr.allFloats rest

end

/-! ## Lowered expressions -/

/-- A converted expression has the phrase of the conversion. -/
theorem Mark.phrase_convert (mark : Mark) (expr : Host.Expr) :
    (mark.convert expr).phrase = mark.phrase expr.phrase := by
  unfold Mark.convert Mark.phrase
  split <;> rfl

/-- A lowered literal has the phrase of the literal. -/
theorem Literal.phrase_lower (value : Literal) : value.lower.phrase = value.phrase := by
  cases value with
  | float value =>
    show Host.Expr.phrase (if value == Number.infinity then _ else _) =
      (if value == Number.infinity then _ else _)
    split <;> rfl
  | int _ => rfl
  | string _ => rfl
  | bool _ => rfl

/-- A lowered operator is the one between its operands. -/
theorem BinaryOp.lower_eq_between (op : BinaryOp) (left right : Expr Mark) :
    op.lower (left.isInt && right.isInt) = op.between left right := by
  unfold BinaryOp.between Expr.isInt
  by_cases divides : op = .divide
  · subst divides
    by_cases integers : left.note.type = some .int ∧ right.note.type = some .int
    · rw [if_pos ⟨rfl, integers⟩, integers.1, integers.2]
      rfl
    · rw [if_neg fun all => integers all.2]
      have some : (left.note.type == Option.some .int && right.note.type == Option.some .int) =
          false := by
        rw [Bool.and_eq_false_iff, beq_eq_false_iff_ne, beq_eq_false_iff_ne]
        exact Classical.not_and_iff_not_or_not.1 integers
      rw [some]
  · rw [if_neg fun all => divides all.1]
    cases op <;> first | rfl | exact absurd rfl divides

/-- A lowered call has the phrase of the call. -/
theorem Ident.phrase_lowerCall (names : Host.Names) (callee : Ident Mark)
    (arguments : List Host.Expr) :
    (callee.lowerCall names arguments).phrase =
      callee.callPhrase names (Host.Expr.phrases arguments) := by
  unfold Ident.lowerCall Ident.callPhrase Ident.builtin?
  cases callee.note.symbol with
  | none => rfl
  | some symbol =>
    obtain ⟨name, kind, _, _, _, _, _⟩ := symbol
    cases kind with
    | builtin =>
      dsimp only [Option.bind_some]
      cases Builtin.ofName? name <;> rfl
    | _ => rfl

mutual

/-- A lowered expression has the phrase of the expression. -/
theorem Expr.phrase_lower (names : Host.Names) : ∀ expr : Expr Mark,
    (expr.lower names).phrase = expr.phrase names
  | .literal mark value _ => by
    rw [Expr.lower, Expr.phrase, Mark.phrase_convert, Literal.phrase_lower]
  | .read ident => by
    rw [Expr.lower, Expr.phrase, Mark.phrase_convert]
    rfl
  | .unary mark .not operand => by
    rw [Expr.lower, Expr.phrase, Mark.phrase_convert, Host.Expr.phrase,
      Expr.phrase_lower names operand]
  | .unary mark .negate operand => by
    rw [Expr.lower, Expr.phrase, Mark.phrase_convert, Host.Expr.phrase,
      Expr.phrase_lower names operand]
  | .binary mark op left right => by
    rw [Expr.lower, Expr.phrase, Mark.phrase_convert, Host.Expr.phrase,
      Expr.phrase_lower names left, Expr.phrase_lower names right, BinaryOp.lower_eq_between]
  | .call mark callee arguments => by
    rw [Expr.lower, Expr.phrase, Mark.phrase_convert, Ident.phrase_lowerCall,
      Expr.phrases_lower names arguments]

/-- Lowered expressions have the phrases of the expressions. -/
theorem Expr.phrases_lower (names : Host.Names) : ∀ exprs : List (Expr Mark),
    Host.Expr.phrases (Expr.lowerAll names exprs) = Expr.phrases names exprs
  | [] => rfl
  | expr :: rest => by
    rw [Expr.lowerAll, Expr.phrases, Host.Expr.phrases, Expr.phrase_lower names expr,
      Expr.phrases_lower names rest]

end

/-- A converted expression can be read if the expression can. -/
theorem Mark.readable_convert {mark : Mark} {expr : Host.Expr} (readable : expr.Readable) :
    (mark.convert expr).Readable := by
  unfold Mark.convert
  split <;> exact readable

/-- The number of lowered expressions. -/
theorem Expr.length_lowerAll (names : Host.Names) (exprs : List (Expr Mark)) :
    (Expr.lowerAll names exprs).length = exprs.length := by
  induction exprs with
  | nil => rfl
  | cons expr rest ih => rw [Expr.lowerAll, List.length_cons, List.length_cons, ih]

namespace Typing

variable {program : Lag.Program Mark}

/-- A call of what a scope of a program knows can be read if its arguments can. -/
theorem readable_lowerCall (typed : Program program) (regular : program.Regular)
    {table : SymbolTable} (known : Known program table) {callee : Ident Mark} {symbol : Symbol}
    (found : table.lookup? callee.name = some symbol) (bound : callee.note.symbol = some symbol)
    {signature : Signature} (signed : symbol.signature = some signature)
    {arguments : List Host.Expr} (many : arguments.length = signature.params.length)
    (readable : Host.Expr.AllReadable arguments) :
    (callee.lowerCall (Host.Names.ofProgram program) arguments).Readable := by
  rcases known.lookup? found with declared | ⟨builtin, rfl⟩
  · have isCall : callee.lowerCall (Host.Names.ofProgram program) arguments =
        .call ((Host.Names.ofProgram program).find symbol) arguments := by
      have plain := declared.plain
      unfold Ident.lowerCall Ident.lower
      rw [bound]
      obtain ⟨name, kind, _, _, _, _, _⟩ := symbol
      cases kind with
      | builtin => exact absurd rfl plain
      | _ => rfl
    rw [isCall]
    exact ⟨typed.isWord_find regular declared.inside, readable⟩
  · have isCall : callee.lowerCall (Host.Names.ofProgram program) arguments =
        .builtin builtin arguments := by
      unfold Ident.lowerCall
      rw [bound]
      cases builtin <;> rfl
    have one : signature.params.length = 1 := by
      cases signed
      cases builtin <;> rfl
    rw [isCall]
    exact ⟨many.trans one, readable⟩

mutual

/-- A well typed expression can be read after it is lowered. -/
theorem HasType.readable (program_typed : Program program) (regular : program.Regular)
    {table : SymbolTable} (known : Known program table) :
    ∀ {expr : Expr Mark} {type : Ty}, HasType table expr type →
      (∀ value ∈ expr.floats, ReadsBack value) →
        (expr.lower (Host.Names.ofProgram program)).Readable
  | .literal mark value _, _, _, floats => by
    refine Mark.readable_convert ?_
    cases value with
    | float value =>
      show Host.Expr.Readable (if value == Number.infinity then _ else _)
      by_cases infinite : (value == Number.infinity) = true
      · rw [if_pos infinite]
        trivial
      · rw [if_neg infinite]
        rw [Expr.floats, if_neg infinite] at floats
        exact floats value List.mem_cons_self
    | int _ => trivial
    | string _ => trivial
    | bool _ => trivial
  | .read ident, _, .read found readable bound _, _ => by
    refine Mark.readable_convert ?_
    show Host.isWord (ident.lower _) = true
    rcases known.lookup? found with declared | ⟨builtin, rfl⟩
    · unfold Ident.lower
      rw [bound]
      exact program_typed.isWord_find regular declared.inside
    · cases readable
  | .unary _ .not _, _, .not _ truth _, floats =>
    Mark.readable_convert (truth.readable program_typed regular known floats)
  | .unary _ .negate _, _, .negate _ _ number _, floats =>
    Mark.readable_convert (number.readable program_typed regular known floats)
  | .binary _ _ _ _, _, .binary _ leftTyped _ rightTyped _ _, floats => by
    have left := leftTyped.readable program_typed regular known fun value inside =>
      floats value (List.mem_append_left _ inside)
    have right := rightTyped.readable program_typed regular known fun value inside =>
      floats value (List.mem_append_right _ inside)
    exact Mark.readable_convert ⟨left, right⟩
  | .call _ _ arguments, _, .call _ found bound signed fits, floats => by
    have readable := fits.readable program_typed regular known floats
    have many : (Expr.lowerAll (Host.Names.ofProgram program) arguments).length = _ :=
      (Expr.length_lowerAll _ arguments).trans fits.length
    exact Mark.readable_convert
      (readable_lowerCall program_typed regular known found bound signed many readable)

/-- Arguments can be read after they are lowered. -/
theorem Arguments.readable (program_typed : Program program) (regular : program.Regular)
    {table : SymbolTable} (known : Known program table) :
    ∀ {exprs : List (Expr Mark)} {params : List (String × Ty)}, Arguments table params exprs →
      (∀ value ∈ Expr.allFloats exprs, ReadsBack value) →
        Host.Expr.AllReadable (Expr.lowerAll (Host.Names.ofProgram program) exprs)
  | [], _, _, _ => trivial
  | _ :: _, _, .cons fits others, floats => by
    obtain ⟨_, typed⟩ := fits.typed
    have first := typed.readable program_typed regular known fun value inside =>
      floats value (List.mem_append_left _ inside)
    have later := others.readable program_typed regular known fun value inside =>
      floats value (List.mem_append_right _ inside)
    exact ⟨first, later⟩

end

end Typing

/-- Expressions keep their trees. The text that an expression of an accepted program is lowered to
is read back as the tree of the expression: the same operators on the same operands, with no two
comparisons in one chain, the whole quotient exactly between integers, a conversion to a float
exactly where one is noted, calls of built-in functions as the calls that they stand for, and
literals with their values. Finite floats are read back from their texts. -/
theorem expression_kept {source : String} {file : Option String} {limit : Nat}
    {program : Program Mark} (accepts : Accepts source file limit program) {expr : Expr Mark}
    (inside : expr ∈ program.exprs) (floats : ∀ value ∈ expr.floats, ReadsBack value) :
    Host.readPhrase (expr.lower (Host.Names.ofProgram program)).toText =
        some (expr.phrase (Host.Names.ofProgram program)) ∧
      ∀ value : Literal, value.phrase.constant? = some value := by
  obtain ⟨table, type, known, typed⟩ := accepts.typed.occurs expr inside
  have readable := typed.readable accepts.typed accepts.regular known floats
  refine ⟨?_, Literal.constant?_phrase⟩
  rw [Host.Expr.readPhrase_toText readable, Expr.phrase_lower]

/-- A program with an expression whose text has parentheses only where its tree asks for them. -/
def grouped : String :=
  "fn f(a: int, b: float) -> bool { return !(a - (2 - a) * 3 / a < b / 1.5 == true); }"

/-- The expression that the program of grouped operands returns keeps its tree. -/
theorem expression_kept_grouped : ∃ program expr,
    Accepts grouped none 1 program ∧ expr ∈ program.exprs ∧
      (expr.lower (Host.Names.ofProgram program)).toText =
        "not (a - (2 - a) * 3 // a < b / 1.5) == True" ∧
      (∀ value ∈ expr.floats, ReadsBack value) ∧
      Host.readPhrase (expr.lower (Host.Names.ofProgram program)).toText =
        some (expr.phrase (Host.Names.ofProgram program)) := by
  obtain ⟨program, accepts, holds⟩ : ∃ program, Accepts grouped none 1 program ∧
      (program.exprs.any fun expr =>
        decide ((expr.lower (Host.Names.ofProgram program)).toText =
          "not (a - (2 - a) * 3 // a < b / 1.5) == True") &&
            decide (∀ value ∈ expr.floats, ReadsBack value)) = true :=
    exists_accepts rfl Nat.one_pos (by decide +kernel)
  obtain ⟨expr, inside, parts⟩ := List.any_eq_true.1 holds
  simp only [Bool.and_eq_true, decide_eq_true_eq] at parts
  obtain ⟨text, floats⟩ := parts
  exact ⟨program, expr, accepts, inside, text, floats, (expression_kept accepts inside floats).1⟩

end Lag
