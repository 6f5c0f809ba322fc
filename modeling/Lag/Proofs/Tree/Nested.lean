import Lag.Proofs.Grammar.Decided
import Lag.Proofs.Token.Tiled
import Lag.Proofs.Tree.Branches
import Lag.Proofs.Tree.Numbered

/-!
# Places nest

The tokens of a text lie one after another, and every construct takes its place from them: from one
token, from its first and its last token, or from the places of its parts. Parentheses around an
expression are tokens without a construct. So the constructs that some tokens write are laid out
between the ends of these tokens, each with its parts between its own ends, and the constructs that
are a single token stand where that token stands.
-/
namespace Lag

open Source (stretch)

/-- Whether constructs of a kind are single tokens. -/
def Kind.isToken : Kind → Bool
  | .literal | .identifier | .type => true
  | _ => false

/-! ## Tokens and constructs between two offsets -/

namespace Grammar

open Parse (Place)

/-- Tokens of a text that lie one after another between two offsets. -/
inductive Spread (tokens : List Token) : Nat → Nat → List Token → Prop
  | none {first last : Nat} : first ≤ last → Spread tokens first last []
  | token {first last : Nat} {token : Token} {rest : List Token} :
    token ∈ tokens → first ≤ token.span.start.offset →
    token.span.start.offset ≤ token.span.stop.offset →
    Spread tokens token.span.stop.offset last rest → Spread tokens first last (token :: rest)

/-- What a construct has from the tokens that write it: it is one of them, it is named by one of
them, its label is that of an operator, or it has no label. Only a literal stands for something. -/
inductive Made (tokens : List Token) : Entry Place → Prop
  | literal {token : Token} :
    token ∈ tokens → Made tokens ⟨.literal, some token.lexeme, token.literal, token.span⟩
  | word {kind : Kind} {token : Token} :
    kind = .identifier ∨ kind = .type → token ∈ tokens →
      Made tokens ⟨kind, some token.lexeme, none, token.span⟩
  | named {kind : Kind} {token : Token} {place : Place} :
    kind.isToken = false → token ∈ tokens → Made tokens ⟨kind, some token.lexeme, none, place⟩
  | unary {op : UnaryOp} {place : Place} : Made tokens ⟨.unary, some op.name, none, place⟩
  | binary {op : BinaryOp} {place : Place} : Made tokens ⟨.binary, some op.name, none, place⟩
  | plain {kind : Kind} {place : Place} :
    kind.isToken = false → Made tokens ⟨kind, none, none, place⟩

/-- A construct that is a single token stands where the token stands, with its lexeme. -/
theorem Made.quoted {tokens : List Token} {entry : Entry Place} (made : Made tokens entry)
    (single : entry.kind.isToken = true) :
    ∃ token ∈ tokens, entry.label = some token.lexeme ∧ entry.note = token.span := by
  cases made with
  | literal among => exact ⟨_, among, rfl, rfl⟩
  | word _ among => exact ⟨_, among, rfl, rfl⟩
  | named other _ | plain other => exact absurd single (by simp [other])
  | unary | binary => cases single

/-- Constructs that are laid out one after another between two offsets, each with its parts between
its own ends. -/
inductive Nested (tokens : List Token) : Nat → Nat → List (Branch Place) → Prop
  | none {first last : Nat} : first ≤ last → Nested tokens first last []
  | construct {first last : Nat} {entry : Entry Place} {children rest : List (Branch Place)} :
    Made tokens entry → first ≤ entry.note.start.offset →
    Nested tokens entry.note.start.offset entry.note.stop.offset children →
    Nested tokens entry.note.stop.offset last rest →
      Nested tokens first last (⟨entry, children⟩ :: rest)

variable {tokens text more : List Token} {first middle last : Nat} {token : Token}

namespace Spread

/-- The first offset is not after the last. -/
theorem le (spread : Spread tokens first last text) : first ≤ last := by
  induction spread with
  | none le => exact le
  | token _ starts stops _ ih => exact starts.trans (stops.trans ih)

/-- A token and what follows it. -/
theorem cons (spread : Spread tokens first last (token :: text)) :
    token ∈ tokens ∧ first ≤ token.span.start.offset ∧
      token.span.start.offset ≤ token.span.stop.offset ∧
        Spread tokens token.span.stop.offset last text := by
  cases spread with
  | token inside starts stops rest => exact ⟨inside, starts, stops, rest⟩

/-- Tokens and what follows them. -/
theorem append (spread : Spread tokens first last (text ++ more)) :
    ∃ middle, Spread tokens first middle text ∧ Spread tokens middle last more := by
  induction text generalizing first with
  | nil => exact ⟨first, .none (Nat.le_refl _), spread⟩
  | cons token text ih =>
    obtain ⟨inside, starts, stops, rest⟩ := spread.cons
    obtain ⟨middle, before, after⟩ := ih rest
    exact ⟨middle, .token inside starts stops before, after⟩

/-- Tokens with one after them. -/
theorem concat (spread : Spread tokens first last (text ++ [token])) :
    token ∈ tokens ∧ Spread tokens first token.span.start.offset text ∧
      token.span.start.offset ≤ token.span.stop.offset ∧ token.span.stop.offset ≤ last := by
  obtain ⟨middle, before, after⟩ := spread.append
  obtain ⟨inside, starts, stops, none⟩ := after.cons
  refine ⟨inside, ?_, stops, none.le⟩
  clear spread after
  induction before with
  | none le => exact .none (le.trans starts)
  | token inside firstStarts firstStops _ ih =>
    exact .token inside firstStarts firstStops (ih starts)

end Spread

namespace Nested

variable {constructs others children : List (Branch Place)} {entry : Entry Place}

/-- The first offset is not after the last. -/
theorem le (nested : Nested tokens first last constructs) : first ≤ last := by
  induction nested with
  | none le => exact le
  | construct _ starts _ _ insideLe restLe => exact starts.trans (insideLe.trans restLe)

/-- Constructs between two offsets lie between offsets further apart. -/
theorem widen (nested : Nested tokens first last constructs) {earlier later : Nat}
    (before : earlier ≤ first) (after : last ≤ later) :
    Nested tokens earlier later constructs := by
  induction nested generalizing earlier with
  | none le => exact .none (before.trans (le.trans after))
  | construct made starts inside _ _ ih =>
    exact .construct made (before.trans starts) inside (ih (Nat.le_refl _) after)

/-- Constructs and those that follow them. -/
theorem append (nested : Nested tokens first middle constructs)
    (rest : Nested tokens middle last others) :
    Nested tokens first last (constructs ++ others) := by
  induction nested with
  | none le => exact rest.widen le (Nat.le_refl _)
  | construct made starts inside _ _ ih => exact .construct made starts inside (ih rest)

/-- A construct by itself. -/
theorem single (made : Made tokens entry) (starts : first ≤ entry.note.start.offset)
    (inside : Nested tokens entry.note.start.offset entry.note.stop.offset children)
    (stops : entry.note.stop.offset ≤ last) : Nested tokens first last [⟨entry, children⟩] :=
  .construct made starts inside (.none stops)

/-- A construct lies between its own ends. -/
theorem tight {construct : Branch Place} (nested : Nested tokens first last [construct]) :
    first ≤ construct.entry.note.start.offset ∧ construct.entry.note.stop.offset ≤ last ∧
      Nested tokens construct.entry.note.start.offset construct.entry.note.stop.offset
        [construct] := by
  cases nested with
  | construct made starts inside rest =>
    exact ⟨starts, rest.le, .single made (Nat.le_refl _) inside (Nat.le_refl _)⟩

/-- Each of the constructs lies between the two offsets, with its parts between its own ends. -/
theorem of_mem (nested : Nested tokens first last constructs) {construct : Branch Place}
    (among : construct ∈ constructs) : Made tokens construct.entry ∧
      (first ≤ construct.entry.note.start.offset ∧ construct.entry.note.stop.offset ≤ last) ∧
        Nested tokens construct.entry.note.start.offset construct.entry.note.stop.offset
          construct.children := by
  induction nested with
  | none => cases among
  | construct made starts inside rest _ ih =>
    rcases List.mem_cons.1 among with rfl | among
    · exact ⟨made, ⟨starts, rest.le⟩, inside⟩
    · obtain ⟨made, ⟨after, stops⟩, parts⟩ := ih among
      exact ⟨made, ⟨starts.trans (inside.le.trans after), stops⟩, parts⟩

/-- Each of the constructs ends before the next ones start. -/
theorem pairwise (nested : Nested tokens first last constructs) :
    constructs.Pairwise fun one two =>
      one.entry.note.stop.offset ≤ two.entry.note.start.offset := by
  induction nested with
  | none => exact .nil
  | construct _ _ _ rest _ ih =>
    exact .cons (fun _ among => (rest.of_mem among).2.1.1) ih

/-- What occurs in one of the constructs has its parts between its own ends. -/
theorem of_occurs {node tree : Branch Place} (occurs : Branch.Occurs node tree)
    (nested : Nested tokens first last constructs) (among : tree ∈ constructs) :
    Made tokens node.entry ∧ Nested tokens node.entry.note.start.offset
      node.entry.note.stop.offset node.children := by
  induction occurs generalizing first last constructs with
  | here =>
    obtain ⟨made, _, parts⟩ := nested.of_mem among
    exact ⟨made, parts⟩
  | inside child _ ih => exact ih (nested.of_mem among).2.2 child

end Nested

/-! ## Constructs that are written -/

/-- A name is laid out among its tokens, in parentheses or not. -/
theorem Name.nested {ident : Ident Place} (name : Name text ident)
    (spread : Spread tokens first last text) : Nested tokens first last [ident.branch] := by
  induction name generalizing first last with
  | word =>
    obtain ⟨inside, starts, stops, none⟩ := spread.cons
    exact .single (.word (.inl rfl) inside) starts (.none stops) none.le
  | grouped _ _ _ ih =>
    obtain ⟨_, starts, stops, rest⟩ := spread.cons
    obtain ⟨_, inner, closes, ends⟩ := rest.concat
    exact (ih inner).widen (starts.trans stops) (closes.trans ends)

mutual

/-- An expression is laid out among its tokens. -/
theorem Level.nested {level : Nat} {text : List Token} {expr : Expr Place} :
    Level level text expr → ∀ {first last : Nat}, Spread tokens first last text →
      Nested tokens first last [expr.branch]
  | .operand writes, _, _, spread => writes.nested spread
  | .higher writes, _, _, spread => writes.nested spread
  | .operator _ before _ after, first, last, spread => by
    obtain ⟨middle, leftSpread, rest⟩ := spread.append
    obtain ⟨_, starts, stops, rightSpread⟩ := rest.cons
    obtain ⟨leftStarts, leftStops, leftNested⟩ := (before.nested leftSpread).tight
    obtain ⟨rightStarts, rightStops, rightNested⟩ := (after.nested rightSpread).tight
    rw [Expr.branch_note] at leftStarts leftStops leftNested rightStarts rightStops rightNested
    refine .single .binary leftStarts ?_ rightStops
    exact (leftNested.widen (Nat.le_refl _) (by omega)).append rightNested

/-- An operand with operators in front is laid out among its tokens. -/
theorem Prefixed.nested {text : List Token} {expr : Expr Place} :
    Prefixed text expr → ∀ {first last : Nat}, Spread tokens first last text →
      Nested tokens first last [expr.branch]
  | .operand writes, _, _, spread => writes.nested spread
  | .operator _ writes, first, last, spread => by
    obtain ⟨_, starts, stops, rest⟩ := spread.cons
    obtain ⟨operandStarts, operandStops, nested⟩ := (writes.nested rest).tight
    rw [Expr.branch_note] at operandStarts operandStops nested
    exact .single .unary starts (nested.widen (stops.trans operandStarts) (Nat.le_refl _))
      operandStops

/-- An operand is laid out among its tokens. -/
theorem Called.nested {text : List Token} {expr : Expr Place} :
    Called text expr → ∀ {first last : Nat}, Spread tokens first last text →
      Nested tokens first last [expr.branch]
  | .operand writes, _, _, spread => writes.nested spread
  | .call name _ writes _, first, last, spread => by
    obtain ⟨middle, nameSpread, rest⟩ := spread.append
    obtain ⟨_, opens, opened, rest⟩ := rest.cons
    obtain ⟨_, inner, closes, ends⟩ := rest.concat
    obtain ⟨nameStarts, nameStops, nameNested⟩ := (name.nested nameSpread).tight
    refine .single (.plain rfl) nameStarts ?_ ends
    exact (nameNested.widen (Nat.le_refl _) nameStops).append
      ((writes.nested inner).widen (opens.trans opened) closes)

/-- A literal, a name or an expression in parentheses is laid out among its tokens. -/
theorem Primary.nested {text : List Token} {expr : Expr Place} :
    Primary text expr → ∀ {first last : Nat}, Spread tokens first last text →
      Nested tokens first last [expr.branch]
  | .literal _ value, first, last, spread => by
    obtain ⟨inside, starts, stops, none⟩ := spread.cons
    have made := Made.literal inside
    rw [value] at made
    exact .single made starts (.none stops) none.le
  | .name _, first, last, spread => by
    obtain ⟨inside, starts, stops, none⟩ := spread.cons
    exact .single (.word (.inl rfl) inside) starts (.none stops) none.le
  | .grouped _ writes _, first, last, spread => by
    obtain ⟨_, starts, stops, rest⟩ := spread.cons
    obtain ⟨_, inner, closes, ends⟩ := rest.concat
    exact (writes.nested inner).widen (starts.trans stops) (closes.trans ends)

/-- Arguments are laid out among their tokens. -/
theorem Arguments.nested {text : List Token} {exprs : List (Expr Place)} :
    Arguments text exprs → ∀ {first last : Nat}, Spread tokens first last text →
      Nested tokens first last (Expr.branches exprs)
  | .none, _, _, spread => .none spread.le
  | .some writes rest, first, last, spread => by
    obtain ⟨middle, own, others⟩ := spread.append
    exact (writes.nested own).append (rest.nested others)

/-- Further arguments are laid out among their tokens. -/
theorem Further.nested {text : List Token} {exprs : List (Expr Place)} :
    Further text exprs → ∀ {first last : Nat}, Spread tokens first last text →
      Nested tokens first last (Expr.branches exprs)
  | .none, _, _, spread => .none spread.le
  | .some _ writes rest, first, last, spread => by
    obtain ⟨_, starts, stops, after⟩ := spread.cons
    obtain ⟨middle, own, others⟩ := after.append
    have whole := (writes.nested own).append (rest.nested others)
    exact whole.widen (starts.trans stops) (Nat.le_refl _)

end

/-- A written type is laid out among its tokens. -/
theorem Written.nested {type : TypeName Place} (writes : Written text type)
    (spread : Spread tokens first last text) : Nested tokens first last [type.branch] := by
  cases writes with
  | @type token type _ found =>
    obtain ⟨inside, starts, stops, none⟩ := spread.cons
    have named : type.name = token.lexeme := by simpa using List.find?_some found
    have made := Made.word (.inr rfl) inside
    rw [← named] at made
    exact .single made starts (.none stops) none.le

/-- A type after a sign is laid out among its tokens. -/
theorem Typed.nested {kind : TokenKind} {type : Option (TypeName Place)}
    (writes : Typed kind text type) (spread : Spread tokens first last text) :
    Nested tokens first last (type.map TypeName.branch).toList := by
  cases writes with
  | none => exact .none spread.le
  | some _ written =>
    obtain ⟨_, starts, stops, rest⟩ := spread.cons
    exact (written.nested rest).widen (starts.trans stops) (Nat.le_refl _)

/-- A declaration of a variable is laid out among its tokens. -/
theorem Declares.nested {binding : Binding Place} (writes : Declares text binding)
    (spread : Spread tokens first last text) : Nested tokens first last [binding.branch] := by
  cases writes with
  | binding _ _ typed _ value _ =>
    obtain ⟨_, starts, word, rest⟩ := spread.cons
    obtain ⟨named, nameStarts, nameStops, rest⟩ := rest.cons
    obtain ⟨middle, typeSpread, rest⟩ := rest.append
    obtain ⟨_, equals, equalsStops, rest⟩ := rest.cons
    obtain ⟨_, valueSpread, stops, ends⟩ := rest.concat
    refine .single (.named rfl named) starts ?_ ends
    exact ((typed.nested typeSpread).widen (word.trans (nameStarts.trans nameStops))
      (equals.trans equalsStops)).append
      ((value.nested valueSpread).widen (Nat.le_refl _) stops)

/-- The generic form of a block. -/
abbrev blockBranch (place : Place) (body : List (Stmt Place)) : Branch Place :=
  .plain .block place (Stmt.branches body)

mutual

/-- A statement is laid out among its tokens. -/
theorem Statement.nested {text : List Token} {stmt : Stmt Place} :
    Statement text stmt → ∀ {first last : Nat}, Spread tokens first last text →
      Nested tokens first last [stmt.branch]
  | .declare writes, _, _, spread => writes.nested spread
  | .assign _ _ value _, first, last, spread => by
    obtain ⟨inside, starts, target, rest⟩ := spread.cons
    obtain ⟨_, equals, equalsStops, rest⟩ := rest.cons
    obtain ⟨_, valueSpread, stops, ends⟩ := rest.concat
    refine .single (.plain rfl) starts ?_ ends
    exact .construct (.word (.inl rfl) inside) (Nat.le_refl _) (.none target)
      ((value.nested valueSpread).widen (equals.trans equalsStops) stops)
  | .leave _ _, first, last, spread => by
    obtain ⟨_, starts, word, rest⟩ := spread.cons
    obtain ⟨_, after, stops, none⟩ := rest.cons
    exact .single (.plain rfl) starts (.none (word.trans (after.trans stops))) none.le
  | .leaveWith _ value _, first, last, spread => by
    obtain ⟨_, starts, word, rest⟩ := spread.cons
    obtain ⟨_, valueSpread, stops, ends⟩ := rest.concat
    exact .single (.plain rfl) starts ((value.nested valueSpread).widen word stops) ends
  | .evaluate value _, first, last, spread => by
    obtain ⟨inside, starts, word, rest⟩ := spread.cons
    obtain ⟨_, valueSpread, stops, ends⟩ := rest.concat
    have own := Spread.token inside (Nat.le_refl _) word valueSpread
    exact .single (.plain rfl) starts ((value.nested own).widen (Nat.le_refl _) stops) ends
  | .block writes, _, _, spread => writes.nested spread
  | .conditional writes, _, _, spread => writes.nested spread
  | .whileLoop _ test writes, first, last, spread => by
    obtain ⟨_, starts, word, rest⟩ := spread.cons
    obtain ⟨middle, testSpread, bodySpread⟩ := rest.append
    obtain ⟨bodyStarts, bodyStops, nested⟩ := (writes.nested bodySpread).tight
    refine .single (.plain rfl) starts ?_ bodyStops
    exact ((test.nested testSpread).widen word bodyStarts).append nested
  | .forLoop _ _ _ initial _ bound writes, first, last, spread => by
    obtain ⟨_, starts, word, rest⟩ := spread.cons
    obtain ⟨named, counter, counterStops, rest⟩ := rest.cons
    obtain ⟨_, inside, insideStops, rest⟩ := rest.cons
    obtain ⟨before, initialSpread, rest⟩ := rest.append
    obtain ⟨_, dots, dotsStops, rest⟩ := rest.cons
    obtain ⟨middle, boundSpread, bodySpread⟩ := rest.append
    obtain ⟨bodyStarts, bodyStops, nested⟩ := (writes.nested bodySpread).tight
    refine .single (.named rfl named) starts ?_ bodyStops
    have front := word.trans (counter.trans (counterStops.trans (inside.trans insideStops)))
    exact ((initial.nested initialSpread).widen front (dots.trans dotsStops)).append
      (((bound.nested boundSpread).widen (Nat.le_refl _) bodyStarts).append nested)

/-- A conditional is laid out among its tokens. -/
theorem Conditional.nested {text : List Token} {stmt : Stmt Place} :
    Conditional text stmt → ∀ {first last : Nat}, Spread tokens first last text →
      Nested tokens first last [stmt.branch]
  | .plain _ test writes, first, last, spread => by
    obtain ⟨_, starts, word, rest⟩ := spread.cons
    obtain ⟨middle, testSpread, bodySpread⟩ := rest.append
    obtain ⟨bodyStarts, bodyStops, nested⟩ := (writes.nested bodySpread).tight
    refine .single (.plain rfl) starts ?_ bodyStops
    exact ((test.nested testSpread).widen word bodyStarts).append nested
  | .otherwise _ test writes _ other, first, last, spread => by
    obtain ⟨_, starts, word, rest⟩ := spread.cons
    obtain ⟨middle, testSpread, rest⟩ := rest.append
    obtain ⟨later, bodySpread, rest⟩ := rest.append
    obtain ⟨_, elseStarts, elseStops, otherSpread⟩ := rest.cons
    obtain ⟨otherStarts, otherStops, otherNested⟩ := (other.nested otherSpread).tight
    refine .single (.plain rfl) starts ?_ otherStops
    exact ((test.nested testSpread).widen word (Nat.le_refl _)).append
      (((writes.nested bodySpread).widen (Nat.le_refl _)
        (elseStarts.trans (elseStops.trans otherStarts))).append otherNested)
  | .chained _ test writes _ next, first, last, spread => by
    obtain ⟨_, starts, word, rest⟩ := spread.cons
    obtain ⟨middle, testSpread, rest⟩ := rest.append
    obtain ⟨later, bodySpread, rest⟩ := rest.append
    obtain ⟨_, elseStarts, elseStops, nextSpread⟩ := rest.cons
    obtain ⟨nextStarts, nextStops, nextNested⟩ := (next.nested nextSpread).tight
    rw [Stmt.branch_note] at nextStarts nextStops nextNested
    refine .single (.plain rfl) starts ?_ nextStops
    exact ((test.nested testSpread).widen word (Nat.le_refl _)).append
      (((writes.nested bodySpread).widen (Nat.le_refl _)
        (elseStarts.trans (elseStops.trans nextStarts))).append nextNested)

/-- A block is laid out among its tokens. -/
theorem Block.nested {text : List Token} {place : Place} {body : List (Stmt Place)} :
    Block text place body → ∀ {first last : Nat}, Spread tokens first last text →
      Nested tokens first last [blockBranch place body]
  | .braces _ writes _, first, last, spread => by
    obtain ⟨_, starts, opened, rest⟩ := spread.cons
    obtain ⟨_, inner, closes, ends⟩ := rest.concat
    exact .single (.plain rfl) starts ((writes.nested inner).widen opened closes) ends

/-- Statements are laid out among their tokens. -/
theorem Statements.nested {text : List Token} {body : List (Stmt Place)} :
    Statements text body → ∀ {first last : Nat}, Spread tokens first last text →
      Nested tokens first last (Stmt.branches body)
  | .none, _, _, spread => .none spread.le
  | .some writes rest, first, last, spread => by
    obtain ⟨middle, own, others⟩ := spread.append
    exact (writes.nested own).append (rest.nested others)

end

/-- A parameter is laid out among its tokens. -/
theorem Parameter.nested {param : Param Place} (writes : Parameter text param)
    (spread : Spread tokens first last text) : Nested tokens first last [param.branch] := by
  cases writes with
  | typed _ _ written =>
    obtain ⟨named, starts, name, rest⟩ := spread.cons
    obtain ⟨_, colon, colonStops, rest⟩ := rest.cons
    obtain ⟨typeStarts, typeStops, nested⟩ := (written.nested rest).tight
    exact .single (.named rfl named) starts
      (nested.widen (name.trans (colon.trans (colonStops.trans typeStarts))) (Nat.le_refl _))
      typeStops

/-- Further parameters are laid out among their tokens. -/
theorem FurtherParameters.nested {params : List (Param Place)}
    (writes : FurtherParameters text params) (spread : Spread tokens first last text) :
    Nested tokens first last (params.map Param.branch) := by
  induction writes generalizing first with
  | none => exact .none spread.le
  | some _ written _ ih =>
    obtain ⟨_, starts, stops, after⟩ := spread.cons
    obtain ⟨middle, own, others⟩ := after.append
    exact ((written.nested own).append (ih others)).widen (starts.trans stops) (Nat.le_refl _)

/-- Parameters are laid out among their tokens. -/
theorem Parameters.nested {params : List (Param Place)} (writes : Parameters text params)
    (spread : Spread tokens first last text) :
    Nested tokens first last (params.map Param.branch) := by
  cases writes with
  | none => exact .none spread.le
  | some written rest =>
    obtain ⟨middle, own, others⟩ := spread.append
    exact (written.nested own).append (rest.nested others)

/-- A declaration is laid out among its tokens. -/
theorem Declared.nested {declared : Declaration Place} (writes : Declared text declared)
    (spread : Spread tokens first last text) : Nested tokens first last [declared.branch] := by
  cases writes with
  | function _ _ _ given _ typed braces =>
    obtain ⟨_, starts, word, rest⟩ := spread.cons
    obtain ⟨named, nameStarts, nameStops, rest⟩ := rest.cons
    obtain ⟨_, opens, opened, rest⟩ := rest.cons
    obtain ⟨before, givenSpread, rest⟩ := rest.append
    obtain ⟨_, closes, closed, rest⟩ := rest.cons
    obtain ⟨middle, typeSpread, bodySpread⟩ := rest.append
    obtain ⟨bodyStarts, bodyStops, nested⟩ := (braces.nested bodySpread).tight
    refine .single (.named rfl named) starts ?_ bodyStops
    have front := word.trans (nameStarts.trans (nameStops.trans (opens.trans opened)))
    exact (((given.nested givenSpread).widen front (closes.trans closed)).append
      ((typed.nested typeSpread).widen (Nat.le_refl _) bodyStarts)).append nested
  | binding writes => exact writes.nested spread

/-- Declarations are laid out among their tokens. -/
theorem Declarations.nested {declarations : List (Declaration Place)}
    (writes : Declarations text declarations) (spread : Spread tokens first last text) :
    Nested tokens first last (declarations.map Declaration.branch) := by
  induction writes generalizing first with
  | none => exact .none spread.le
  | some written _ ih =>
    obtain ⟨middle, own, others⟩ := spread.append
    exact (written.nested own).append (ih others)

/-- A program is laid out from its first token to the end of the text. -/
theorem Program.nested {file : Option String} {program : Lag.Program Place}
    (writes : Grammar.Program file text program) (spread : Spread tokens first last text) :
    Nested tokens first last [program.branch] ∧
      ∃ inner final, text = inner ++ [final] ∧ program.note.stop = final.span.stop := by
  cases writes with
  | @upToEnd inner final declarations written _ =>
    refine ⟨?_, inner, final, rfl, rfl⟩
    obtain ⟨_, before, stops, ends⟩ := spread.concat
    cases inner with
    | nil => exact .single (.plain rfl) before.le ((written.nested (.none stops))) ends
    | cons token inner =>
      obtain ⟨inside, starts, stop, rest⟩ := before.cons
      have own := Spread.token inside (Nat.le_refl _) stop rest
      exact .single (.plain rfl) starts ((written.nested own).widen (Nat.le_refl _) stops) ends

/-- Tokens that end before the next ones start lie one after another. -/
theorem Spread.of_pairwise (among : ∀ token ∈ text, token ∈ tokens)
    (forward : ∀ token ∈ text, token.span.start.offset ≤ token.span.stop.offset)
    (ordered : text.Pairwise fun one two => one.span.stop.offset ≤ two.span.start.offset)
    (starts : ∀ token ∈ text, first ≤ token.span.start.offset)
    (stops : ∀ token ∈ text, token.span.stop.offset ≤ last) (le : first ≤ last) :
    Spread tokens first last text := by
  induction text generalizing first with
  | nil => exact .none le
  | cons token text ih =>
    obtain ⟨inside, among⟩ := List.forall_mem_cons.1 among
    obtain ⟨own, forward⟩ := List.forall_mem_cons.1 forward
    obtain ⟨before, ordered⟩ := List.pairwise_cons.1 ordered
    obtain ⟨start, _⟩ := List.forall_mem_cons.1 starts
    obtain ⟨stop, stops⟩ := List.forall_mem_cons.1 stops
    exact .token inside start own (ih among forward ordered before stops stop)

end Grammar

/-! ## Programs of source texts -/

/-- The tokens of a text lie one after another between its ends. -/
theorem Scan.spread_scan {source : String} {file : Option String} {tokens : List Token}
    (scanned : Scan.scan source file = (tokens, none)) :
    Grammar.Spread tokens 0 source.toList.length tokens ∧
      (∀ token ∈ tokens, token.lexeme.toList =
        stretch source.toList token.span.start.offset token.span.stop.offset) ∧
      ∀ inner final, tokens = inner ++ [final] →
        final.span.stop.offset = source.toList.length := by
  have clean : (Scan.tokensFrom file {} source.toList).2 = none := by rw [← Scan.scan, scanned]
  have tiled := @Scan.tiled_tokensFrom file {} source.toList [] rfl clean
  have placed := (@Scan.placed_tokensFrom file {} source.toList [] rfl).1
  rw [← Scan.scan, scanned, List.nil_append] at tiled placed
  refine ⟨?_, fun token among => (tiled.lexemes token among).2, ?_⟩
  · exact .of_pairwise (fun _ among => among) (fun token among => (tiled.lexemes token among).1)
      tiled.ordered tiled.begins (fun token among => (placed token among).marks.stop.inside)
      (Nat.zero_le _)
  · rintro inner final rfl
    obtain ⟨others, last, same, _, _, _, _, stops⟩ := tiled.ends
    obtain ⟨_, same⟩ := List.append_inj' same rfl
    cases same
    exact stops

/-- The constructs of a program that is read are laid out among the tokens of its text, up to the
end of the text. -/
theorem Parse.nested_of_ofTokens {depth : Nat} {source : String} {file : Option String}
    {tokens : List Token} {tree : Program Node}
    (scanned : Scan.scan source file = (tokens, none))
    (read : Parse.ofTokens depth file tokens = .ok tree) :
    (∀ node, Branch.Occurs node tree.branch →
      Grammar.Made tokens (node.entry.noted Node.span) ∧
        Grammar.Nested tokens node.entry.note.span.start.offset node.entry.note.span.stop.offset
          (node.children.map (Branch.map (Entry.noted Node.span)))) ∧
      ∃ inner final, tokens = inner ++ [final] ∧ tree.note.span.stop = final.span.stop := by
  obtain ⟨program, writes, rfl⟩ := Parse.writes_of_ofTokens scanned read
  obtain ⟨nested, inner, final, split, stop⟩ := writes.nested (Scan.spread_scan scanned).1
  have same : program.number.branch.map (Entry.noted Node.span) = program.branch := by
    rw [← Program.branch_map, Program.number_map]
  constructor
  · intro node occurs
    have placed := occurs.map (Entry.noted Node.span)
    rw [same] at placed
    obtain ⟨made, parts⟩ := Grammar.Nested.of_occurs placed nested List.mem_cons_self
    rw [Branch.entry_map] at made parts
    rw [Branch.children_map] at parts
    exact ⟨made, parts⟩
  · have top := congrArg Branch.entry same
    rw [Branch.entry_map] at top
    have whole : program.number.note.span = program.note := congrArg Entry.note top
    exact ⟨inner, final, split, by rw [whole, stop]⟩

namespace Branch

/-- A construct of a text whose place lies around the places of its parts: it does not end before
its start, its parts lie inside it, each of them ends before the next ones start, and a construct
that is a single token is labelled with the stretch of the text that its place says. -/
structure Nests (text : List Char) (node : Branch Node) : Prop where
  /-- The start is not after the end. -/
  forward : node.entry.note.span.start.offset ≤ node.entry.note.span.stop.offset
  /-- The parts lie inside. -/
  inside : ∀ part ∈ node.children,
    node.entry.note.span.start.offset ≤ part.entry.note.span.start.offset ∧
      part.entry.note.span.stop.offset ≤ node.entry.note.span.stop.offset
  /-- The parts do not overlap, and stand in the order of their places. -/
  ordered : node.children.Pairwise fun one two =>
    one.entry.note.span.stop.offset ≤ two.entry.note.span.start.offset
  /-- A literal, a name and a written type are quoted from the text. -/
  quoted : node.entry.kind.isToken = true → ∃ label, node.entry.label = some label ∧
    label.toList =
      stretch text node.entry.note.span.start.offset node.entry.note.span.stop.offset

/-- A construct that was laid out among the tokens of a text nests. -/
theorem Nests.of_nested {text : List Char} {tokens : List Token} {node : Branch Node}
    (lexemes : ∀ token ∈ tokens,
      token.lexeme.toList = stretch text token.span.start.offset token.span.stop.offset)
    (made : Grammar.Made tokens (node.entry.noted Node.span))
    (nested : Grammar.Nested tokens node.entry.note.span.start.offset
      node.entry.note.span.stop.offset (node.children.map (map (Entry.noted Node.span)))) :
    node.Nests text where
  forward := nested.le
  inside part among := by
    have placed := (nested.of_mem (List.mem_map_of_mem among)).2.1
    rwa [entry_map] at placed
  ordered := by
    have ordered := List.pairwise_map.1 nested.pairwise
    simp only [entry_map] at ordered
    exact ordered
  quoted single := by
    obtain ⟨token, among, label, place⟩ := made.quoted single
    have place : node.entry.note.span = token.span := place
    rw [place]
    exact ⟨token.lexeme, label, lexemes token among⟩

end Branch

/-- Places nest. In the tree of every text that is read as a program, to whatever depth, the place
of a construct lies around the places of its parts, which stand one after another, and literals,
names and written types are what the text says at their places. The program ends where the text
ends. -/
theorem places_nest {depth : Nat} {source : String} {file : Option String} {tree : Program Node}
    (read : Program.ofTextWithin depth source file = .ok tree) :
    (∀ node, Branch.Occurs node tree.branch → node.Nests source.toList) ∧
      tree.note.span.stop.offset = source.toList.length := by
  obtain ⟨tokens, scanned, parsed⟩ := Program.ofTextWithin_eq_ok.1 read
  obtain ⟨_, lexemes, ends⟩ := Scan.spread_scan scanned
  obtain ⟨nested, inner, final, split, stop⟩ := Parse.nested_of_ofTokens scanned parsed
  constructor
  · intro node occurs
    obtain ⟨made, parts⟩ := nested node occurs
    exact .of_nested lexemes made parts
  · rw [stop]
    exact ends inner final split

/-- A callee in parentheses, a conditional that is chained, and what stands around them. -/
def chainedCalls : String :=
  "/* start */ fn f(n: int) -> int \x7b\n  if (n) < 1 \x7b return (0); \x7d\n" ++
    "  else if n == 1 \x7b return 1; \x7d else \x7b \x7d\n" ++
    "  return ((f))( -n, (2 + 3) * 4 ); // last\n\x7d // end"

/-- The places of a program nest, with comments around it and parentheses in it. -/
theorem places_nest_chained : ∃ tree, Program.ofTextWithin 40 chainedCalls none = .ok tree ∧
    (∀ node, Branch.Occurs node tree.branch → node.Nests chainedCalls.toList) ∧
      tree.note.span.stop.offset = chainedCalls.toList.length := by
  obtain ⟨tree, read, _⟩ : ∃ tree,
      Program.ofTextWithin 40 chainedCalls none = .ok tree ∧ true = true :=
    Program.exists_ofTextWithin (spelled_append (spelled_append rfl rfl) rfl) (by decide +kernel)
  exact ⟨tree, read, places_nest read⟩

end Lag
