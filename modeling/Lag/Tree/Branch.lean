import Lag.Tree

/-!
# The generic form of a tree

Every construct has a kind, sometimes a label, and children in the order in which they are
written. `Branch` is a tree in that form; the outline, the list of all nodes and the comparison of
shapes are functions on it.
-/
namespace Lag

/-- The kinds of constructs. -/
inductive Kind where
  /-- A program. -/
  | program
  /-- A function. -/
  | function
  /-- A parameter. -/
  | param
  /-- A written type. -/
  | type
  /-- A declaration of a variable. -/
  | declare
  /-- An assignment. -/
  | assign
  /-- A return. -/
  | leave
  /-- An expression that is a statement. -/
  | evaluate
  /-- A block. -/
  | block
  /-- A conditional. -/
  | conditional
  /-- A loop with a test. -/
  | whileLoop
  /-- A loop over integers. -/
  | forLoop
  /-- A literal. -/
  | literal
  /-- A name. -/
  | identifier
  /-- An operator between two operands. -/
  | binary
  /-- An operator in front of an operand. -/
  | unary
  /-- A call. -/
  | call
  deriving DecidableEq, Repr, Inhabited

/-- The name under which a kind is listed. -/
def Kind.name : Kind → String
  | .program => "Program"
  | .function => "Function"
  | .param => "Param"
  | .type => "Type"
  | .declare => "Let"
  | .assign => "Assign"
  | .leave => "Return"
  | .evaluate => "ExprStmt"
  | .block => "Block"
  | .conditional => "If"
  | .whileLoop => "While"
  | .forLoop => "For"
  | .literal => "Literal"
  | .identifier => "Identifier"
  | .binary => "Binary"
  | .unary => "Unary"
  | .call => "Call"

/-- What a construct is, without its children. -/
structure Entry (α : Type) where
  /-- Its kind. -/
  kind : Kind
  /-- The name, operator or lexeme that belongs to it. -/
  label : Option String
  /-- What it stands for, when it is a literal. -/
  literal : Option Literal
  /-- Its note. -/
  note : α
  deriving Repr, Inhabited

/-- A tree in its generic form. -/
inductive Branch (α : Type) where
  /-- A construct and its children. -/
  | mk (entry : Entry α) (children : List (Branch α))
  deriving Repr, Inhabited

variable {α : Type}

/-- A construct with a label. -/
def Branch.labelled (kind : Kind) (label : String) (note : α) (children : List (Branch α)) :
    Branch α := ⟨⟨kind, some label, none, note⟩, children⟩

/-- A construct without a label. -/
def Branch.plain (kind : Kind) (note : α) (children : List (Branch α)) : Branch α :=
  ⟨⟨kind, none, none, note⟩, children⟩

/-- What the top of a tree is. -/
def Branch.entry : Branch α → Entry α
  | ⟨entry, _⟩ => entry

/-- The children of the top of a tree. -/
def Branch.children : Branch α → List (Branch α)
  | ⟨_, children⟩ => children

/-- The generic form of a name. -/
def Ident.branch (ident : Ident α) : Branch α := .labelled .identifier ident.name ident.note []

/-- The generic form of a written type. -/
def TypeName.branch (type : TypeName α) : Branch α := .labelled .type type.type.name type.note []

mutual

/-- The generic form of an expression. -/
def Expr.branch : Expr α → Branch α
  | .literal note value lexeme => ⟨⟨.literal, some lexeme, some value, note⟩, []⟩
  | .read ident => ident.branch
  | .unary note op operand => .labelled .unary op.name note [operand.branch]
  | .binary note op left right => .labelled .binary op.name note [left.branch, right.branch]
  | .call note callee arguments => .plain .call note (callee.branch :: Expr.branches arguments)

/-- The generic forms of expressions. -/
def Expr.branches : List (Expr α) → List (Branch α)
  | [] => []
  | expr :: rest => expr.branch :: Expr.branches rest

end

/-- The generic form of a declaration of a variable. -/
def Binding.branch (binding : Binding α) : Branch α :=
  .labelled .declare binding.name binding.note
    ((binding.type.map TypeName.branch).toList ++ [binding.value.branch])

mutual

/-- The generic form of a statement. -/
def Stmt.branch : Stmt α → Branch α
  | .declare binding => binding.branch
  | .assign note target value => .plain .assign note [target.branch, value.branch]
  | .leave note value => .plain .leave note (value.map Expr.branch).toList
  | .evaluate note value => .plain .evaluate note [value.branch]
  | .block note body => .plain .block note (Stmt.branches body)
  | .ifThen note test bodyNote body =>
    .plain .conditional note [test.branch, .plain .block bodyNote (Stmt.branches body)]
  | .ifElse note test bodyNote body otherwise =>
    .plain .conditional note
      [test.branch, .plain .block bodyNote (Stmt.branches body), otherwise.branch]
  | .whileLoop note test bodyNote body =>
    .plain .whileLoop note [test.branch, .plain .block bodyNote (Stmt.branches body)]
  | .forLoop note counter first bound bodyNote body =>
    .labelled .forLoop counter note
      [first.branch, bound.branch, .plain .block bodyNote (Stmt.branches body)]

/-- The generic forms of statements. -/
def Stmt.branches : List (Stmt α) → List (Branch α)
  | [] => []
  | stmt :: rest => stmt.branch :: Stmt.branches rest

end

/-- The generic form of a parameter. -/
def Param.branch (param : Param α) : Branch α :=
  .labelled .param param.name param.note [param.type.branch]

/-- The generic form of a function. -/
def Function.branch (function : Function α) : Branch α :=
  .labelled .function function.name function.note
    (function.params.map Param.branch ++ (function.result.map TypeName.branch).toList ++
      [.plain .block function.bodyNote (Stmt.branches function.body)])

/-- The generic form of a declaration. -/
def Declaration.branch : Declaration α → Branch α
  | .function declared => declared.branch
  | .binding declared => declared.branch

/-- The generic form of a program. -/
def Program.branch (program : Program α) : Branch α :=
  .plain .program program.note (program.declarations.map Declaration.branch)

namespace Branch

mutual

/-- All constructs of a tree, each with its number of children, before some others. -/
def entriesOnto : Branch α → List (Entry α × Nat) → List (Entry α × Nat)
  | ⟨entry, children⟩, others => (entry, children.length) :: entriesAllOnto children others

/-- All constructs of some trees, before some others. -/
def entriesAllOnto : List (Branch α) → List (Entry α × Nat) → List (Entry α × Nat)
  | [], others => others
  | branch :: rest, others => branch.entriesOnto (entriesAllOnto rest others)

end

/-- All constructs of a tree, each before its children and with their number. -/
def entries (branch : Branch α) : List (Entry α × Nat) := branch.entriesOnto []

/-- The lexeme of a literal, none of any other construct. -/
def lexeme (branch : Branch α) : Option String :=
  match branch.entry.kind with
  | .literal => branch.entry.label
  | _ => none

mutual

/-- Whether two trees have the same shape: the same kinds and lexemes in the same places. -/
def sameShape : Branch α → Branch α → Bool
  | ⟨entry, children⟩, ⟨entry', children'⟩ =>
    entry.kind == entry'.kind &&
      (lexeme ⟨entry, []⟩ == lexeme ⟨entry', []⟩) && sameShapes children children'

/-- Whether two lists of trees have the same shapes. -/
def sameShapes : List (Branch α) → List (Branch α) → Bool
  | [], [] => true
  | branch :: rest, branch' :: rest' => branch.sameShape branch' && sameShapes rest rest'
  | _, _ => false

end

/-- The line of a construct in an outline. A depth below zero is no depth. -/
def line (depth : Int) (entry : Entry α) : String :=
  let label := match entry.label with
    | some label => " " ++ label
    | none => ""
  String.ofList (List.replicate (2 * depth).toNat ' ') ++ entry.kind.name ++ label

mutual

/-- The lines of an outline, before some others. -/
def linesOnto (depth : Int) : Branch α → List String → List String
  | ⟨entry, children⟩, others => line depth entry :: linesAllOnto (depth + 1) children others

/-- The lines of some outlines, before some others. -/
def linesAllOnto (depth : Int) : List (Branch α) → List String → List String
  | [], others => others
  | branch :: rest, others => linesOnto depth branch (linesAllOnto depth rest others)

end

/-- The outline of a tree: a line for each construct, indented by its depth. -/
def outline (depth : Int) (branch : Branch α) : String :=
  "\n".intercalate (branch.linesOnto depth [])

end Branch

end Lag
