import Lag.Proofs.Tree.Regular
import Lag.Tree.Branch
import Mathlib.Logic.Basic

/-!
# The generic form of trees

A tree in its generic form is changed entry by entry. Where only the notes of a program are changed,
so are only those of its generic form. A program that may have been read is the only one with its
generic form: from the kinds of constructs, their labels and their parts all of it is built again.
-/
namespace Lag

variable {α β : Type}

namespace Branch

mutual

/-- Change every entry of a tree. -/
def map (f : Entry α → Entry β) : Branch α → Branch β
  | ⟨entry, children⟩ => ⟨f entry, mapAll f children⟩

/-- Change every entry of some trees. -/
def mapAll (f : Entry α → Entry β) : List (Branch α) → List (Branch β)
  | [] => []
  | branch :: rest => branch.map f :: mapAll f rest

end

/-- Entries are changed one tree after the other. -/
theorem mapAll_eq (f : Entry α → Entry β) (branches : List (Branch α)) :
    mapAll f branches = branches.map (map f) := by
  induction branches with
  | nil => rfl
  | cons branch rest ih => rw [mapAll, ih, List.map_cons]

/-- The entry at the top of a changed tree. -/
theorem entry_map (f : Entry α → Entry β) (branch : Branch α) :
    (branch.map f).entry = f branch.entry := by
  cases branch
  rfl

/-- The children of the top of a changed tree. -/
theorem children_map (f : Entry α → Entry β) (branch : Branch α) :
    (branch.map f).children = branch.children.map (map f) := by
  cases branch
  exact mapAll_eq f _

/-- A construct occurs in a tree: it is the tree, or it occurs below it. -/
inductive Occurs (node : Branch α) : Branch α → Prop
  | here : Occurs node node
  | inside {entry : Entry α} {children : List (Branch α)} {child : Branch α} :
    child ∈ children → Occurs node child → Occurs node ⟨entry, children⟩

/-- What occurs in a tree occurs in the changed tree. -/
theorem Occurs.map {node tree : Branch α} (occurs : Occurs node tree) (f : Entry α → Entry β) :
    Occurs (node.map f) (tree.map f) := by
  induction occurs with
  | here => exact .here
  | @inside entry children child among _ ih =>
    refine .inside ?_ ih
    rw [mapAll_eq]
    exact List.mem_map_of_mem among

mutual

/-- Changes that agree on every construct of a tree give the same tree. -/
theorem map_map_of_occurs {γ : Type} {f : Entry α → Entry β} {g : Entry β → Entry γ}
    {h : Entry α → Entry γ} : ∀ tree : Branch α,
    (∀ node, Occurs node tree → g (f node.entry) = h node.entry) → (tree.map f).map g = tree.map h
  | ⟨entry, children⟩, agree => by
    have top : g (f entry) = h entry := agree _ .here
    rw [map, map, map, top, mapAll_mapAll_of_occurs children
      fun child part node occurs => agree node (.inside part occurs)]

/-- Changes that agree on every construct of some trees give the same trees. -/
theorem mapAll_mapAll_of_occurs {γ : Type} {f : Entry α → Entry β} {g : Entry β → Entry γ}
    {h : Entry α → Entry γ} : ∀ trees : List (Branch α),
    (∀ tree ∈ trees, ∀ node, Occurs node tree → g (f node.entry) = h node.entry) →
      mapAll g (mapAll f trees) = mapAll h trees
  | [], _ => rfl
  | tree :: rest, agree => by
    obtain ⟨own, others⟩ := List.forall_mem_cons.1 agree
    rw [mapAll, mapAll, mapAll, map_map_of_occurs tree own, mapAll_mapAll_of_occurs rest others]

end

end Branch

/-- An entry with another note. -/
def Entry.noted (f : α → β) (entry : Entry α) : Entry β := { entry with note := f entry.note }

section Notes

variable (f : α → β)

mutual

/-- The generic form of an expression with other notes. -/
theorem Expr.branch_map : ∀ expr : Expr α, (expr.map f).branch = expr.branch.map (Entry.noted f)
  | .literal _ _ _ | .read _ => rfl
  | .unary note op operand =>
    congrArg (fun branch => Branch.labelled .unary op.name (f note) [branch]) operand.branch_map
  | .binary note op left right =>
    congrArg₂ (fun one two => Branch.labelled .binary op.name (f note) [one, two])
      left.branch_map right.branch_map
  | .call note callee arguments =>
    congrArg (fun branches => Branch.plain .call (f note) ((callee.map f).branch :: branches))
      (Expr.branches_map arguments)

/-- The generic forms of expressions with other notes. -/
theorem Expr.branches_map : ∀ exprs : List (Expr α),
    Expr.branches (Expr.mapAll f exprs) = Branch.mapAll (Entry.noted f) (Expr.branches exprs)
  | [] => rfl
  | expr :: rest => congrArg₂ List.cons expr.branch_map (Expr.branches_map rest)

end

/-- The generic form of a declaration of a variable with other notes. -/
theorem Binding.branch_map (binding : Binding α) :
    (binding.map f).branch = binding.branch.map (Entry.noted f) := by
  obtain ⟨note, name, type, value⟩ := binding
  simp only [Binding.map, Binding.branch, Expr.branch_map]
  cases type <;> rfl

mutual

/-- The generic form of a statement with other notes. -/
theorem Stmt.branch_map : ∀ stmt : Stmt α, (stmt.map f).branch = stmt.branch.map (Entry.noted f)
  | .declare binding => binding.branch_map f
  | .assign _ _ _ | .evaluate _ _ => by
    simp only [Stmt.map, Stmt.branch, Expr.branch_map]
    rfl
  | .leave _ none => rfl
  | .leave _ (some _) => by
    simp only [Stmt.map, Stmt.branch, Option.map_some, Expr.branch_map]
    rfl
  | .block _ body => by
    simp only [Stmt.map, Stmt.branch, Stmt.branches_map body]
    rfl
  | .ifThen _ _ _ body | .whileLoop _ _ _ body | .forLoop _ _ _ _ _ body => by
    simp only [Stmt.map, Stmt.branch, Expr.branch_map, Stmt.branches_map body]
    rfl
  | .ifElse _ _ _ body otherwise => by
    simp only [Stmt.map, Stmt.branch, Expr.branch_map, Stmt.branches_map body,
      otherwise.branch_map]
    rfl

/-- The generic forms of statements with other notes. -/
theorem Stmt.branches_map : ∀ body : List (Stmt α),
    Stmt.branches (Stmt.mapAll f body) = Branch.mapAll (Entry.noted f) (Stmt.branches body)
  | [] => rfl
  | stmt :: rest => congrArg₂ List.cons stmt.branch_map (Stmt.branches_map rest)

end

/-- The generic form of a function with other notes. -/
theorem Function.branch_map (function : Function α) :
    (function.map f).branch = function.branch.map (Entry.noted f) := by
  obtain ⟨note, name, params, result, bodyNote, body⟩ := function
  have given : (params.map (Param.map f)).map Param.branch =
      (params.map Param.branch).map (Branch.map (Entry.noted f)) := by
    rw [List.map_map, List.map_map]
    rfl
  have returned : ((result.map (TypeName.map f)).map TypeName.branch).toList =
      (result.map TypeName.branch).toList.map (Branch.map (Entry.noted f)) := by
    cases result <;> rfl
  simp only [Function.map, Function.branch, Branch.labelled, Branch.plain, Branch.map,
    Branch.mapAll_eq, List.map_append, List.map_cons, List.map_nil, given, returned,
    Stmt.branches_map]
  rfl

/-- The generic form of a declaration with other notes. -/
theorem Declaration.branch_map (declaration : Declaration α) :
    (declaration.map f).branch = declaration.branch.map (Entry.noted f) := by
  cases declaration with
  | function declared => exact declared.branch_map f
  | binding declared => exact declared.branch_map f

/-- The generic form of a program with other notes. -/
theorem Program.branch_map (program : Program α) :
    (program.map f).branch = program.branch.map (Entry.noted f) := by
  simp only [Program.map, Program.branch, Branch.plain, Branch.map, Branch.mapAll_eq,
    List.map_map, Function.comp_def, Declaration.branch_map]
  rfl

end Notes

/-- The note at the top of the generic form of an expression is that of the expression. -/
theorem Expr.branch_note (expr : Expr α) : expr.branch.entry.note = expr.note := by
  cases expr <;> rfl

/-- The note at the top of the generic form of a statement is that of the statement. -/
theorem Stmt.branch_note (stmt : Stmt α) : stmt.branch.entry.note = stmt.note := by
  cases stmt <;> rfl

/-! ## Trees from their generic form -/

/-- The operator of one operand that is listed under a name. -/
def UnaryOp.ofName? (name : String) : Option UnaryOp :=
  [UnaryOp.not, .negate].find? fun op => op.name == name

/-- The operators of two operands. -/
def BinaryOp.all : List BinaryOp :=
  [.add, .subtract, .multiply, .divide, .remainder, .less, .greater, .lessEqual, .greaterEqual,
    .equal, .notEqual, .and, .or]

/-- The operator of two operands that is listed under a name. -/
def BinaryOp.ofName? (name : String) : Option BinaryOp := all.find? fun op => op.name == name

/-- The operator that is listed under the name of an operator of one operand. -/
theorem UnaryOp.ofName?_name (op : UnaryOp) : ofName? op.name = some op := by
  cases op <;> decide

/-- The operator that is listed under the name of an operator of two operands. -/
theorem BinaryOp.ofName?_name (op : BinaryOp) : ofName? op.name = some op := by
  cases op <;> decide

/-- The type that the name of a type stands for, if it can be written. -/
theorem Ty.ofName?_name {type : Ty} (written : type ∈ Ty.written) :
    Ty.ofName? type.name = some type := by
  simp only [Ty.written, List.mem_cons, List.not_mem_nil, or_false] at written
  rcases written with rfl | rfl | rfl | rfl | rfl <;> rfl

/-- The name with a generic form. -/
def Ident.ofBranch? : Branch α → Option (Ident α)
  | ⟨⟨.identifier, some name, _, note⟩, _⟩ => some ⟨note, name⟩
  | _ => none

/-- The written type with a generic form. -/
def TypeName.ofBranch? : Branch α → Option (TypeName α)
  | ⟨⟨.type, some name, _, note⟩, _⟩ => (Ty.ofName? name).map (⟨note, ·⟩)
  | _ => none

/-- The expression with an entry and with parts. -/
def Expr.ofEntry? : Entry α → List (Expr α) → Option (Expr α)
  | ⟨.literal, some lexeme, some value, note⟩, [] => some (.literal note value lexeme)
  | ⟨.identifier, some name, _, note⟩, [] => some (.read ⟨note, name⟩)
  | ⟨.unary, some name, _, note⟩, [operand] =>
    (UnaryOp.ofName? name).map (.unary note · operand)
  | ⟨.binary, some name, _, note⟩, [left, right] =>
    (BinaryOp.ofName? name).map (.binary note · left right)
  | ⟨.call, _, _, note⟩, .read callee :: arguments => some (.call note callee arguments)
  | _, _ => none

mutual

/-- The expression with a generic form. -/
def Expr.ofBranch? : Branch α → Option (Expr α)
  | ⟨entry, children⟩ => do Expr.ofEntry? entry (← Expr.ofBranches? children)

/-- The expressions with some generic forms. -/
def Expr.ofBranches? : List (Branch α) → Option (List (Expr α))
  | [] => some []
  | branch :: rest => do return (← Expr.ofBranch? branch) :: (← Expr.ofBranches? rest)

end

/-- The declaration of a variable with a generic form. -/
def Binding.ofBranch? : Branch α → Option (Binding α)
  | ⟨⟨.declare, some name, _, note⟩, [value]⟩ => do
    return ⟨note, name, none, ← Expr.ofBranch? value⟩
  | ⟨⟨.declare, some name, _, note⟩, [type, value]⟩ => do
    return ⟨note, name, some (← TypeName.ofBranch? type), ← Expr.ofBranch? value⟩
  | _ => none

mutual

/-- The statement with a generic form. -/
def Stmt.ofBranch? : Branch α → Option (Stmt α)
  | ⟨entry, children⟩ =>
    match entry.kind, children with
    | .declare, _ => (Binding.ofBranch? ⟨entry, children⟩).map .declare
    | .assign, [target, value] => do
      return .assign entry.note (← Ident.ofBranch? target) (← Expr.ofBranch? value)
    | .leave, [] => some (.leave entry.note none)
    | .leave, [value] => do return .leave entry.note (some (← Expr.ofBranch? value))
    | .evaluate, [value] => do return .evaluate entry.note (← Expr.ofBranch? value)
    | .block, body => do return .block entry.note (← Stmt.ofBranches? body)
    | .conditional, [test, ⟨inner, body⟩] => do
      return .ifThen entry.note (← Expr.ofBranch? test) inner.note (← Stmt.ofBranches? body)
    | .conditional, [test, ⟨inner, body⟩, otherwise] => do
      return .ifElse entry.note (← Expr.ofBranch? test) inner.note (← Stmt.ofBranches? body)
        (← Stmt.ofBranch? otherwise)
    | .whileLoop, [test, ⟨inner, body⟩] => do
      return .whileLoop entry.note (← Expr.ofBranch? test) inner.note (← Stmt.ofBranches? body)
    | .forLoop, [first, bound, ⟨inner, body⟩] => do
      return .forLoop entry.note (← entry.label) (← Expr.ofBranch? first)
        (← Expr.ofBranch? bound) inner.note (← Stmt.ofBranches? body)
    | _, _ => none

/-- The statements with some generic forms. -/
def Stmt.ofBranches? : List (Branch α) → Option (List (Stmt α))
  | [] => some []
  | branch :: rest => do return (← Stmt.ofBranch? branch) :: (← Stmt.ofBranches? rest)

end

/-- The parameter with a generic form. -/
def Param.ofBranch? : Branch α → Option (Param α)
  | ⟨⟨.param, some name, _, note⟩, [type]⟩ => do return ⟨note, name, ← TypeName.ofBranch? type⟩
  | _ => none

/-- The function with a generic form: its parameters come first, then the type of its result, if it
has one, and last its body. -/
def Function.ofBranch? : Branch α → Option (Function α)
  | ⟨⟨.function, some name, _, note⟩, children⟩ => do
    let ⟨block, body⟩ ← children.getLast?
    return ⟨note, name, children.filterMap Param.ofBranch?,
      (children.filterMap TypeName.ofBranch?).head?, block.note, ← Stmt.ofBranches? body⟩
  | _ => none

/-- The declaration with a generic form. -/
def Declaration.ofBranch? (branch : Branch α) : Option (Declaration α) :=
  match branch.entry.kind with
  | .function => (Function.ofBranch? branch).map .function
  | _ => (Binding.ofBranch? branch).map .binding

/-- The program of a file with a generic form. -/
def Program.ofBranch? (file : Option String) (branch : Branch α) : Option (Program α) := do
  return ⟨branch.entry.note, ← branch.children.mapM Declaration.ofBranch?, file⟩

/-- A written type has its generic form. -/
theorem TypeName.ofBranch?_branch {type : TypeName α} (regular : type.Regular) :
    TypeName.ofBranch? type.branch = some type := by
  show (Ty.ofName? type.type.name).map _ = _
  rw [Ty.ofName?_name regular]
  rfl

mutual

/-- An expression has its generic form. -/
theorem Expr.ofBranch?_branch : ∀ expr : Expr α, Expr.ofBranch? expr.branch = some expr
  | .literal _ _ _ | .read _ => rfl
  | .unary _ op operand => by
    simp only [Expr.branch, Branch.labelled, Expr.ofBranch?, Expr.ofBranches?,
      operand.ofBranch?_branch]
    show (UnaryOp.ofName? op.name).map _ = _
    rw [UnaryOp.ofName?_name]
    rfl
  | .binary _ op left right => by
    simp only [Expr.branch, Branch.labelled, Expr.ofBranch?, Expr.ofBranches?,
      left.ofBranch?_branch, right.ofBranch?_branch]
    show (BinaryOp.ofName? op.name).map _ = _
    rw [BinaryOp.ofName?_name]
    rfl
  | .call _ callee arguments => by
    simp only [Expr.branch, Branch.plain, Expr.ofBranch?, Expr.ofBranches?,
      Expr.ofBranches?_branches arguments]
    rfl

/-- Expressions have their generic forms. -/
theorem Expr.ofBranches?_branches :
    ∀ exprs : List (Expr α), Expr.ofBranches? (Expr.branches exprs) = some exprs
  | [] => rfl
  | expr :: rest => by
    simp only [Expr.branches, Expr.ofBranches?, expr.ofBranch?_branch,
      Expr.ofBranches?_branches rest]
    rfl

end

/-- A declaration of a variable has its generic form. -/
theorem Binding.ofBranch?_branch {binding : Binding α} (regular : binding.Regular) :
    Binding.ofBranch? binding.branch = some binding := by
  obtain ⟨note, name, type, value⟩ := binding
  cases type with
  | none =>
    show (do return ⟨note, name, none, ← Expr.ofBranch? value.branch⟩ : Option (Binding α)) = _
    rw [Expr.ofBranch?_branch]
    rfl
  | some type =>
    show (do return ⟨note, name, some (← TypeName.ofBranch? type.branch),
      ← Expr.ofBranch? value.branch⟩ : Option (Binding α)) = _
    rw [TypeName.ofBranch?_branch (regular.type type rfl), Expr.ofBranch?_branch]
    rfl

mutual

/-- A statement has its generic form. -/
theorem Stmt.ofBranch?_branch :
    ∀ stmt : Stmt α, stmt.Regular → Stmt.ofBranch? stmt.branch = some stmt
  | .declare binding, regular => by
    have whole := Binding.ofBranch?_branch regular
    show (Binding.ofBranch? binding.branch).map _ = _
    rw [whole]
    rfl
  | .assign _ _ _, _ | .evaluate _ _, _ | .leave _ (some _), _ => by
    simp only [Stmt.branch, Branch.plain, Stmt.ofBranch?, Option.map_some, Option.toList_some,
      Expr.ofBranch?_branch]
    rfl
  | .leave _ none, _ => rfl
  | .block _ body, regular => by
    simp only [Stmt.branch, Branch.plain, Stmt.ofBranch?, Stmt.ofBranches?_branches body regular]
    rfl
  | .ifThen _ _ _ body, ⟨_, regular⟩ | .whileLoop _ _ _ body, ⟨_, regular⟩
  | .forLoop _ _ _ _ _ body, ⟨_, _, _, regular⟩ => by
    simp only [Stmt.branch, Branch.plain, Branch.labelled, Stmt.ofBranch?, Expr.ofBranch?_branch,
      Stmt.ofBranches?_branches body regular]
    rfl
  | .ifElse _ _ _ body otherwise, ⟨_, regular, _, other⟩ => by
    simp only [Stmt.branch, Branch.plain, Stmt.ofBranch?, Expr.ofBranch?_branch,
      Stmt.ofBranches?_branches body regular, otherwise.ofBranch?_branch other]
    rfl

/-- Statements have their generic forms. -/
theorem Stmt.ofBranches?_branches :
    ∀ body : List (Stmt α), Stmt.AllRegular body → Stmt.ofBranches? (Stmt.branches body) = some body
  | [], _ => rfl
  | stmt :: rest, ⟨regular, others⟩ => by
    simp only [Stmt.branches, Stmt.ofBranches?, stmt.ofBranch?_branch regular,
      Stmt.ofBranches?_branches rest others]
    rfl

end

/-- A parameter has its generic form. -/
theorem Param.ofBranch?_branch {param : Param α} (regular : param.Regular) :
    Param.ofBranch? param.branch = some param := by
  show (do return ⟨param.note, param.name, ← TypeName.ofBranch? param.type.branch⟩ :
    Option (Param α)) = _
  rw [TypeName.ofBranch?_branch regular.type]
  rfl

/-- A function has its generic form. -/
theorem Function.ofBranch?_branch {function : Function α} (regular : function.Regular) :
    Function.ofBranch? function.branch = some function := by
  obtain ⟨note, name, params, result, bodyNote, body⟩ := function
  have given : (params.map Param.branch).filterMap Param.ofBranch? = params := by
    have each := regular.params
    clear regular
    induction params with
    | nil => rfl
    | cons param rest ih =>
      obtain ⟨own, others⟩ := List.forall_mem_cons.1 each
      rw [List.map_cons, List.filterMap_cons_some (Param.ofBranch?_branch own), ih others]
  have noTypes : (params.map Param.branch).filterMap TypeName.ofBranch? = [] := by
    rw [List.filterMap_eq_nil_iff]
    simp [Param.branch, Branch.labelled, TypeName.ofBranch?]
  have noParams : (result.map TypeName.branch).toList.filterMap Param.ofBranch? = [] := by
    cases result <;> rfl
  have returned : (result.map TypeName.branch).toList.filterMap TypeName.ofBranch? =
      result.toList := by
    cases result with
    | none => rfl
    | some type =>
      exact List.filterMap_cons_some (TypeName.ofBranch?_branch (regular.result type rfl))
  have noParam : [Branch.plain .block bodyNote (Stmt.branches body)].filterMap Param.ofBranch? =
      [] := rfl
  have noType : [Branch.plain .block bodyNote (Stmt.branches body)].filterMap TypeName.ofBranch? =
      [] := rfl
  simp only [Function.branch, Branch.labelled, Function.ofBranch?, List.getLast?_concat,
    List.filterMap_append, given, noTypes, noParams, returned, noParam, noType, List.nil_append,
    List.append_nil]
  show (do return ⟨note, name, params, _, bodyNote, ← Stmt.ofBranches? (Stmt.branches body)⟩ :
    Option (Function α)) = _
  rw [Stmt.ofBranches?_branches body regular.body]
  cases result <;> rfl

/-- A declaration has its generic form. -/
theorem Declaration.ofBranch?_branch {declaration : Declaration α}
    (regular : declaration.Regular) :
    Declaration.ofBranch? declaration.branch = some declaration := by
  cases declaration with
  | function declared =>
    show (Function.ofBranch? declared.branch).map _ = _
    rw [Function.ofBranch?_branch regular]
    rfl
  | binding declared =>
    show (Binding.ofBranch? declared.branch).map _ = _
    rw [Binding.ofBranch?_branch regular]
    rfl

/-- A program has its generic form. -/
theorem Program.ofBranch?_branch {program : Program α} (regular : program.Regular) :
    Program.ofBranch? program.file program.branch = some program := by
  obtain ⟨note, declarations, file⟩ := program
  have read : (declarations.map Declaration.branch).mapM Declaration.ofBranch? =
      some declarations := by
    induction declarations with
    | nil => rfl
    | cons declaration rest ih =>
      obtain ⟨own, others⟩ := List.forall_mem_cons.1 regular
      rw [List.map_cons, List.mapM_cons, Declaration.ofBranch?_branch own, ih others]
      rfl
  show (do return ⟨note, ← (declarations.map Declaration.branch).mapM Declaration.ofBranch?, file⟩ :
    Option (Program α)) = _
  rw [read]
  rfl

/-- Regular programs of one file with one generic form are the same. -/
theorem Program.eq_of_branch {one two : Program α} (regular : one.Regular)
    (otherRegular : two.Regular) (file : one.file = two.file) (same : one.branch = two.branch) :
    one = two := by
  have read := Program.ofBranch?_branch regular
  rw [file, same, Program.ofBranch?_branch otherRegular] at read
  exact (Option.some.inj read).symm

end Lag
