import Lag.Host.Lower
import Lag.Token.Scan
import Lag.Tree

/-!
# Trees that are read

A tree that was read from a text is regular: names that it declares are words of the text,
literals are values of tokens, a written type is one that can be written, and what follows a
failed test is a block or a further conditional. Notes play no part in that.
-/
namespace Lag

namespace Scan

/-- Whether a text is a name: it starts like one and goes on like one. -/
def IsName (name : String) : Prop :=
  ∃ first rest, name.toList = first :: rest ∧ isNameStart first = true ∧
    ∀ c ∈ rest, isNameChar c = true

/-- Whether a value is that of a token. -/
def IsWritten (value : Literal) : Prop :=
  ∃ first rest found, piece first rest = .ok found ∧ found.literal = some value

end Scan

variable {α β : Type}

/-- The functions among some declarations. -/
def functionsOf : List (Declaration α) → List (Function α)
  | [] => []
  | .function declared :: rest => declared :: functionsOf rest
  | .binding _ :: rest => functionsOf rest

/-- The variables among some declarations. -/
def bindingsOf : List (Declaration α) → List (Binding α)
  | [] => []
  | .function _ :: rest => bindingsOf rest
  | .binding declared :: rest => declared :: bindingsOf rest

/-- The functions among the declarations of a program are its functions. -/
theorem functionsOf_declarations (program : Program α) :
    functionsOf program.declarations = program.functions := by
  unfold Program.functions
  induction program.declarations with
  | nil => rfl
  | cons declaration rest ih =>
    cases declaration with
    | function declared =>
      rw [functionsOf, ih]
      rfl
    | binding declared =>
      rw [functionsOf, ih]
      rfl

/-- The variables among the declarations of a program are its variables. -/
theorem bindingsOf_declarations (program : Program α) :
    bindingsOf program.declarations = program.bindings := by
  unfold Program.bindings
  induction program.declarations with
  | nil => rfl
  | cons declaration rest ih =>
    cases declaration with
    | function declared =>
      rw [bindingsOf, ih]
      rfl
    | binding declared =>
      rw [bindingsOf, ih]
      rfl

/-- The functions among declarations are declared. -/
theorem mem_functionsOf {declarations : List (Declaration α)} {function : Function α} :
    function ∈ functionsOf declarations ↔ Declaration.function function ∈ declarations := by
  induction declarations with
  | nil => simp [functionsOf]
  | cons declaration rest ih => cases declaration <;> simp [functionsOf, ih]

/-- The variables among declarations are declared. -/
theorem mem_bindingsOf {declarations : List (Declaration α)} {binding : Binding α} :
    binding ∈ bindingsOf declarations ↔ Declaration.binding binding ∈ declarations := by
  induction declarations with
  | nil => simp [bindingsOf]
  | cons declaration rest ih => cases declaration <;> simp [bindingsOf, ih]

/-- The functions of a program are its declarations of functions. -/
theorem Program.mem_functions {program : Program α} {function : Function α} :
    function ∈ program.functions ↔ Declaration.function function ∈ program.declarations := by
  rw [← functionsOf_declarations, mem_functionsOf]

/-- The variables of a program are its declarations of variables. -/
theorem Program.mem_bindings {program : Program α} {binding : Binding α} :
    binding ∈ program.bindings ↔ Declaration.binding binding ∈ program.declarations := by
  rw [← bindingsOf_declarations, mem_bindingsOf]

/-- Whether a statement may stand after a failed test: a block or a conditional. -/
def Stmt.isBranch : Stmt α → Bool
  | .block _ _ | .ifThen _ _ _ _ | .ifElse _ _ _ _ _ => true
  | _ => false

/-- Notes do not decide whether a statement may stand after a failed test. -/
@[simp] theorem Stmt.isBranch_map (f : α → β) (stmt : Stmt α) :
    (stmt.map f).isBranch = stmt.isBranch := by
  cases stmt <;> rfl

mutual

/-- An expression whose literals are values of tokens. -/
def Expr.Regular : Expr α → Prop
  | .literal _ value _ => Scan.IsWritten value
  | .read _ => True
  | .unary _ _ operand => operand.Regular
  | .binary _ _ left right => left.Regular ∧ right.Regular
  | .call _ _ arguments => Expr.AllRegular arguments

/-- Expressions whose literals are values of tokens. -/
def Expr.AllRegular : List (Expr α) → Prop
  | [] => True
  | expr :: rest => expr.Regular ∧ Expr.AllRegular rest

end

/-- A written type that can be written. -/
def TypeName.Regular (type : TypeName α) : Prop := type.type ∈ Ty.written

/-- A declaration of a variable with a name, a type that can be written, and a regular value. -/
structure Binding.Regular (binding : Binding α) : Prop where
  /-- The name is one. -/
  name : Scan.IsName binding.name
  /-- The type can be written. -/
  type : ∀ type ∈ binding.type, type.Regular
  /-- The value is regular. -/
  value : binding.value.Regular

mutual

/-- A statement that may have been read. -/
def Stmt.Regular : Stmt α → Prop
  | .declare binding => binding.Regular
  | .assign _ _ value => value.Regular
  | .leave _ value => ∀ expr ∈ value, expr.Regular
  | .evaluate _ value => value.Regular
  | .block _ body => Stmt.AllRegular body
  | .ifThen _ test _ body => test.Regular ∧ Stmt.AllRegular body
  | .ifElse _ test _ body otherwise =>
    test.Regular ∧ Stmt.AllRegular body ∧ otherwise.isBranch = true ∧ otherwise.Regular
  | .whileLoop _ test _ body => test.Regular ∧ Stmt.AllRegular body
  | .forLoop _ counter first bound _ body =>
    Scan.IsName counter ∧ first.Regular ∧ bound.Regular ∧ Stmt.AllRegular body

/-- Statements that may have been read. -/
def Stmt.AllRegular : List (Stmt α) → Prop
  | [] => True
  | stmt :: rest => stmt.Regular ∧ Stmt.AllRegular rest

end

/-- A parameter with a name and a type that can be written. -/
structure Param.Regular (param : Param α) : Prop where
  /-- The name is one. -/
  name : Scan.IsName param.name
  /-- The type can be written. -/
  type : param.type.Regular

/-- A function that may have been read. -/
structure Function.Regular (function : Function α) : Prop where
  /-- The name is one. -/
  name : Scan.IsName function.name
  /-- The parameters may have been read. -/
  params : ∀ param ∈ function.params, param.Regular
  /-- The type of the result can be written. -/
  result : ∀ type ∈ function.result, type.Regular
  /-- The body may have been read. -/
  body : Stmt.AllRegular function.body

/-- A declaration that may have been read. -/
def Declaration.Regular : Declaration α → Prop
  | .function declared => declared.Regular
  | .binding declared => declared.Regular

/-- A program that may have been read. -/
def Program.Regular (program : Program α) : Prop :=
  ∀ declaration ∈ program.declarations, declaration.Regular

mutual

/-- Notes play no part in whether an expression is regular. -/
@[simp] theorem Expr.regular_map (f : α → β) :
    ∀ expr : Expr α, (expr.map f).Regular ↔ expr.Regular
  | .literal _ _ _ => Iff.rfl
  | .read _ => Iff.rfl
  | .unary _ _ operand => Expr.regular_map f operand
  | .binary _ _ left right => and_congr (Expr.regular_map f left) (Expr.regular_map f right)
  | .call _ _ arguments => Expr.allRegular_map f arguments

/-- Notes play no part in whether expressions are regular. -/
@[simp] theorem Expr.allRegular_map (f : α → β) :
    ∀ exprs : List (Expr α), Expr.AllRegular (Expr.mapAll f exprs) ↔ Expr.AllRegular exprs
  | [] => Iff.rfl
  | expr :: rest => and_congr (Expr.regular_map f expr) (Expr.allRegular_map f rest)

end

/-- Notes play no part in whether a type that may be written is regular. -/
theorem TypeName.regular_map? (f : α → β) (type : Option (TypeName α)) :
    (∀ given ∈ type.map (TypeName.map f), given.Regular) ↔ ∀ given ∈ type, given.Regular := by
  cases type with
  | none => simp
  | some type =>
    simp only [Option.map_some, Option.mem_def, Option.some.injEq, forall_eq']
    exact Iff.rfl

/-- Notes play no part in whether a declaration of a variable is regular. -/
@[simp] theorem Binding.regular_map (f : α → β) (binding : Binding α) :
    (binding.map f).Regular ↔ binding.Regular := by
  constructor
  · rintro ⟨name, type, value⟩
    exact ⟨name, (TypeName.regular_map? f _).1 type, (Expr.regular_map f _).1 value⟩
  · rintro ⟨name, type, value⟩
    exact ⟨name, (TypeName.regular_map? f _).2 type, (Expr.regular_map f _).2 value⟩

mutual

/-- Notes play no part in whether a statement is regular. -/
@[simp] theorem Stmt.regular_map (f : α → β) :
    ∀ stmt : Stmt α, (stmt.map f).Regular ↔ stmt.Regular
  | .declare binding => Binding.regular_map f binding
  | .assign _ _ value => Expr.regular_map f value
  | .leave _ none => by simp [Stmt.map, Stmt.Regular]
  | .leave _ (some value) => by simp [Stmt.map, Stmt.Regular]
  | .evaluate _ value => Expr.regular_map f value
  | .block _ body => Stmt.allRegular_map f body
  | .ifThen _ test _ body => and_congr (Expr.regular_map f test) (Stmt.allRegular_map f body)
  | .ifElse _ test _ body otherwise => by
    simp only [Stmt.map, Stmt.Regular, Expr.regular_map, Stmt.isBranch_map,
      Stmt.allRegular_map f body, Stmt.regular_map f otherwise]
  | .whileLoop _ test _ body => and_congr (Expr.regular_map f test) (Stmt.allRegular_map f body)
  | .forLoop _ _ first bound _ body =>
    and_congr Iff.rfl (and_congr (Expr.regular_map f first)
      (and_congr (Expr.regular_map f bound) (Stmt.allRegular_map f body)))

/-- Notes play no part in whether statements are regular. -/
@[simp] theorem Stmt.allRegular_map (f : α → β) :
    ∀ body : List (Stmt α), Stmt.AllRegular (Stmt.mapAll f body) ↔ Stmt.AllRegular body
  | [] => Iff.rfl
  | stmt :: rest => and_congr (Stmt.regular_map f stmt) (Stmt.allRegular_map f rest)

end

/-- Notes play no part in whether a function is regular. -/
@[simp] theorem Function.regular_map (f : α → β) (function : Function α) :
    (function.map f).Regular ↔ function.Regular := by
  have params : (∀ param ∈ function.params.map (Param.map f), param.Regular) ↔
      ∀ param ∈ function.params, param.Regular := by
    simp only [List.mem_map, forall_exists_index, and_imp, forall_apply_eq_imp_iff₂]
    exact forall₂_congr fun param _ => ⟨fun ⟨name, type⟩ => ⟨name, type⟩,
      fun ⟨name, type⟩ => ⟨name, type⟩⟩
  constructor
  · rintro ⟨name, takes, result, body⟩
    exact ⟨name, params.1 takes, (TypeName.regular_map? f _).1 result,
      (Stmt.allRegular_map f _).1 body⟩
  · rintro ⟨name, takes, result, body⟩
    exact ⟨name, params.2 takes, (TypeName.regular_map? f _).2 result,
      (Stmt.allRegular_map f _).2 body⟩

/-- Notes play no part in whether a declaration is regular. -/
@[simp] theorem Declaration.regular_map (f : α → β) (declaration : Declaration α) :
    (declaration.map f).Regular ↔ declaration.Regular := by
  cases declaration with
  | function declared => exact Function.regular_map f declared
  | binding declared => exact Binding.regular_map f declared

/-- Notes play no part in whether a program is regular. -/
@[simp] theorem Program.regular_map (f : α → β) (program : Program α) :
    (program.map f).Regular ↔ program.Regular := by
  simp [Program.Regular, Program.map]

/-! ## Lowered conditionals

A conditional is lowered to one statement. After its failed test stands a block, which becomes its
last body, or another conditional, which is lowered with it. -/

variable (names : Host.Names)

/-- A conditional with something after its failed test is lowered to one statement. -/
theorem Stmt.exists_lower_ifElse (mark : Mark) (test : Expr Mark) (bodyMark : Mark)
    (body : List (Stmt Mark)) (otherwise : Stmt Mark) :
    ∃ next, (Stmt.ifElse mark test bodyMark body otherwise).lower names = [next] := by
  cases otherwise with
  | block => exact ⟨_, rfl⟩
  | _ =>
    rw [Stmt.lower]
    · split <;> exact ⟨_, rfl⟩
    · intro _ _ impossible
      cases impossible

/-- What stands after a failed test is a block or is lowered to one statement. -/
theorem Stmt.lower_branch {stmt : Stmt Mark} (branch : stmt.isBranch = true) :
    (∃ mark body, stmt = .block mark body) ∨ ∃ next, stmt.lower names = [next] := by
  cases stmt with
  | block mark body => exact .inl ⟨mark, body, rfl⟩
  | ifThen => exact .inr ⟨_, rfl⟩
  | ifElse => exact .inr (Stmt.exists_lower_ifElse ..)
  | _ => cases branch

/-- A conditional is lowered with the conditional after its failed test, if that is not a block. -/
theorem Stmt.lower_ifElse {otherwise : Stmt Mark} (branch : otherwise.isBranch = true)
    (mark bodyMark : Mark) (test : Expr Mark) (body : List (Stmt Mark)) :
    (∃ note other, otherwise = .block note other) ∨ ∃ next, otherwise.lower names = [next] ∧
      (Stmt.ifElse mark test bodyMark body otherwise).lower names =
        [.ifElif (test.lower names) (Stmt.lowerAll names body) next] := by
  by_cases isBlock : ∃ note other, otherwise = .block note other
  · exact .inl isBlock
  · obtain ⟨next, single⟩ := (Stmt.lower_branch names branch).resolve_left isBlock
    refine .inr ⟨next, single, ?_⟩
    rw [Stmt.lower, single]
    exact fun note other same => isBlock ⟨note, other, same⟩

end Lag
