import Lag.Proofs.Tree.Regular
import Lag.Tree.Numbering

/-!
# Numbers of declarations

Numbering changes nothing but notes, and a number is taken once: the declarations of a program have
different numbers, in the order in which they are written.
-/
namespace Lag

variable {α β : Type}

mutual

/-- The numbers of the declarations in a statement, in order. -/
def Stmt.ids (number : α → Nat) : Stmt α → List Nat
  | .declare binding => [number binding.note]
  | .assign _ _ _ | .leave _ _ | .evaluate _ _ => []
  | .block _ body => Stmt.allIds number body
  | .ifThen _ _ _ body => Stmt.allIds number body
  | .ifElse _ _ _ body otherwise => Stmt.allIds number body ++ otherwise.ids number
  | .whileLoop _ _ _ body => Stmt.allIds number body
  | .forLoop note _ _ _ _ body => number note :: Stmt.allIds number body

/-- The numbers of the declarations in statements, in order. -/
def Stmt.allIds (number : α → Nat) : List (Stmt α) → List Nat
  | [] => []
  | stmt :: rest => stmt.ids number ++ Stmt.allIds number rest

end

/-- The numbers of the declarations in a function, with its own first. -/
def Function.ids (number : α → Nat) (function : Function α) : List Nat :=
  number function.note ::
    (function.params.map fun param => number param.note) ++ Stmt.allIds number function.body

/-- The numbers of the declarations in a declaration. -/
def Declaration.ids (number : α → Nat) : Declaration α → List Nat
  | .function declared => declared.ids number
  | .binding declared => [number declared.note]

/-- The numbers of the declarations in a program. -/
def Program.ids (number : α → Nat) (program : Program α) : List Nat :=
  program.declarations.flatMap (Declaration.ids number)

mutual

/-- The numbers of the declarations in a statement whose notes are changed. -/
theorem Stmt.ids_map (f : α → β) (number : β → Nat) :
    ∀ stmt : Stmt α, (stmt.map f).ids number = stmt.ids fun note => number (f note)
  | .declare _ | .assign _ _ _ | .leave _ _ | .evaluate _ _ => rfl
  | .block _ body => Stmt.allIds_map f number body
  | .ifThen _ _ _ body => Stmt.allIds_map f number body
  | .ifElse _ _ _ body otherwise => by
    rw [Stmt.map, Stmt.ids, Stmt.ids, Stmt.allIds_map f number body,
      Stmt.ids_map f number otherwise]
  | .whileLoop _ _ _ body => Stmt.allIds_map f number body
  | .forLoop _ _ _ _ _ body => congrArg (_ :: ·) (Stmt.allIds_map f number body)

/-- The numbers of the declarations in statements whose notes are changed. -/
theorem Stmt.allIds_map (f : α → β) (number : β → Nat) : ∀ body : List (Stmt α),
    Stmt.allIds number (Stmt.mapAll f body) = Stmt.allIds (fun note => number (f note)) body
  | [] => rfl
  | stmt :: rest => by
    rw [Stmt.mapAll, Stmt.allIds, Stmt.allIds, Stmt.ids_map f number stmt,
      Stmt.allIds_map f number rest]

end

/-- The numbers of the declarations in a program whose notes are changed. -/
theorem Program.ids_map (f : α → β) (number : β → Nat) (program : Program α) :
    (program.map f).ids number = program.ids fun note => number (f note) := by
  have each : ∀ declaration : Declaration α,
      (declaration.map f).ids number = declaration.ids fun note => number (f note) := by
    intro declaration
    cases declaration with
    | function declared =>
      simp only [Declaration.map, Declaration.ids, Function.ids, Function.map, List.map_map,
        Stmt.allIds_map]
      rfl
    | binding declared => rfl
  simp only [Program.ids, Program.map, List.flatMap_map, each]

/-- Numbers that are taken one after the other, from a first one up to a bound. -/
structure Taken (first : Nat) (ids : List Nat) (bound : Nat) : Prop where
  /-- The bound is not below the first number. -/
  le : first ≤ bound
  /-- The numbers ascend. -/
  ascends : ids.Pairwise (· < ·)
  /-- The numbers lie between the first one and the bound. -/
  between : ∀ id ∈ ids, first ≤ id ∧ id < bound

namespace Taken

/-- No numbers are taken. -/
theorem none {first bound : Nat} (le : first ≤ bound) : Taken first [] bound :=
  ⟨le, .nil, by simp⟩

/-- One number is taken. -/
theorem one {first bound : Nat} (lt : first < bound) : Taken first [first] bound :=
  ⟨Nat.le_of_lt lt, List.pairwise_singleton _ _, by simpa using lt⟩

/-- More numbers may be passed over before and after. -/
theorem widen {first bound first' bound' : Nat} {ids : List Nat} (taken : Taken first ids bound)
    (before : first' ≤ first) (after : bound ≤ bound') : Taken first' ids bound' := by
  refine ⟨by have := taken.le; omega, taken.ascends, fun id inside => ?_⟩
  have bounds := taken.between id inside
  omega

/-- Numbers are taken after others. -/
theorem append {first middle bound : Nat} {ids others : List Nat} (taken : Taken first ids middle)
    (later : Taken middle others bound) : Taken first (ids ++ others) bound := by
  refine ⟨Nat.le_trans taken.le later.le, ?_, fun id inside => ?_⟩
  · refine List.pairwise_append.2 ⟨taken.ascends, later.ascends, fun id inside other after => ?_⟩
    have below := taken.between id inside
    have above := later.between other after
    omega
  · rcases List.mem_append.1 inside with early | late
    · have bounds := taken.between id early
      have := later.le
      omega
    · have bounds := later.between id late
      have := taken.le
      omega

end Taken

/-- Numbering a written type changes nothing but its note. -/
theorem TypeName.number?_map (type : Option (TypeName Source.Span)) (next : Nat) :
    (TypeName.number? type next).1.map (TypeName.map Node.span) = type ∧
      next ≤ (TypeName.number? type next).2 := by
  cases type with
  | none => exact ⟨rfl, Nat.le_refl _⟩
  | some type => exact ⟨rfl, Nat.le_succ _⟩

mutual

/-- Numbering an expression changes nothing but notes. -/
theorem Expr.number_map : ∀ (expr : Expr Source.Span) (next : Nat),
    (expr.number next).1.map Node.span = expr ∧ next ≤ (expr.number next).2
  | .literal _ _ _, next => ⟨rfl, Nat.le_succ _⟩
  | .read _, next => ⟨rfl, Nat.le_succ _⟩
  | .unary span op operand, next => by
    obtain ⟨same, le⟩ := Expr.number_map operand (next + 1)
    refine ⟨?_, Nat.le_of_succ_le le⟩
    show Expr.unary span op ((operand.number (next + 1)).1.map Node.span) = _
    rw [same]
  | .binary span op left right, next => by
    obtain ⟨leftSame, leftLe⟩ := Expr.number_map left (next + 1)
    obtain ⟨rightSame, rightLe⟩ := Expr.number_map right (left.number (next + 1)).2
    refine ⟨?_, Nat.le_trans (Nat.le_of_succ_le leftLe) rightLe⟩
    show Expr.binary span op ((left.number (next + 1)).1.map Node.span)
      ((right.number (left.number (next + 1)).2).1.map Node.span) = _
    rw [leftSame, rightSame]
  | .call span callee arguments, next => by
    obtain ⟨same, le⟩ := Expr.numberAll_map arguments (next + 1 + 1)
    refine ⟨?_, Nat.le_of_succ_le (Nat.le_of_succ_le le)⟩
    show Expr.call span callee (Expr.mapAll Node.span (Expr.numberAll arguments (next + 1 + 1)).1) = _
    rw [same]

/-- Numbering expressions changes nothing but notes. -/
theorem Expr.numberAll_map : ∀ (exprs : List (Expr Source.Span)) (next : Nat),
    Expr.mapAll Node.span (Expr.numberAll exprs next).1 = exprs ∧
      next ≤ (Expr.numberAll exprs next).2
  | [], next => ⟨rfl, Nat.le_refl _⟩
  | expr :: rest, next => by
    obtain ⟨firstSame, firstLe⟩ := Expr.number_map expr next
    obtain ⟨restSame, restLe⟩ := Expr.numberAll_map rest (expr.number next).2
    refine ⟨?_, Nat.le_trans firstLe restLe⟩
    show (expr.number next).1.map Node.span ::
      Expr.mapAll Node.span (Expr.numberAll rest (expr.number next).2).1 = _
    rw [firstSame, restSame]

end

/-- Numbering a declaration of a variable changes nothing but notes, and its number comes first. -/
theorem Binding.number_map (binding : Binding Source.Span) (next : Nat) :
    (binding.number next).1.map Node.span = binding ∧
      Taken next [(binding.number next).1.note.id] (binding.number next).2 := by
  obtain ⟨typeSame, typeLe⟩ := TypeName.number?_map binding.type (next + 1)
  obtain ⟨same, le⟩ := Expr.number_map binding.value (TypeName.number? binding.type (next + 1)).2
  refine ⟨?_, Taken.one (Nat.le_trans typeLe le)⟩
  show Binding.mk binding.note binding.name
    ((TypeName.number? binding.type (next + 1)).1.map (TypeName.map Node.span))
    ((binding.value.number (TypeName.number? binding.type (next + 1)).2).1.map Node.span) = _
  rw [typeSame, same]

mutual

/-- Numbering a statement changes nothing but notes, and takes numbers in order. -/
theorem Stmt.number_map : ∀ (stmt : Stmt Source.Span) (next : Nat),
    (stmt.number next).1.map Node.span = stmt ∧
      Taken next ((stmt.number next).1.ids Node.id) (stmt.number next).2
  | .declare binding, next => by
    obtain ⟨same, taken⟩ := Binding.number_map binding next
    exact ⟨congrArg Stmt.declare same, taken⟩
  | .assign span target value, next => by
    obtain ⟨same, le⟩ := Expr.number_map value (next + 1 + 1)
    refine ⟨?_, .none (by show next ≤ (value.number (next + 1 + 1)).2; omega)⟩
    show Stmt.assign span target ((value.number (next + 1 + 1)).1.map Node.span) = _
    rw [same]
  | .leave span none, next => ⟨rfl, .none (Nat.le_succ _)⟩
  | .leave span (some value), next => by
    obtain ⟨same, le⟩ := Expr.number_map value (next + 1)
    refine ⟨?_, .none (Nat.le_of_succ_le le)⟩
    show Stmt.leave span (some ((value.number (next + 1)).1.map Node.span)) = _
    rw [same]
  | .evaluate span value, next => by
    obtain ⟨same, le⟩ := Expr.number_map value (next + 1)
    refine ⟨?_, .none (Nat.le_of_succ_le le)⟩
    show Stmt.evaluate span ((value.number (next + 1)).1.map Node.span) = _
    rw [same]
  | .block span body, next => by
    obtain ⟨same, taken⟩ := Stmt.numberAll_map body (next + 1)
    refine ⟨?_, taken.widen (Nat.le_succ _) (Nat.le_refl _)⟩
    show Stmt.block span (Stmt.mapAll Node.span (Stmt.numberAll body (next + 1)).1) = _
    rw [same]
  | .ifThen span test bodySpan body, next => by
    obtain ⟨testSame, testLe⟩ := Expr.number_map test (next + 1)
    obtain ⟨same, taken⟩ := Stmt.numberAll_map body ((test.number (next + 1)).2 + 1)
    refine ⟨?_, taken.widen (by omega) (Nat.le_refl _)⟩
    show Stmt.ifThen span ((test.number (next + 1)).1.map Node.span) bodySpan
      (Stmt.mapAll Node.span (Stmt.numberAll body ((test.number (next + 1)).2 + 1)).1) = _
    rw [testSame, same]
  | .ifElse span test bodySpan body otherwise, next => by
    obtain ⟨testSame, testLe⟩ := Expr.number_map test (next + 1)
    obtain ⟨same, taken⟩ := Stmt.numberAll_map body ((test.number (next + 1)).2 + 1)
    obtain ⟨otherSame, otherTaken⟩ :=
      Stmt.number_map otherwise (Stmt.numberAll body ((test.number (next + 1)).2 + 1)).2
    refine ⟨?_, (taken.append otherTaken).widen (by omega) (Nat.le_refl _)⟩
    show Stmt.ifElse span ((test.number (next + 1)).1.map Node.span) bodySpan
      (Stmt.mapAll Node.span (Stmt.numberAll body ((test.number (next + 1)).2 + 1)).1)
      ((otherwise.number (Stmt.numberAll body ((test.number (next + 1)).2 + 1)).2).1.map
        Node.span) = _
    rw [testSame, same, otherSame]
  | .whileLoop span test bodySpan body, next => by
    obtain ⟨testSame, testLe⟩ := Expr.number_map test (next + 1)
    obtain ⟨same, taken⟩ := Stmt.numberAll_map body ((test.number (next + 1)).2 + 1)
    refine ⟨?_, taken.widen (by omega) (Nat.le_refl _)⟩
    show Stmt.whileLoop span ((test.number (next + 1)).1.map Node.span) bodySpan
      (Stmt.mapAll Node.span (Stmt.numberAll body ((test.number (next + 1)).2 + 1)).1) = _
    rw [testSame, same]
  | .forLoop span counter first bound bodySpan body, next => by
    obtain ⟨firstSame, firstLe⟩ := Expr.number_map first (next + 1)
    obtain ⟨boundSame, boundLe⟩ := Expr.number_map bound (first.number (next + 1)).2
    obtain ⟨same, taken⟩ :=
      Stmt.numberAll_map body ((bound.number (first.number (next + 1)).2).2 + 1)
    refine ⟨?_, (Taken.one (by omega)).append taken⟩
    show Stmt.forLoop span counter ((first.number (next + 1)).1.map Node.span)
      ((bound.number (first.number (next + 1)).2).1.map Node.span) bodySpan
      (Stmt.mapAll Node.span
        (Stmt.numberAll body ((bound.number (first.number (next + 1)).2).2 + 1)).1) = _
    rw [firstSame, boundSame, same]

/-- Numbering statements changes nothing but notes, and takes numbers in order. -/
theorem Stmt.numberAll_map : ∀ (body : List (Stmt Source.Span)) (next : Nat),
    Stmt.mapAll Node.span (Stmt.numberAll body next).1 = body ∧
      Taken next (Stmt.allIds Node.id (Stmt.numberAll body next).1) (Stmt.numberAll body next).2
  | [], next => ⟨rfl, .none (Nat.le_refl _)⟩
  | stmt :: rest, next => by
    obtain ⟨firstSame, firstTaken⟩ := Stmt.number_map stmt next
    obtain ⟨restSame, restTaken⟩ := Stmt.numberAll_map rest (stmt.number next).2
    refine ⟨?_, firstTaken.append restTaken⟩
    show (stmt.number next).1.map Node.span ::
      Stmt.mapAll Node.span (Stmt.numberAll rest (stmt.number next).2).1 = _
    rw [firstSame, restSame]

end

/-- Numbering the elements of a list one after the other changes nothing but notes, and takes
numbers in order. -/
theorem numbered_mapM (item : α → StateM Nat β) (back : β → α) (ids : β → List Nat)
    (each : ∀ element next, back (item element next).1 = element ∧
      Taken next (ids (item element next).1) (item element next).2) :
    ∀ (list : List α) (next : Nat), (list.mapM item next).1.map back = list ∧
      Taken next ((list.mapM item next).1.flatMap ids) (list.mapM item next).2
  | [], next => ⟨rfl, .none (Nat.le_refl _)⟩
  | element :: rest, next => by
    obtain ⟨firstSame, firstTaken⟩ := each element next
    obtain ⟨restSame, restTaken⟩ := numbered_mapM item back ids each rest (item element next).2
    rw [List.mapM_cons]
    refine ⟨?_, firstTaken.append restTaken⟩
    show back (item element next).1 :: (rest.mapM item (item element next).2).1.map back = _
    rw [firstSame, restSame]

/-- Numbering a parameter changes nothing but notes, and takes its number. -/
theorem Param.number_map (param : Param Source.Span) (next : Nat) :
    (param.number next).1.map Node.span = param ∧
      Taken next [(param.number next).1.note.id] (param.number next).2 :=
  ⟨rfl, .one (Nat.lt_succ_of_lt (Nat.lt_succ_self _))⟩

/-- Numbering a function changes nothing but notes, and takes numbers in order. -/
theorem Function.number_map (function : Function Source.Span) (next : Nat) :
    (function.number next).1.map Node.span = function ∧
      Taken next ((function.number next).1.ids Node.id) (function.number next).2 := by
  obtain ⟨paramsSame, paramsTaken⟩ := numbered_mapM Param.number (Param.map Node.span)
    (fun param => [param.note.id]) Param.number_map function.params (next + 1)
  generalize takes : function.params.mapM Param.number (next + 1) = params at paramsSame paramsTaken
  obtain ⟨resultSame, resultLe⟩ := TypeName.number?_map function.result params.2
  generalize given : TypeName.number? function.result params.2 = result at resultSame resultLe
  obtain ⟨bodySame, bodyTaken⟩ := Stmt.numberAll_map function.body (result.2 + 1)
  have whole : function.number next = (⟨⟨function.note, next⟩, function.name, params.1, result.1,
      ⟨function.bodyNote, result.2⟩, (Stmt.numberAll function.body (result.2 + 1)).1⟩,
      (Stmt.numberAll function.body (result.2 + 1)).2) := by
    rw [← given, ← takes]
    rfl
  rw [whole]
  constructor
  · simp only [Function.map, paramsSame, resultSame, bodySame]
  · simp only [Function.ids, List.map_eq_flatMap]
    have own : Taken next [next] (next + 1) := .one (Nat.lt_succ_self _)
    exact (own.append paramsTaken).append (bodyTaken.widen (by omega) (Nat.le_refl _))

/-- Numbering a declaration changes nothing but notes, and takes numbers in order. -/
theorem Declaration.number_map (declaration : Declaration Source.Span) (next : Nat) :
    (declaration.number next).1.map Node.span = declaration ∧
      Taken next ((declaration.number next).1.ids Node.id) (declaration.number next).2 := by
  cases declaration with
  | function declared =>
    obtain ⟨same, taken⟩ := Function.number_map declared next
    exact ⟨congrArg Declaration.function same, taken⟩
  | binding declared =>
    obtain ⟨same, taken⟩ := Binding.number_map declared next
    exact ⟨congrArg Declaration.binding same, taken⟩

/-- Numbering a program changes nothing but notes. -/
theorem Program.number_map (program : Program Source.Span) :
    program.number.map Node.span = program := by
  obtain ⟨same, _⟩ := numbered_mapM Declaration.number (Declaration.map Node.span)
    (Declaration.ids Node.id) Declaration.number_map program.declarations 1
  show Program.mk program.note
    ((program.declarations.mapM Declaration.number 1).1.map (Declaration.map Node.span)) _ = _
  rw [same]
  rfl

/-- The declarations of a numbered program have ascending numbers. -/
theorem Program.number_ids (program : Program Source.Span) :
    (program.number.ids Node.id).Pairwise (· < ·) :=
  (numbered_mapM Declaration.number (Declaration.map Node.span) (Declaration.ids Node.id)
    Declaration.number_map program.declarations 1).2.ascends

end Lag
