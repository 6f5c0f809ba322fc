import Lag.Proofs.Typing.Passing

/-!
# Statements that pass

A well-typed statement passes its check, which gives the statement with the notes of the rules
alone and the scope that the rules give.
-/
namespace Lag.Check

open Typing

/-- A written type of values is that of the variable. -/
theorem gives_writtenType {type : TypeName Node} (value : type.type.isValue = true) (kind : Kind)
    (owner : Node) : Gives (writtenType type kind owner) type.type :=
  .whenFalse (ne_void_of_isValue value) (.pure _)

/-- A written type that is read again has no notes. -/
theorem map_trimmed_type (type : Option (TypeName Mark)) :
    (type.map (TypeName.map Mark.node)).map (TypeName.map Mark.bare) =
      type.map TypeName.trimmed := by
  cases type <;> rfl

/-- The last step of the check of a declaration adds its variable to the scope. -/
theorem gives_introduced {inModule : Bool} {table next : SymbolTable} {binding : Binding Mark}
    {type : Ty} (bound : binding.note.symbol = some (variableSymbol inModule binding type))
    (fresh : table.define? (variableSymbol inModule binding type) = some next)
    {written : Option (TypeName Mark)} (same : written = binding.type.map TypeName.trimmed)
    (refused : Checker (Binding Mark × SymbolTable)) :
    Gives
      (match table.define? (variableSymbol inModule binding type) with
        | some table =>
          pure ((⟨.bound binding.note.node (variableSymbol inModule binding type), binding.name,
            written, binding.value.trimmed⟩ : Binding Mark), table)
        | none => refused)
      (binding.trimmed, next) := by
  have noted : binding.note.ofDeclaration =
      .bound binding.note.node (variableSymbol inModule binding type) := by
    rw [Mark.ofDeclaration, bound]
    rfl
  rw [fresh, same, Binding.trimmed, noted]
  exact .pure _

/-- A well-typed declaration of a variable passes its check. -/
theorem gives_binding {inModule : Bool} {table next : SymbolTable} {binding : Binding Mark}
    (declares : Declares inModule table binding next) :
    Gives (Check.binding inModule table none (binding.map Mark.node)) (binding.trimmed, next) := by
  cases declares with
  | @intro type _ isValue written fits bound fresh =>
    unfold Check.binding
    simp only [Binding.map]
    refine .bind (.descend 1) ?_
    cases source : binding.type with
    | none =>
      -- Without a written type the first value gives the type, and is not converted.
      have plain : binding.value.note.widened = false := by simpa [source] using written
      cases fits with
      | same typed _ _ =>
        have given := gives_expr typed
        rw [Expr.narrow_of_plain plain] at given
        refine .bind given (.whenFalse (ne_void_of_isValue isValue) (.bind (.pure _) ?_))
        exact gives_introduced bound fresh (by rw [source]; rfl) _
      | widened _ converted =>
        rw [plain] at converted
        cases converted
      | any => cases isValue
    | some declared =>
      have same : declared.type = type := by simpa [source] using written
      subst same
      obtain ⟨found, typed, present, puts⟩ := gives_put fits
      refine .bind (gives_expr typed) (.whenFalse present (.bind (.pure _) ?_))
      refine .bind (gives_writtenType isValue _ _) (.bind (puts _ _ _ _) ?_)
      exact gives_introduced bound fresh (by rw [source]; rfl) _

/-- A well-typed assignment passes its check. -/
theorem gives_assignment {result : Ty} {table next : SymbolTable} {mark : Mark}
    {target : Ident Mark} {value : Expr Mark}
    (follows : Follows result table (.assign mark target value) next) :
    Gives (assignment table none mark.node (target.map Mark.node) (value.map Mark.node))
      (Stmt.assign mark target value).trimmed := by
  cases follows with
  | @assign _ _ _ _ symbol found readable changes bound noted fits =>
    obtain ⟨type, typed, _, puts⟩ := gives_put fits
    have search := Gives.find table target.name
    rw [found] at search
    have target' : target.map Mark.ofTarget =
        ⟨.full target.note.node symbol symbol.type, target.name⟩ := by
      rw [Ident.map, Mark.ofTarget, bound, noted]
      rfl
    rw [Stmt.trimmed, target']
    refine .bind (.descend 1) (.bind (gives_expr typed) (.bind search ?_))
    refine .whenFalse (by rw [readable]; exact Bool.false_ne_true) ?_
    refine .whenFalse (by rw [changes]; exact Bool.false_ne_true) ?_
    exact .bind (puts _ _ _ _) (.pure _)

/-- A test that is a truth value passes its check. -/
theorem gives_test {table : SymbolTable} {value : Expr Mark} (word : String)
    (truth : HasType table value .bool) (plain : value.note.widened = false) :
    Gives (test word table none (value.map Mark.node)) value.trimmed := by
  have given := gives_expr truth
  rw [Expr.narrow_of_plain plain] at given
  exact .bind (.descend 1) (.bind given (.pure _))

/-- A bound of a loop that is an integer passes its check. -/
theorem gives_bound {table : SymbolTable} {value : Expr Mark} (typed : HasType table value .int)
    (plain : value.note.widened = false) :
    Gives (Check.bound table none (value.map Mark.node)) value.trimmed := by
  have given := gives_expr typed
  rw [Expr.narrow_of_plain plain] at given
  exact .bind given (.pure _)

/-- A well-typed return passes its check. -/
theorem gives_leaving {result : Ty} {table next : SymbolTable} {mark : Mark} :
    ∀ {value : Option (Expr Mark)}, Follows result table (.leave mark value) next →
      Gives (leaving result table none mark.node (value.map (Expr.map Mark.node)))
        (Stmt.leave mark value).trimmed
  | none, follows => by
    cases follows with
    | leaveNothing void =>
      subst void
      exact .bind (.descend 1) (.pure _)
  | some value, follows => by
    cases follows with
    | leave valued fits =>
      obtain ⟨type, typed, _, puts⟩ := gives_put fits
      refine .bind (.descend 1) (.bind (gives_expr typed) (.whenFalse valued ?_))
      exact .bind (puts _ _ _ _) (.pure _)

/-- The scope around the body of a loop over integers holds its variable. -/
theorem around_eq {table around : SymbolTable} {mark : Mark} {counter : String}
    (fresh : (table.push "for").define? (counterSymbol mark counter) = some around) :
    ((table.push "for").define? (counterSymbol mark counter)).getD (table.push "for") = around := by
  rw [fresh]
  rfl

mutual

/-- A well-typed statement passes its check. -/
theorem gives_stmt {result : Ty} : ∀ (stmt : Stmt Mark) {table next : SymbolTable},
    Follows result table stmt next →
      Gives (Check.stmt result none table (stmt.map Mark.node)) (stmt.trimmed, next)
  | .declare binding, table, next, follows => by
    cases follows with
    | declare declared =>
      exact .bind (.descend 1) (.unlessFull (.bind (gives_binding declared) (.pure _)))
  | .assign mark target value, table, next, follows => by
    have given := gives_assignment follows
    cases follows
    exact .bind (.descend 1) (.unlessFull (.bind given (.pure _)))
  | .leave mark value, table, next, follows => by
    have given := gives_leaving follows
    cases follows <;> exact .bind (.descend 1) (.unlessFull (.bind given (.pure _)))
  | .evaluate mark value, table, next, follows => by
    cases follows with
    | evaluate typed plain =>
      have given := gives_expr typed
      rw [Expr.narrow_of_plain plain] at given
      exact .bind (.descend 1) (.unlessFull (.bind given (.pure _)))
  | .block mark body, table, next, follows => by
    cases follows with
    | block inside =>
      have body := gives_stmts body inside
      exact .bind (.descend 1) (.unlessFull (.bind (.descend 1) (.bind body (.pure _))))
  | .ifThen mark condition bodyMark body, table, next, follows => by
    cases follows with
    | ifThen truth plain inside =>
      have test := gives_test "if" truth plain
      have body := gives_stmts body inside
      refine .bind (.descend 1) (.unlessFull (.bind (.descend 1) ?_))
      exact .bind test (.bind (.descend 1) (.bind body (.pure _)))
  | .ifElse mark condition bodyMark body otherwise, table, next, follows => by
    cases follows with
    | ifElse truth plain inside branch other =>
      have test := gives_test "if" truth plain
      have body := gives_stmts body inside
      have other := gives_alternative otherwise branch other
      refine .bind (.descend 1) (.unlessFull (.bind (.descend 1) ?_))
      exact .bind test (.bind (.descend 1) (.bind body (.bind other (.pure _))))
  | .whileLoop mark condition bodyMark body, table, next, follows => by
    cases follows with
    | whileLoop truth plain inside =>
      have test := gives_test "while" truth plain
      have body := gives_stmts body inside
      refine .bind (.descend 1) (.unlessFull ?_)
      exact .bind test (.bind (.descend 1) (.bind body (.pure _)))
  | .forLoop mark counter first last bodyMark body, table, next, follows => by
    cases follows with
    | forLoop firstTyped firstPlain lastTyped lastPlain noted fresh inside =>
      have lower := gives_bound firstTyped firstPlain
      have upper := gives_bound lastTyped lastPlain
      have body := gives_stmts body inside
      rw [← around_eq fresh] at body
      have mark' : mark.ofDeclaration = .bound mark.node (counterSymbol mark counter) := by
        rw [Mark.ofDeclaration, noted]
        rfl
      rw [Stmt.trimmed, mark']
      refine .bind (.descend 1) (.unlessFull (.bind (.descend 1) ?_))
      exact .bind lower (.bind upper (.bind (.descend 1) (.bind body (.pure _))))

/-- What a conditional does when its test fails passes its check. -/
theorem gives_alternative {result : Ty} : ∀ (stmt : Stmt Mark) {table : SymbolTable},
    stmt.isBranch = true → Follows result table stmt table →
      Gives (alternative result none table (stmt.map Mark.node)) stmt.trimmed
  | .block mark body, table, _, follows => by
    cases follows with
    | block inside => exact .bind (.descend 1) (.bind (gives_stmts body inside) (.pure _))
  | .ifThen mark condition bodyMark body, table, _, follows => by
    cases follows with
    | ifThen truth plain inside =>
      have test := gives_test "if" truth plain
      have body := gives_stmts body inside
      exact .bind (.descend 1) (.bind test (.bind (.descend 1) (.bind body (.pure _))))
  | .ifElse mark condition bodyMark body otherwise, table, _, follows => by
    cases follows with
    | ifElse truth plain inside branch other =>
      have test := gives_test "if" truth plain
      have body := gives_stmts body inside
      have other := gives_alternative otherwise branch other
      refine .bind (.descend 1) (.bind test ?_)
      exact .bind (.descend 1) (.bind body (.bind other (.pure _)))
  | .declare _, _, branch, _ | .assign _ _ _, _, branch, _ | .leave _ _, _, branch, _
  | .evaluate _ _, _, branch, _ | .whileLoop _ _ _ _, _, branch, _
  | .forLoop _ _ _ _ _ _, _, branch, _ => by cases branch

/-- Well-typed statements pass their checks. -/
theorem gives_stmts {result : Ty} : ∀ (body : List (Stmt Mark)) {table : SymbolTable},
    Body result table body →
      Gives (Check.stmts result none table (Stmt.mapAll Mark.node body)) (Stmt.trimAll body)
  | [], table, _ => .pure _
  | stmt :: rest, table, follows => by
    cases follows with
    | cons first others =>
      exact .bind (gives_stmt stmt first) (.bind (gives_stmts rest others) (.pure _))

end

end Lag.Check
