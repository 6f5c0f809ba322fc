import Lag.Proofs.Typing.Expressions

/-!
# What a check of statements establishes

A check of statements without failures gives the statements that were checked, well typed in their
scope. The trees are regular: their types can be written, and a test that fails leads to a block
or a further conditional.
-/
namespace Lag.Check

open Typing

variable {limit : Nat}

/-- A written type that is not the absence of a value is one of values. -/
theorem isValue_of_written {type : TypeName Node} (regular : type.Regular)
    (present : type.type ≠ .void) : type.type.isValue = true := by
  have written : type.type ∈ [Ty.int, .float, .bool, .string, .void] := regular
  simp only [List.mem_cons, List.not_mem_nil, or_false] at written
  rcases written with same | same | same | same | same
  · rw [same]; rfl
  · rw [same]; rfl
  · rw [same]; rfl
  · rw [same]; rfl
  · exact absurd same present

/-- The type that is written for a variable or parameter is one of values. -/
theorem yields_writtenType (type : TypeName Node) (kind : Kind) (owner : Node) :
    Yields limit (writtenType type kind owner) fun found =>
      found = type.type ∧ (type.Regular → found.isValue = true) := by
  unfold writtenType
  by_cases void : type.type = .void
  · simp only [void, if_true]
    exact .reported fun _ => .pure trivial
  · simp only [void, if_false]
    exact .pure ⟨rfl, fun regular => isValue_of_written regular void⟩

/-- Notes on a written type can be taken off again. -/
theorem map_bare_type (type : Option (TypeName Node)) :
    (type.map (TypeName.map Mark.bare)).map (TypeName.map Mark.node) = type := by
  cases type <;> rfl

/-- The last step of the check of a declaration adds its variable to the scope. -/
theorem yields_introduced (inModule : Bool) (table : SymbolTable) (binding : Binding Node)
    (value : Expr Mark) (type : Ty) :
    let symbol : Symbol :=
      ⟨binding.name, .variable, type, true, inModule, some binding.note.id, none⟩
    let written := binding.type.map (TypeName.map Mark.bare)
    let place := binding.note.span
    Yields limit
      (match table.define? symbol with
        | some table =>
          pure ((⟨.bound binding.note symbol, binding.name, written, value⟩ : Binding Mark), table)
        | none => do
          report (.redeclared binding.name) place .declare place
          pure (⟨.bare binding.note, binding.name, written, value⟩, table))
      fun checked =>
        type.isValue = true →
          (binding.type.map (·.type) = some type ∨
            binding.type = none ∧ value.note.widened = false) →
          Fits table type value → value.map Mark.node = binding.value →
            Declares inModule table checked.1 checked.2 ∧ checked.1.map Mark.node = binding := by
  intro symbol written place
  cases fresh : table.define? symbol with
  | none => exact .reported fun _ => .pure trivial
  | some next =>
    refine .pure fun isValue source fits same => ⟨.intro isValue ?_ fits rfl fresh, ?_⟩
    · rcases source with source | ⟨none, plain⟩
      · left
        show (binding.type.map (TypeName.map Mark.bare)).map (·.type) = some type
        rw [Option.map_map]
        exact source
      · right
        exact ⟨by simp [written, none], plain⟩
    · simp only [Binding.map, same, written, map_bare_type]
      rfl

/-- A checked declaration of a variable is well typed, and it is the one that was checked. -/
theorem yields_binding (inModule : Bool) (table : SymbolTable) (depth : Depth)
    (binding : Binding Node) :
    Yields limit (Check.binding inModule table depth binding) fun checked =>
      table.Proper → binding.Regular →
        Declares inModule table checked.1 checked.2 ∧ checked.1.map Mark.node = binding := by
  unfold Check.binding
  refine .bind (.descend 1 depth) fun inner => ?_
  refine .bind (yields_expr inner binding.value) fun checked => ?_
  obtain ⟨value, found⟩ := checked
  refine .replaced fun type => ?_
  cases written : binding.type with
  | none =>
    simp only [pure_bind]
    have introduced := @yields_introduced limit inModule table binding value type
    simp only [written] at introduced
    refine introduced.mono fun _ holds present same known _ proper _ => ?_
    subst same
    have checked := known proper
    have isValue := (checked.typed.isValue_or_void proper).resolve_right present
    exact holds isValue (.inr ⟨trivial, checked.plain⟩) (.same checked.typed isValue checked.plain)
      checked.same
  | some written' =>
    refine .bind (yields_writtenType written' .declare binding.note) fun declared => ?_
    refine .bind (yields_put table declared (value, type) _ _ _ _) fun expr => ?_
    simp only [pure_bind]
    have introduced := @yields_introduced limit inModule table binding expr declared
    simp only [written] at introduced
    refine introduced.mono fun _ holds putFits named present same known _ proper regular => ?_
    subst same
    have checked := known proper
    obtain ⟨rfl, valued⟩ := named
    have isValue := valued (regular.type written' written)
    obtain ⟨fits, kept⟩ := putFits proper (.inl isValue) checked.toPlain
    exact holds isValue (.inl rfl) fits (kept.trans checked.same)

/-- A checked assignment is well typed, and it is the one that was checked. -/
theorem yields_assignment (result : Ty) (table : SymbolTable) (depth : Depth) (node : Node)
    (target : Ident Node) (value : Expr Node) :
    Yields limit (assignment table depth node target value) fun checked => table.Proper →
      Follows result table checked table ∧ checked.map Mark.node = .assign node target value := by
  unfold assignment
  refine .bind (.descend 1 depth) fun inner => ?_
  refine .bind (yields_expr inner value) fun checked => ?_
  refine .bind (.find table inner target.name) fun found => ?_
  cases found with
  | none => exact .reported fun _ => .pure trivial
  | some symbol =>
    by_cases callable : symbol.kind.isFunction = true
    · simp only [callable, if_true]
      exact .reported fun _ => .pure trivial
    · by_cases changes : symbol.mutable = true
      · simp only [callable, changes, Bool.not_true, Bool.false_eq_true, if_false]
        refine .bind (yields_put table symbol.type checked _ _ _ _) fun expr => ?_
        refine .pure fun putFits found known _ proper => ?_
        have checked := known proper
        have readable : symbol.kind.isFunction = false := by simpa using callable
        have isValue := ((proper.lookup? found).readable readable).1
        obtain ⟨fits, kept⟩ := putFits proper (.inl isValue) checked.toPlain
        refine ⟨.assign found readable changes rfl rfl fits, ?_⟩
        rw [Stmt.map, kept, checked.same]
        rfl
      · simp only [callable, changes, Bool.not_false, Bool.false_eq_true, if_false, if_true]
        exact .reported fun _ => .pure trivial

/-- A checked test is a truth value. -/
theorem yields_test (word : String) (table : SymbolTable) (depth : Depth) (value : Expr Node) :
    Yields limit (test word table depth value) fun checked => table.Proper →
      HasType table checked .bool ∧ checked.note.widened = false ∧
        checked.map Mark.node = value := by
  unfold test
  refine .bind (.descend 1 depth) fun inner => ?_
  refine .bind (yields_expr inner value) fun found => ?_
  refine Yields.requires (.report _ _ _ _) fun _ => .pure fun fits known _ proper => ?_
  have checked := known proper
  have sound := Ty.isError_of_isValue (checked.typed.isValue_or_void proper)
  have truth : found.2 = .bool := by simpa [sound] using fits
  exact ⟨truth ▸ checked.typed, checked.plain, checked.same⟩

/-- A checked bound of a loop is an integer. -/
theorem yields_bound (table : SymbolTable) (depth : Depth) (value : Expr Node) :
    Yields limit (Check.bound table depth value) fun checked => table.Proper →
      HasType table checked .int ∧ checked.note.widened = false ∧
        checked.map Mark.node = value := by
  unfold Check.bound
  refine .bind (yields_expr depth value) fun found => ?_
  refine Yields.requires (.report _ _ _ _) fun _ => .pure fun fits known proper => ?_
  have checked := known proper
  have sound := Ty.isError_of_isValue (checked.typed.isValue_or_void proper)
  have integer : found.2 = .int := by simpa [sound] using fits
  exact ⟨integer ▸ checked.typed, checked.plain, checked.same⟩

/-- A checked return fits the result of its function. -/
theorem yields_leaving (result : Ty) (table : SymbolTable) (depth : Depth) (node : Node)
    (value : Option (Expr Node)) :
    Yields limit (leaving result table depth node value) fun checked =>
      result.isValue = true ∨ result = .void → table.Proper →
        Follows result table checked table ∧ checked.map Mark.node = .leave node value := by
  cases value with
  | none =>
    unfold leaving
    refine .bind (.descend 1 depth) fun inner => ?_
    refine Yields.requires (.report _ _ _ _) fun _ => .pure fun void _ _ _ => ?_
    exact ⟨.leaveNothing (by simpa using void), rfl⟩
  | some value =>
    unfold leaving
    refine .bind (.descend 1 depth) fun inner => ?_
    refine .bind (yields_expr inner value) fun checked => ?_
    by_cases void : result = .void
    · simp only [void, if_true]
      exact .reported fun _ => .pure trivial
    · simp only [if_neg void]
      refine .bind (yields_put table result checked _ _ _ _) fun expr => ?_
      refine .pure fun putFits known _ holds proper => ?_
      have checked := known proper
      obtain ⟨fits, kept⟩ := putFits proper (.inl (holds.resolve_right void)) checked.toPlain
      refine ⟨.leave void fits, ?_⟩
      rw [Stmt.map, Option.map_some, kept, checked.same]
      rfl

mutual

/-- A checked statement is well typed, and it is the one that was checked. -/
theorem yields_stmt (positive : 0 < limit) (result : Ty) :
    ∀ (depth : Depth) (table : SymbolTable) (stmt : Stmt Node),
      Yields limit (Check.stmt result depth table stmt) fun checked =>
        result.isValue = true ∨ result = .void → table.Proper → stmt.Regular →
          Follows result table checked.1 checked.2 ∧ checked.1.map Mark.node = stmt
  | depth, table, .declare binding => by
    unfold Check.stmt
    refine .bind (.descend 1 depth) fun inner => ?_
    refine .unlessFull positive (.pure trivial) ?_
    refine .bind (yields_binding false table inner binding) fun checked => .pure ?_
    intro known _ holds proper regular
    obtain ⟨declares, same⟩ := known proper regular
    exact ⟨.declare declares, by rw [Stmt.map, same]⟩
  | depth, table, .assign node target value => by
    unfold Check.stmt
    refine .bind (.descend 1 depth) fun inner => ?_
    refine .unlessFull positive (.pure trivial) ?_
    refine .bind (yields_assignment result table inner node target value) fun checked => .pure ?_
    exact fun known _ _ proper _ => known proper
  | depth, table, .leave node value => by
    unfold Check.stmt
    refine .bind (.descend 1 depth) fun inner => ?_
    refine .unlessFull positive (.pure trivial) ?_
    refine .bind (yields_leaving result table inner node value) fun checked => .pure ?_
    exact fun known _ holds proper _ => known holds proper
  | depth, table, .evaluate node value => by
    unfold Check.stmt
    refine .bind (.descend 1 depth) fun inner => ?_
    refine .unlessFull positive (.pure trivial) ?_
    refine .bind (yields_expr inner value) fun checked => .pure ?_
    intro known _ _ proper _
    have checked := known proper
    exact ⟨.evaluate checked.typed checked.plain, by rw [Stmt.map, checked.same]; rfl⟩
  | depth, table, .block node body => by
    unfold Check.stmt
    refine .bind (.descend 1 depth) fun inner => ?_
    refine .unlessFull positive (.pure trivial) ?_
    refine .bind (.descend 1 inner) fun innermost => ?_
    refine .bind (yields_stmts positive result innermost (table.push "block") body)
      fun checked => .pure ?_
    intro known _ _ holds proper regular
    obtain ⟨inside, same⟩ := known holds (proper.push _) regular
    exact ⟨.block inside, by rw [Stmt.map, same]; rfl⟩
  | depth, table, .ifThen node condition bodyNode body => by
    unfold Check.stmt
    refine .bind (.descend 1 depth) fun inner => ?_
    refine .unlessFull positive (.pure trivial) ?_
    refine .bind (.descend 1 inner) fun inside => ?_
    refine .bind (yields_test "if" table inside condition) fun test => ?_
    refine .bind (.descend 1 inside) fun innermost => ?_
    refine .bind (yields_stmts positive result innermost (table.push "block") body)
      fun checked => .pure ?_
    intro known _ testKnown _ _ holds proper regular
    obtain ⟨truth, plain, testSame⟩ := testKnown proper
    obtain ⟨body, same⟩ := known holds (proper.push _) regular.2
    exact ⟨.ifThen truth plain body, by rw [Stmt.map, testSame, same]; rfl⟩
  | depth, table, .ifElse node condition bodyNode body otherwise => by
    unfold Check.stmt
    refine .bind (.descend 1 depth) fun inner => ?_
    refine .unlessFull positive (.pure trivial) ?_
    refine .bind (.descend 1 inner) fun inside => ?_
    refine .bind (yields_test "if" table inside condition) fun test => ?_
    refine .bind (.descend 1 inside) fun innermost => ?_
    refine .bind (yields_stmts positive result innermost (table.push "block") body)
      fun checked => ?_
    refine .bind (yields_alternative positive result inside table otherwise) fun other => .pure ?_
    intro otherKnown known _ testKnown _ _ holds proper regular
    obtain ⟨testRegular, bodyRegular, branch, otherRegular⟩ := regular
    obtain ⟨truth, plain, testSame⟩ := testKnown proper
    obtain ⟨body, same⟩ := known holds (proper.push _) bodyRegular
    obtain ⟨otherFollows, otherSame⟩ := otherKnown holds branch proper otherRegular
    refine ⟨.ifElse truth plain body ?_ otherFollows, ?_⟩
    · rw [← Stmt.isBranch_map Mark.node, otherSame]
      exact branch
    · rw [Stmt.map, testSame, same, otherSame]
      rfl
  | depth, table, .whileLoop node condition bodyNode body => by
    unfold Check.stmt
    refine .bind (.descend 1 depth) fun inner => ?_
    refine .unlessFull positive (.pure trivial) ?_
    refine .bind (yields_test "while" table inner condition) fun test => ?_
    refine .bind (.descend 1 inner) fun innermost => ?_
    refine .bind (yields_stmts positive result innermost (table.push "block") body)
      fun checked => .pure ?_
    intro known _ testKnown _ holds proper regular
    obtain ⟨truth, plain, testSame⟩ := testKnown proper
    obtain ⟨body, same⟩ := known holds (proper.push _) regular.2
    exact ⟨.whileLoop truth plain body, by rw [Stmt.map, testSame, same]; rfl⟩
  | depth, table, .forLoop node counter first last bodyNode body => by
    unfold Check.stmt
    refine .bind (.descend 1 depth) fun inner => ?_
    refine .unlessFull positive (.pure trivial) ?_
    refine .bind (.descend 1 inner) fun inside => ?_
    refine .bind (yields_bound table inside first) fun first' => ?_
    refine .bind (yields_bound table inside last) fun last' => ?_
    refine .bind (.descend 1 inside) fun innermost => ?_
    refine .bind (yields_stmts positive result innermost _ body) fun checked => .pure ?_
    intro known _ lastKnown firstKnown _ _ holds proper regular
    obtain ⟨_, _, _, bodyRegular⟩ := regular
    obtain ⟨firstTyped, firstPlain, firstSame⟩ := firstKnown proper
    obtain ⟨lastTyped, lastPlain, lastSame⟩ := lastKnown proper
    let mark : Mark := .bound node ⟨counter, .counter, .int, false, false, some node.id, none⟩
    -- The scope around a loop is new, so the variable of the loop finds room in it.
    have fresh : (table.push "for").define? (counterSymbol mark counter) =
        some ⟨⟨"for", [counterSymbol mark counter]⟩, (table.push "for").outer⟩ := rfl
    have around := (proper.push "for").define fresh (proper_counterSymbol mark counter)
    obtain ⟨body, same⟩ := known holds (around.push "block") bodyRegular
    refine ⟨.forLoop firstTyped firstPlain lastTyped lastPlain rfl fresh body, ?_⟩
    rw [Stmt.map, firstSame, lastSame, same]
    rfl

/-- What a conditional does when its test fails is well typed, and it is what was checked. -/
theorem yields_alternative (positive : 0 < limit) (result : Ty) :
    ∀ (depth : Depth) (table : SymbolTable) (stmt : Stmt Node),
      Yields limit (alternative result depth table stmt) fun checked =>
        result.isValue = true ∨ result = .void → stmt.isBranch = true → table.Proper →
          stmt.Regular →
          Follows result table checked table ∧ checked.map Mark.node = stmt
  | depth, table, .ifThen node condition bodyNode body => by
    unfold alternative
    refine .bind (.descend 1 depth) fun inside => ?_
    refine .bind (yields_test "if" table inside condition) fun test => ?_
    refine .bind (.descend 1 inside) fun innermost => ?_
    refine .bind (yields_stmts positive result innermost (table.push "block") body)
      fun checked => .pure ?_
    intro known _ testKnown _ holds _ proper regular
    obtain ⟨truth, plain, testSame⟩ := testKnown proper
    obtain ⟨body, same⟩ := known holds (proper.push _) regular.2
    exact ⟨.ifThen truth plain body, by rw [Stmt.map, testSame, same]; rfl⟩
  | depth, table, .ifElse node condition bodyNode body otherwise => by
    unfold alternative
    refine .bind (.descend 1 depth) fun inside => ?_
    refine .bind (yields_test "if" table inside condition) fun test => ?_
    refine .bind (.descend 1 inside) fun innermost => ?_
    refine .bind (yields_stmts positive result innermost (table.push "block") body)
      fun checked => ?_
    refine .bind (yields_alternative positive result inside table otherwise) fun other => .pure ?_
    intro otherKnown known _ testKnown _ holds _ proper regular
    obtain ⟨testRegular, bodyRegular, branch, otherRegular⟩ := regular
    obtain ⟨truth, plain, testSame⟩ := testKnown proper
    obtain ⟨body, same⟩ := known holds (proper.push _) bodyRegular
    obtain ⟨otherFollows, otherSame⟩ := otherKnown holds branch proper otherRegular
    refine ⟨.ifElse truth plain body ?_ otherFollows, ?_⟩
    · rw [← Stmt.isBranch_map Mark.node, otherSame]
      exact branch
    · rw [Stmt.map, testSame, same, otherSame]
      rfl
  | depth, table, .block node body => by
    unfold alternative
    refine .bind (.descend 1 depth) fun innermost => ?_
    refine .bind (yields_stmts positive result innermost (table.push "block") body)
      fun checked => .pure ?_
    intro known _ holds _ proper regular
    obtain ⟨inside, same⟩ := known holds (proper.push _) regular
    exact ⟨.block inside, by rw [Stmt.map, same]; rfl⟩
  | _, _, .declare _ | _, _, .assign _ _ _ | _, _, .leave _ _ | _, _, .evaluate _ _
  | _, _, .whileLoop _ _ _ _ | _, _, .forLoop _ _ _ _ _ _ => by
    unfold alternative
    exact .pure fun _ branch => nomatch branch

/-- Checked statements are well typed, and they are the ones that were checked. -/
theorem yields_stmts (positive : 0 < limit) (result : Ty) :
    ∀ (depth : Depth) (table : SymbolTable) (body : List (Stmt Node)),
      Yields limit (Check.stmts result depth table body) fun checked =>
        result.isValue = true ∨ result = .void → table.Proper → Stmt.AllRegular body →
          Body result table checked ∧ Stmt.mapAll Mark.node checked = body
  | _, _, [] => by
    unfold Check.stmts
    exact .pure fun _ _ _ => ⟨.nil, rfl⟩
  | depth, table, first :: rest => by
    unfold Check.stmts
    refine .bind (yields_stmt positive result depth table first) fun checked => ?_
    obtain ⟨first', next⟩ := checked
    refine .bind (yields_stmts positive result depth next rest) fun others => .pure ?_
    intro restKnown firstKnown holds proper regular
    obtain ⟨follows, firstSame⟩ := firstKnown holds proper regular.1
    obtain ⟨body, restSame⟩ := restKnown holds (follows.proper proper) regular.2
    refine ⟨.cons follows body, ?_⟩
    rw [Stmt.mapAll, firstSame, restSame]

end

end Lag.Check
