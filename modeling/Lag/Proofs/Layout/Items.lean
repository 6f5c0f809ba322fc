import Lag.Proofs.Layout.Lines
import Lag.Proofs.Limits.Named
import Lag.Proofs.Writing.Statements

/-!
# Statements are read back

What a statement is written as is said from its tree: a block is its statements, and a chain of
conditionals is one conditional with all tests of the chain. The outline of the lowered statement is
read as that.
-/
namespace Lag

open Host (Item Names Outline Part fillOutline isWord)

/-! ## What statements are written as -/

/-- A body, which is never empty. -/
def Host.fillItems (items : List Item) : List Item := if items.isEmpty then [.pass] else items

/-- The text of an expression in the host module. -/
def Expr.hostText (names : Names) (expr : Expr Mark) : String := (expr.lower names).toText

mutual

/-- The host statements that a statement is written as: a block is its statements. -/
def Stmt.items (names : Names) : Stmt Mark → List Item
  | .declare binding =>
    [.assign (binding.note.lower names binding.name) (binding.value.hostText names)]
  | .assign _ target value => [.assign (target.lower names) (value.hostText names)]
  | .leave _ none => [.leave none]
  | .leave _ (some value) => [.leave (some (value.hostText names))]
  | .evaluate _ value => [.evaluate (value.hostText names)]
  | .block _ body => Stmt.itemsAll names body
  | .ifThen _ test _ body =>
    [.conditional [(test.hostText names, Host.fillItems (Stmt.itemsAll names body))] []]
  | .ifElse _ test _ body otherwise =>
    [.conditional ((test.hostText names, Host.fillItems (Stmt.itemsAll names body)) ::
      otherwise.arms names) (otherwise.last names)]
  | .whileLoop _ test _ body =>
    [.whileLoop (test.hostText names) (Host.fillItems (Stmt.itemsAll names body))]
  | .forLoop mark counter first bound _ body =>
    [.forLoop (mark.lower names counter) (first.hostText names ++ ", " ++ bound.hostText names)
      (Host.fillItems (Stmt.itemsAll names body))]

/-- The tests with their bodies of a conditional after a failed test. -/
def Stmt.arms (names : Names) : Stmt Mark → List (String × List Item)
  | .ifThen _ test _ body =>
    [(test.hostText names, Host.fillItems (Stmt.itemsAll names body))]
  | .ifElse _ test _ body otherwise =>
    (test.hostText names, Host.fillItems (Stmt.itemsAll names body)) :: otherwise.arms names
  | _ => []

/-- The body after all tests, which is empty if there is none, of what stands after a failed
test. -/
def Stmt.last (names : Names) : Stmt Mark → List Item
  | .block _ body => Host.fillItems (Stmt.itemsAll names body)
  | .ifElse _ _ _ _ otherwise => otherwise.last names
  | _ => []

/-- The host statements that statements are written as. -/
def Stmt.itemsAll (names : Names) : List (Stmt Mark) → List Item
  | [] => []
  | stmt :: rest => stmt.items names ++ Stmt.itemsAll names rest

end

/-- A block after a failed test has no further tests. -/
theorem Stmt.arms_block (names : Names) (mark : Mark) (body : List (Stmt Mark)) :
    (Stmt.block mark body).arms names = [] := rfl

mutual

/-- A statement is lowered to nothing if it is written as nothing. -/
theorem Stmt.lower_eq_nil (names : Names) : ∀ stmt : Stmt Mark,
    stmt.lower names = [] ↔ stmt.items names = []
  | .block _ body => Stmt.lowerAll_eq_nil names body
  | .ifElse mark test bodyMark body otherwise => by
    obtain ⟨next, single⟩ := Stmt.exists_lower_ifElse names mark test bodyMark body otherwise
    rw [single]
    exact iff_of_false (List.cons_ne_nil _ _) (List.cons_ne_nil _ _)
  | .leave _ none | .leave _ (some _) => iff_of_false (List.cons_ne_nil _ _) (List.cons_ne_nil _ _)
  | .declare _ | .assign _ _ _ | .evaluate _ _ | .ifThen _ _ _ _ | .whileLoop _ _ _ _
  | .forLoop _ _ _ _ _ _ => iff_of_false (List.cons_ne_nil _ _) (List.cons_ne_nil _ _)

/-- Statements are lowered to nothing if they are written as nothing. -/
theorem Stmt.lowerAll_eq_nil (names : Names) : ∀ body : List (Stmt Mark),
    Stmt.lowerAll names body = [] ↔ Stmt.itemsAll names body = []
  | [] => iff_of_true rfl rfl
  | stmt :: rest => by
    rw [Stmt.lowerAll, Stmt.itemsAll, List.append_eq_nil_iff, List.append_eq_nil_iff,
      stmt.lower_eq_nil names, Stmt.lowerAll_eq_nil names rest]

end

/-- Statements have no outline if there are none. -/
theorem Host.Stmt.outlineAll_eq_nil (stmts : List Host.Stmt) :
    Host.Stmt.outlineAll stmts = [] ↔ stmts = [] := by
  cases stmts with
  | nil => exact iff_of_true rfl rfl
  | cons stmt rest =>
    have some := (stmt.lines_ne_nil "if" 0 0).2
    exact iff_of_false (List.append_ne_nil_of_left_ne_nil some _) (List.cons_ne_nil _ _)

/-- Outlines of statements follow one another. -/
theorem Host.Stmt.outlineAll_append (first second : List Host.Stmt) :
    Host.Stmt.outlineAll (first ++ second) =
      Host.Stmt.outlineAll first ++ Host.Stmt.outlineAll second := by
  induction first with
  | nil => rfl
  | cons stmt first ih => rw [List.cons_append, outlineAll, outlineAll, ih, List.append_assoc]

/-! ## Reading outlines -/

namespace Host.Outline

/-- A line is read as its statement. -/
theorem part?_line {text : String} {item : Item} (reads : Item.ofText? text = some item) :
    (line text).part? = some (.item item) := by
  rw [part?, reads]
  rfl

/-- A line that owns a body is read from its text and what the body is read as. -/
theorem part?_suite {body : List Outline} {items : List Item}
    (reads : pending? body = some { items }) (header : String) :
    (suite header body).part? = Part.ofHeader? header items := by
  rw [part?, reads]
  rfl

section

variable {first : Outline} {rest : List Outline} {items : List Item}

/-- The part in front is taken up. -/
theorem pending?_cons {part : Part} {pending : Pending} (isPart : first.part? = some part)
    (reads : pending? rest = some pending) : pending? (first :: rest) = pending.add part := by
  rw [pending?, isPart, reads]
  rfl

/-- A statement is taken up in front of others. -/
theorem pending?_item {item : Item} (isPart : first.part? = some (.item item))
    (reads : pending? rest = some { items }) :
    pending? (first :: rest) = some { items := item :: items } :=
  pending?_cons isPart reads

/-- A last body is taken up in front of statements. -/
theorem pending?_last {body : List Item} (isPart : first.part? = some (.last body))
    (reads : pending? rest = some { items }) :
    pending? (first :: rest) = some { otherwise := body, items } :=
  pending?_cons isPart reads

/-- A further test is taken up in front of others. -/
theorem pending?_further {test : String} {body last : List Item} {arms : List (String × List Item)}
    (isPart : first.part? = some (.further test body))
    (reads : pending? rest = some ⟨arms, last, items⟩) :
    pending? (first :: rest) = some ⟨(test, body) :: arms, last, items⟩ :=
  pending?_cons isPart reads

/-- A first test makes a conditional of what comes after it. -/
theorem pending?_first {test : String} {body last : List Item} {arms : List (String × List Item)}
    (isPart : first.part? = some (.first test body))
    (reads : pending? rest = some ⟨arms, last, items⟩) :
    pending? (first :: rest) =
      some { items := .conditional ((test, body) :: arms) last :: items } :=
  pending?_cons isPart reads

end

/-- A body is read with a statement that does nothing if it is empty. -/
theorem pending?_fill {body : List Outline} {items : List Item}
    (same : body = [] ↔ items = []) (reads : pending? body = some { items }) :
    pending? (fillOutline body) = some { items := fillItems items } := by
  unfold fillOutline fillItems
  simp only [List.isEmpty_iff, same]
  split
  · have pass : (line "pass").part? = some (.item .pass) := part?_line rfl
    exact pending?_item pass (by rw [pending?])
  · exact reads

end Host.Outline

/-- The outline of what stands after a failed test. -/
def Stmt.branchOutline (names : Names) : Stmt Mark → List Outline
  | .block _ body => [.suite "else" (fillOutline (Host.Stmt.outlineAll (Stmt.lowerAll names body)))]
  | stmt => (stmt.lower names).flatMap (·.outline "elif")

/-- A conditional is lowered to one statement, and its outline goes on with that of what stands
after its test. -/
theorem Stmt.outline_ifElse (names : Names) {otherwise : Stmt Mark}
    (branch : otherwise.isBranch = true) (mark bodyMark : Mark) (test : Expr Mark)
    (body : List (Stmt Mark)) :
    ∃ stmt, (Stmt.ifElse mark test bodyMark body otherwise).lower names = [stmt] ∧ ∀ word,
      stmt.outline word = .suite (word ++ " " ++ test.hostText names)
        (fillOutline (Host.Stmt.outlineAll (Stmt.lowerAll names body))) ::
          otherwise.branchOutline names := by
  cases otherwise with
  | block => exact ⟨_, rfl, fun _ => rfl⟩
  | ifThen | ifElse =>
    obtain ⟨next, single, chained⟩ := (Stmt.lower_ifElse names branch mark bodyMark test
      body).resolve_left (by rintro ⟨_, _, ⟨⟩⟩)
    refine ⟨_, chained, fun word => ?_⟩
    rw [branchOutline, single, List.flatMap_singleton]
    · rfl
    · exact fun _ _ impossible => by cases impossible
  | _ => cases branch

section

variable (names : Names)

/-- The outline of a lowered body is read as a body if that of its statements is read as theirs. -/
theorem Stmt.body_read {body : List (Stmt Mark)}
    (reads : ∀ {rest : List Outline} {others : List Item},
      Outline.pending? rest = some { items := others } →
        Outline.pending? (Host.Stmt.outlineAll (Stmt.lowerAll names body) ++ rest) =
          some { items := Stmt.itemsAll names body ++ others }) :
    Outline.pending? (fillOutline (Host.Stmt.outlineAll (Stmt.lowerAll names body))) =
      some { items := Host.fillItems (Stmt.itemsAll names body) } := by
  have inside := @reads [] [] (by rw [Outline.pending?])
  rw [List.append_nil, List.append_nil] at inside
  exact Outline.pending?_fill
    ((Host.Stmt.outlineAll_eq_nil _).trans (Stmt.lowerAll_eq_nil names body)) inside

mutual

/-- The outline of a lowered statement is read as what the statement is written as. -/
theorem Stmt.items_read : ∀ stmt : Stmt Mark, stmt.Regular →
    (∀ name ∈ Host.Stmt.allNames (stmt.lower names), isWord name = true) →
      ∀ {rest : List Outline} {others : List Item},
        Outline.pending? rest = some { items := others } →
          Outline.pending? (Host.Stmt.outlineAll (stmt.lower names) ++ rest) =
            some { items := stmt.items names ++ others }
  | .declare binding, _, named, _, _, reads => by
    obtain ⟨isName, others⟩ := List.forall_mem_cons.1 (List.forall_mem_append.1 named).1
    have value := (binding.value.lower names).isExpression others
    exact Outline.pending?_item (Outline.part?_line (Item.ofText?_assign isName value)) reads
  | .assign _ target value, _, named, _, _, reads => by
    obtain ⟨isName, others⟩ := List.forall_mem_cons.1 (List.forall_mem_append.1 named).1
    have isExpression := (value.lower names).isExpression others
    exact Outline.pending?_item (Outline.part?_line (Item.ofText?_assign isName isExpression)) reads
  | .leave _ none, _, _, _, _, reads => by
    have leave : Item.ofText? "return" = some (.leave none) := rfl
    exact Outline.pending?_item (Outline.part?_line leave) reads
  | .leave _ (some value), _, _, _, _, reads =>
    Outline.pending?_item (Outline.part?_line (Item.ofText?_leave _)) reads
  | .evaluate _ value, _, named, _, _, reads => by
    have isExpression := (value.lower names).isExpression (List.forall_mem_append.1 named).1
    exact Outline.pending?_item (Outline.part?_line (Item.ofText?_evaluate isExpression)) reads
  | .block _ body, regular, named, _, _, reads => Stmt.itemsAll_read body regular named reads
  | .ifThen _ test _ body, regular, named, _, _, reads => by
    obtain ⟨_, bodyNamed⟩ := List.forall_mem_append.1 (List.forall_mem_append.1 named).1
    have inside := Stmt.body_read names (Stmt.itemsAll_read body regular.2 bodyNamed)
    have part := (Outline.part?_suite inside _).trans (Part.ofHeader?_if (test.hostText names) _)
    exact Outline.pending?_first part reads
  | .ifElse mark test bodyMark body otherwise, regular, named, _, _, reads => by
    rw [Stmt.names_lower_ifElse] at named
    obtain ⟨before, otherNamed⟩ := List.forall_mem_append.1 named
    obtain ⟨_, bodyNamed⟩ := List.forall_mem_append.1 before
    obtain ⟨stmt, single, outlined⟩ :=
      Stmt.outline_ifElse names regular.2.2.1 mark bodyMark test body
    have inside := Stmt.body_read names (Stmt.itemsAll_read body regular.2.1 bodyNamed)
    have part := (Outline.part?_suite inside _).trans (Part.ofHeader?_if (test.hostText names) _)
    have further := Stmt.branch_read otherwise regular.2.2.2 regular.2.2.1 otherNamed reads
    rw [single, Host.Stmt.outlineAll, Host.Stmt.outlineAll, List.append_nil, outlined,
      List.cons_append]
    exact Outline.pending?_first part further
  | .whileLoop _ test _ body, regular, named, _, _, reads => by
    obtain ⟨_, bodyNamed⟩ := List.forall_mem_append.1 (List.forall_mem_append.1 named).1
    have inside := Stmt.body_read names (Stmt.itemsAll_read body regular.2 bodyNamed)
    have part := (Outline.part?_suite inside _).trans (Part.ofHeader?_while (test.hostText names) _)
    exact Outline.pending?_item part reads
  | .forLoop mark counter first bound _ body, regular, named, _, _, reads => by
    obtain ⟨isName, others⟩ := List.forall_mem_cons.1 (List.forall_mem_append.1 named).1
    obtain ⟨_, bodyNamed⟩ := List.forall_mem_append.1 others
    have inside := Stmt.body_read names (Stmt.itemsAll_read body regular.2.2.2 bodyNamed)
    have part := (Outline.part?_suite inside _).trans
      (Part.ofHeader?_for isName (first.hostText names) (bound.hostText names) _)
    exact Outline.pending?_item part reads

/-- The outline of what stands after a failed test is read as its tests and its last body. -/
theorem Stmt.branch_read : ∀ stmt : Stmt Mark, stmt.Regular → stmt.isBranch = true →
    (∀ name ∈ Host.Stmt.allNames (stmt.lower names), isWord name = true) →
      ∀ {rest : List Outline} {others : List Item},
        Outline.pending? rest = some { items := others } →
          Outline.pending? (stmt.branchOutline names ++ rest) =
            some ⟨stmt.arms names, stmt.last names, others⟩
  | .block _ body, regular, _, named, _, _, reads => by
    have inside := Stmt.body_read names (Stmt.itemsAll_read body regular named)
    have part := (Outline.part?_suite inside "else").trans (Part.ofHeader?_else _)
    rw [branchOutline, arms_block, last]
    exact Outline.pending?_last part reads
  | .ifThen _ test _ body, regular, _, named, _, _, reads => by
    obtain ⟨_, bodyNamed⟩ := List.forall_mem_append.1 (List.forall_mem_append.1 named).1
    have inside := Stmt.body_read names (Stmt.itemsAll_read body regular.2 bodyNamed)
    have part := (Outline.part?_suite inside _).trans (Part.ofHeader?_elif (test.hostText names) _)
    exact Outline.pending?_further part reads
  | .ifElse mark test bodyMark body otherwise, regular, _, named, _, _, reads => by
    rw [Stmt.names_lower_ifElse] at named
    obtain ⟨before, otherNamed⟩ := List.forall_mem_append.1 named
    obtain ⟨_, bodyNamed⟩ := List.forall_mem_append.1 before
    obtain ⟨stmt, single, outlined⟩ :=
      Stmt.outline_ifElse names regular.2.2.1 mark bodyMark test body
    have inside := Stmt.body_read names (Stmt.itemsAll_read body regular.2.1 bodyNamed)
    have part := (Outline.part?_suite inside _).trans (Part.ofHeader?_elif (test.hostText names) _)
    have further := Stmt.branch_read otherwise regular.2.2.2 regular.2.2.1 otherNamed reads
    rw [branchOutline, single, List.flatMap_singleton, outlined, List.cons_append]
    · exact Outline.pending?_further part further
    · exact fun _ _ impossible => by cases impossible
  | .declare _, _, branch, _, _, _, _ | .assign _ _ _, _, branch, _, _, _, _
  | .leave _ _, _, branch, _, _, _, _ | .evaluate _ _, _, branch, _, _, _, _
  | .whileLoop _ _ _ _, _, branch, _, _, _, _ | .forLoop _ _ _ _ _ _, _, branch, _, _, _, _ => by
    cases branch

/-- The outline of lowered statements is read as what the statements are written as. -/
theorem Stmt.itemsAll_read : ∀ body : List (Stmt Mark), Stmt.AllRegular body →
    (∀ name ∈ Host.Stmt.allNames (Stmt.lowerAll names body), isWord name = true) →
      ∀ {rest : List Outline} {others : List Item},
        Outline.pending? rest = some { items := others } →
          Outline.pending? (Host.Stmt.outlineAll (Stmt.lowerAll names body) ++ rest) =
            some { items := Stmt.itemsAll names body ++ others }
  | [], _, _, _, _, reads => reads
  | stmt :: rest, regular, named, _, _, reads => by
    rw [Stmt.lowerAll, Host.Stmt.allNames_append] at named
    obtain ⟨here, later⟩ := List.forall_mem_append.1 named
    rw [Stmt.lowerAll, Host.Stmt.outlineAll_append, List.append_assoc, Stmt.itemsAll,
      List.append_assoc]
    exact Stmt.items_read stmt regular.1 here (Stmt.itemsAll_read rest regular.2 later reads)

end

/-- A chain of conditionals with empty bodies is one conditional. -/
example (mark : Mark) (first second : Expr Mark) :
    (Stmt.ifElse mark first mark [.block mark []]
      (.ifElse mark second mark [] (.block mark []))).items names =
        [.conditional [(first.hostText names, [.pass]), (second.hostText names, [.pass])]
          [.pass]] := rfl

end

end Lag
