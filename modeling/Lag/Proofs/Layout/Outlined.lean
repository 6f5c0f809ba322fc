import Lag.Proofs.Layout.Reading
import Lag.Proofs.Layout.Texts

/-!
# Outlines of written modules

The lines of a statement, whatever lower lines follow, are outlined as the statement is built: a
body is owned by the line above it, and a conditional that goes on after a failed test goes on at
the same level.
-/
namespace Lag.Host

/-! ## Outlines of rows -/

/-- The rows of an indentation with their outlines, whatever lower rows follow. -/
structure Outlines (indentation : Nat) (rows : List Row) (outlines : List Outline) : Prop where
  /-- The rows are outlined so. -/
  reads {after : List Row} {others : List Outline} : outline indentation after = some others →
    (∀ row ∈ after.head?, row.indentation ≤ indentation) →
      outline indentation (rows ++ after) = some (outlines ++ others)
  /-- No row is lower. -/
  deep : ∀ row ∈ rows, indentation ≤ row.indentation
  /-- The first row is not deeper. -/
  starts : ∀ row ∈ rows.head?, row.indentation = indentation

namespace Outlines

variable {indentation deeper : Nat} {first second rows : List Row}
  {outlines others : List Outline}

/-- Nothing is outlined as nothing. -/
theorem nil : Outlines indentation [] [] :=
  ⟨fun reads _ => reads, fun _ inside => absurd inside List.not_mem_nil, fun _ inside => by
    cases inside⟩

/-- Rows after others are outlined after them. -/
theorem append (firstOutlined : Outlines indentation first outlines)
    (secondOutlined : Outlines indentation second others) :
    Outlines indentation (first ++ second) (outlines ++ others) := by
  refine ⟨fun reads lower => ?_, List.forall_mem_append.2 ⟨firstOutlined.deep, secondOutlined.deep⟩,
    ?_⟩
  · rw [List.append_assoc, List.append_assoc]
    refine firstOutlined.reads (secondOutlined.reads reads lower) ?_
    cases second with
    | nil => exact lower
    | cons row rest =>
      rintro _ ⟨⟩
      exact Nat.le_of_eq (secondOutlined.starts row rfl)
  · cases first with
    | nil => exact secondOutlined.starts
    | cons row rest => exact firstOutlined.starts

/-- A line that owns nothing is outlined alone. -/
theorem line {text : String} (closes : ∃ c ∈ text.toList.getLast?, mayEnd c) :
    Outlines indentation [⟨indentation, text⟩] [.line text] := by
  obtain ⟨c, last, noColon, noBrace⟩ := closes
  refine ⟨fun reads _ => ?_, by simp, by simp⟩
  rw [List.singleton_append, outline, if_pos rfl, Option.mem_def.1 last]
  split
  · rename_i same
    exact absurd (Option.some.inj same) noColon
  · rename_i same
    exact absurd (Option.some.inj same) noBrace
  · rw [reads]
    rfl

/-- The rows that a line owns are the deeper ones after it. -/
theorem takeWhile_deeper (deep : ∀ row ∈ rows, indentation < row.indentation) {after : List Row}
    (lower : ∀ row ∈ after.head?, row.indentation ≤ indentation) :
    (rows ++ after).takeWhile (Row.isDeeper indentation) = rows ∧
      (rows ++ after).dropWhile (Row.isDeeper indentation) = after := by
  have inside : ∀ row ∈ rows, Row.isDeeper indentation row = true := fun row member =>
    decide_eq_true (deep row member)
  rw [List.takeWhile_append_of_pos inside, List.dropWhile_append_of_pos inside]
  cases after with
  | nil => exact ⟨List.append_nil rows, rfl⟩
  | cons row rest =>
    have stops : Row.isDeeper indentation row = false :=
      decide_eq_false (Nat.not_lt.2 (lower row rfl))
    rw [List.takeWhile_cons, stops, List.dropWhile_cons, stops]
    exact ⟨List.append_nil rows, rfl⟩

/-- A header owns its body. -/
theorem suite (outlined : Outlines deeper rows outlines) (below : indentation < deeper)
    (some : rows ≠ []) (header : String) :
    Outlines indentation (⟨indentation, header ++ ":"⟩ :: rows) [.suite header outlines] := by
  have deep : ∀ row ∈ rows, indentation < row.indentation := fun row inside =>
    Nat.lt_of_lt_of_le below (outlined.deep row inside)
  refine ⟨fun {after others} reads lower => ?_, ?_, fun row inside => ?_⟩
  · obtain ⟨first, rest, rfl⟩ := List.exists_cons_of_ne_nil some
    obtain ⟨taken, left⟩ := takeWhile_deeper deep lower
    have text : (header ++ ":").toList = header.toList ++ [':'] := String.toList_append
    have body := @outlined.reads [] [] (by rw [outline]) (by simp)
    rw [List.append_nil, List.append_nil] at body
    rw [List.cons_append, outline, if_pos rfl, text, List.getLast?_concat, List.dropLast_concat,
      String.ofList_toList, taken, left, reads]
    dsimp only [List.head?_cons]
    rw [outlined.starts first rfl, body]
    rfl
  · exact List.forall_mem_cons.2 ⟨Nat.le_refl _, fun row inside => Nat.le_of_lt (deep row inside)⟩
  · cases inside
    rfl

/-- A brace owns the entries up to the closing one. -/
theorem table (below : indentation < deeper) (name : String) (entries : List String) :
    Outlines indentation (⟨indentation, name ++ " = \x7b"⟩ ::
        (entries.map (Row.mk deeper) ++ [⟨indentation, "\x7d"⟩]))
      [.table (name ++ " = \x7b") entries] := by
  have deep : ∀ row ∈ entries.map (Row.mk deeper), indentation < row.indentation := by
    intro row inside
    obtain ⟨entry, _, rfl⟩ := List.mem_map.1 inside
    exact below
  refine ⟨fun {after others} reads lower => ?_, ?_, fun row inside => ?_⟩
  · obtain ⟨taken, left⟩ := @takeWhile_deeper indentation _ deep (⟨indentation, "\x7d"⟩ :: after)
      (by rintro _ ⟨⟩; exact Nat.le_refl _)
    have text : (name ++ " = \x7b").toList.getLast? = some '\x7b' := by
      rw [String.toList_append, List.getLast?_append]
      rfl
    have texts : (entries.map (Row.mk deeper)).map (·.text) = entries := by
      rw [List.map_map]
      exact List.map_id entries
    have closing :
        ((⟨indentation, "\x7d"⟩ : Row) :: after).head? = some ⟨indentation, "\x7d"⟩ := rfl
    rw [List.cons_append, List.append_assoc, List.singleton_append, outline, if_pos rfl, text,
      taken, left, if_pos closing, List.tail_cons, reads, texts]
    rfl
  · refine List.forall_mem_cons.2 ⟨Nat.le_refl _, List.forall_mem_append.2
      ⟨fun row inside => Nat.le_of_lt (deep row inside), ?_⟩⟩
    exact List.forall_mem_singleton.2 (Nat.le_refl _)
  · cases inside
    rfl

end Outlines

/-! ## Statements -/

/-- The row of a line. -/
def Line.row (line : Line) : Row := ⟨line.indentation, line.text⟩

/-- The outline of a body, which is never empty. -/
def fillOutline (outlines : List Outline) : List Outline :=
  if outlines.isEmpty then [.line "pass"] else outlines

mutual

/-- The outline of a statement; a conditional starts with a word. -/
def Stmt.outline (word : String) : Stmt → List Outline
  | .assign name value => [.line (name ++ " = " ++ value.toText)]
  | .evaluate value => [.line value.toText]
  | .leave none => [.line "return"]
  | .leave (some value) => [.line ("return " ++ value.toText)]
  | .ifThen test body => [.suite (word ++ " " ++ test.toText) (fillOutline (Stmt.outlineAll body))]
  | .ifElse test body otherwise =>
    [.suite (word ++ " " ++ test.toText) (fillOutline (Stmt.outlineAll body)),
      .suite "else" (fillOutline (Stmt.outlineAll otherwise))]
  | .ifElif test body otherwise =>
    .suite (word ++ " " ++ test.toText) (fillOutline (Stmt.outlineAll body)) ::
      otherwise.outline "elif"
  | .whileLoop test body =>
    [.suite ("while " ++ test.toText) (fillOutline (Stmt.outlineAll body))]
  | .forLoop counter first bound body =>
    [.suite ("for " ++ counter ++ " in range(" ++ first.toText ++ ", " ++ bound.toText ++ ")")
      (fillOutline (Stmt.outlineAll body))]

/-- The outline of statements. -/
def Stmt.outlineAll : List Stmt → List Outline
  | [] => []
  | stmt :: rest => stmt.outline "if" ++ Stmt.outlineAll rest

end

/-- A statement has a line and an outline. -/
theorem Stmt.lines_ne_nil (word : String) (level loops : Nat) (stmt : Stmt) :
    stmt.lines word level loops ≠ [] ∧ stmt.outline word ≠ [] := by
  cases stmt with
  | leave value => cases value <;> exact ⟨List.cons_ne_nil _ _, List.cons_ne_nil _ _⟩
  | _ => exact ⟨List.cons_ne_nil _ _, List.cons_ne_nil _ _⟩

/-- A body is outlined if its statements are. -/
theorem Outlines.body {level loops : Nat} {body : List Stmt}
    (outlined : Outlines (4 * level) ((Stmt.linesAll level loops body).map Line.row)
      (Stmt.outlineAll body)) :
    Outlines (4 * level) ((Host.suite level (Stmt.linesAll level loops body)).map Line.row)
        (fillOutline (Stmt.outlineAll body)) ∧
      (Host.suite level (Stmt.linesAll level loops body)).map Line.row ≠ [] := by
  cases body with
  | nil =>
    exact ⟨.line ⟨'s', (by decide : 's' ∈ "pass".toList.getLast? ∧ mayEnd 's')⟩,
      List.cons_ne_nil _ _⟩
  | cons stmt rest =>
    obtain ⟨lines, outlines⟩ := Stmt.lines_ne_nil "if" level loops stmt
    have someLines : Stmt.linesAll level loops (stmt :: rest) ≠ [] :=
      List.append_ne_nil_of_left_ne_nil lines _
    have someOutlines : Stmt.outlineAll (stmt :: rest) ≠ [] :=
      List.append_ne_nil_of_left_ne_nil outlines _
    rw [Host.suite, if_neg (by simpa using someLines), fillOutline,
      if_neg (by simpa using someOutlines)]
    exact ⟨outlined, by simpa using someLines⟩

/-- A header owns the body after it. -/
theorem Outlines.owns {level loops : Nat} {body : List Stmt}
    (outlined : Outlines (4 * (level + 1)) ((Stmt.linesAll (level + 1) loops body).map Line.row)
      (Stmt.outlineAll body)) (header : String) (number : Nat) :
    Outlines (4 * level) ((⟨level, header ++ ":", number⟩ ::
        Host.suite (level + 1) (Stmt.linesAll (level + 1) loops body)).map Line.row)
      [.suite header (fillOutline (Stmt.outlineAll body))] := by
  obtain ⟨inside, some⟩ := outlined.body
  exact inside.suite (by omega) some header

mutual

/-- A statement is outlined as it is built, if the names in it are names. -/
theorem Stmt.outlined (word : String) (level loops : Nat) : ∀ stmt : Stmt,
    (∀ name ∈ stmt.names, isWord name = true) →
      Outlines (4 * level) ((stmt.lines word level loops).map Line.row) (stmt.outline word)
  | .assign name value, named => by
    obtain ⟨_, others⟩ := List.forall_mem_cons.1 named
    exact .line (closes_append (value.isExpression others).closes)
  | .evaluate value, named => .line (value.isExpression named).closes
  | .leave none, _ => .line ⟨'n', (by decide : 'n' ∈ "return".toList.getLast? ∧ mayEnd 'n')⟩
  | .leave (some value), named => .line (closes_append (value.isExpression named).closes)
  | .ifThen test body, named => by
    obtain ⟨_, bodyNamed⟩ := List.forall_mem_append.1 named
    exact (Stmt.outlinedAll (level + 1) loops body bodyNamed).owns _ 0
  | .ifElse test body otherwise, named => by
    obtain ⟨before, otherNamed⟩ := List.forall_mem_append.1 named
    obtain ⟨_, bodyNamed⟩ := List.forall_mem_append.1 before
    have first := (Stmt.outlinedAll (level + 1) loops body bodyNamed).owns
      (word ++ " " ++ test.toText) 0
    have other := (Stmt.outlinedAll (level + 1) loops otherwise otherNamed).owns "else" 0
    rw [Stmt.lines, List.cons_append, ← List.cons_append, List.map_append]
    exact first.append other
  | .ifElif test body otherwise, named => by
    obtain ⟨before, otherNamed⟩ := List.forall_mem_append.1 named
    obtain ⟨_, bodyNamed⟩ := List.forall_mem_append.1 before
    have first := (Stmt.outlinedAll (level + 1) loops body bodyNamed).owns
      (word ++ " " ++ test.toText) 0
    have other := Stmt.outlined "elif" level loops otherwise otherNamed
    rw [Stmt.lines, List.cons_append, ← List.cons_append, List.map_append]
    exact first.append other
  | .whileLoop test body, named => by
    obtain ⟨_, bodyNamed⟩ := List.forall_mem_append.1 named
    exact (Stmt.outlinedAll (level + 1) (loops + 1) body bodyNamed).owns _ _
  | .forLoop counter first bound body, named => by
    obtain ⟨_, others⟩ := List.forall_mem_cons.1 named
    obtain ⟨_, bodyNamed⟩ := List.forall_mem_append.1 others
    have text : "for " ++ counter ++ " in range(" ++ first.toText ++ ", " ++ bound.toText ++ "):" =
        "for " ++ counter ++ " in range(" ++ first.toText ++ ", " ++ bound.toText ++ ")" ++ ":" := by
      rw [@String.append_assoc _ ")" ":"]
      rfl
    rw [Stmt.lines, text]
    exact (Stmt.outlinedAll (level + 1) (loops + 1) body bodyNamed).owns _ _

/-- Statements are outlined as they are built, if the names in them are names. -/
theorem Stmt.outlinedAll (level loops : Nat) : ∀ body : List Stmt,
    (∀ name ∈ Stmt.allNames body, isWord name = true) →
      Outlines (4 * level) ((Stmt.linesAll level loops body).map Line.row) (Stmt.outlineAll body)
  | [], _ => .nil
  | stmt :: rest, named => by
    obtain ⟨here, others⟩ := List.forall_mem_append.1 named
    rw [Stmt.linesAll, List.map_append]
    exact (Stmt.outlined "if" level loops stmt here).append
      (Stmt.outlinedAll level loops rest others)

end

/-! ## Functions and tables -/

/-- Names with commas between them end like a line that owns nothing. -/
theorem closes_intercalate : ∀ {names : List String}, names ≠ [] →
    (∀ name ∈ names, isWord name = true) →
      ∃ c ∈ (", ".intercalate names).toList.getLast?, mayEnd c
  | [], nonempty, _ => absurd rfl nonempty
  | [name], _, named => by
    rw [String.intercalate_singleton]
    exact (isExpression_name (named name List.mem_cons_self)).closes
  | name :: next :: rest, _, named => by
    rw [String.intercalate_cons_cons]
    exact closes_append (closes_intercalate (List.cons_ne_nil next rest)
      (List.forall_mem_cons.1 named).2)

/-- The outline of the line that lists names of the module, none for no names. -/
def globalOutline (names : List String) : List Outline :=
  if names.isEmpty then [] else [.line ("global " ++ ", ".intercalate names)]

/-- The line that lists names of the module is outlined alone. -/
theorem globalLine_outlined {names : List String} (named : ∀ name ∈ names, isWord name = true) :
    Outlines 4 ((globalLine names).map Line.row) (globalOutline names) := by
  unfold globalLine globalOutline
  split
  · exact .nil
  · rename_i some
    exact .line (closes_append (closes_intercalate (by simpa using some) named))

/-- The outline of a function. -/
def Function.outline (function : Function) : Outline :=
  .suite ("def " ++ function.name ++ "(" ++ ", ".intercalate function.params ++ ")")
    (globalOutline function.globals ++ fillOutline (Stmt.outlineAll function.body))

/-- A function is outlined as it is built, if the names in it are names. -/
theorem Function.outlined {function : Function}
    (named : ∀ name ∈ function.names, isWord name = true) :
    Outlines 0 (function.lines.map Line.row) [function.outline] := by
  obtain ⟨_, others⟩ := List.forall_mem_cons.1 named
  obtain ⟨listed, bodyNamed⟩ := List.forall_mem_append.1 others
  obtain ⟨_, globalsNamed⟩ := List.forall_mem_append.1 listed
  obtain ⟨inside, some⟩ := (Stmt.outlinedAll 1 0 function.body bodyNamed).body
  have whole := (globalLine_outlined globalsNamed).append inside
  have text : "def " ++ function.name ++ "(" ++ ", ".intercalate function.params ++ "):" =
      "def " ++ function.name ++ "(" ++ ", ".intercalate function.params ++ ")" ++ ":" := by
    rw [@String.append_assoc _ ")" ":"]
    rfl
  rw [Function.lines, text, List.cons_append, List.map_cons, List.map_append]
  exact whole.suite (by decide) (List.append_ne_nil_of_right_ne_nil _ some) _

/-- The outline of the function that gives the variables of a module their first values. -/
def initialOutline (firsts : List (String × Expr)) : Outline :=
  .suite "def __lag_init__()" (globalOutline (firsts.map (·.1)) ++
    fillOutline (firsts.map fun (name, value) => .line (name ++ " = " ++ value.toText)))

/-- The first values are outlined line by line. -/
theorem firsts_outlined {firsts : List (String × Expr)}
    (named : ∀ entry ∈ firsts, ∀ name ∈ entry.2.names, isWord name = true) :
    Outlines 4 ((firsts.map fun (name, value) =>
        (⟨1, name ++ " = " ++ value.toText, 0⟩ : Line)).map Line.row)
      (firsts.map fun (name, value) => .line (name ++ " = " ++ value.toText)) := by
  induction firsts with
  | nil => exact .nil
  | cons entry rest ih =>
    obtain ⟨here, others⟩ := List.forall_mem_cons.1 named
    exact (Outlines.line (closes_append (entry.2.isExpression here).closes)).append (ih others)

/-- The function that gives the variables of a module their first values is outlined so. -/
theorem initialLines_outlined {firsts : List (String × Expr)}
    (named : ∀ name ∈ firsts.flatMap (fun (name, value) => name :: value.names),
      isWord name = true) :
    Outlines 0 ((initialLines firsts).map Line.row) [initialOutline firsts] := by
  have each : ∀ entry ∈ firsts, isWord entry.1 = true ∧
      ∀ name ∈ entry.2.names, isWord name = true := fun entry inside =>
    List.forall_mem_cons.1 fun name member =>
      named name (List.mem_flatMap.2 ⟨entry, inside, member⟩)
  have listed : Outlines 4 ((globalLine (firsts.map (·.1))).map Line.row)
      (globalOutline (firsts.map (·.1))) := globalLine_outlined fun name inside => by
    obtain ⟨entry, member, rfl⟩ := List.mem_map.1 inside
    exact (each entry member).1
  have values := firsts_outlined fun entry inside => (each entry inside).2
  rw [initialLines, List.cons_append, List.map_cons, List.map_append]
  refine (listed.append ?_).suite (by decide) ?_ "def __lag_init__()"
  · cases firsts with
    | nil => exact .line ⟨'s', (by decide : 's' ∈ "pass".toList.getLast? ∧ mayEnd 's')⟩
    | cons entry rest => exact values
  · refine List.append_ne_nil_of_right_ne_nil _ ?_
    cases firsts <;> exact List.cons_ne_nil _ _

/-- The outline of the table of exports. -/
def exportOutline (functions : List (String × Function)) : Outline :=
  if functions.isEmpty then .line "__lag_exports__ = \x7b\x7d"
  else .table "__lag_exports__ = \x7b" (functions.map fun (name, function) =>
    Text.quoted name ++ ": " ++ function.name ++ ",")

/-- The table of exports is outlined so. -/
theorem exportLines_outlined (functions : List (String × Function)) :
    Outlines 0 ((exportLines functions).map Line.row) [exportOutline functions] := by
  unfold exportLines exportOutline
  split
  · exact .line ⟨'\x7d', (by decide :
      '\x7d' ∈ "__lag_exports__ = \x7b\x7d".toList.getLast? ∧ mayEnd '\x7d')⟩
  · have table := @Outlines.table 0 4 (by decide) "__lag_exports__" (functions.map
      fun (name, function) => Text.quoted name ++ ": " ++ function.name ++ ",")
    rw [List.map_map] at table
    rw [List.cons_append, List.map_cons, List.map_append, List.map_map]
    exact table

/-! ## Rows of texts -/

/-- The row on a line of a module; none if the line is blank or a comment. -/
def Line.row? (line : Line) : Option Row := Row.ofChars? line.toText.toList

/-- A line with something on it is a row. -/
theorem Line.row?_eq_some {line : Line} (stands : Stands line.text) :
    line.row? = some line.row := by
  obtain ⟨c, head, noBlank, noComment⟩ := stands.starts
  obtain ⟨rest, shape⟩ := List.head?_eq_some_iff.1 head
  have some : line.text.isEmpty = false := by
    rw [Bool.eq_false_iff, ne_eq, String.isEmpty_iff]
    intro empty
    rw [empty] at shape
    cases shape
  have chars : line.toText.toList = List.replicate line.indentation ' ' ++ c :: rest := by
    rw [Line.toText, some, if_neg Bool.false_ne_true, String.toList_append, String.toList_ofList,
      shape]
  have blanks : ∀ d ∈ List.replicate line.indentation ' ', (d == ' ') = true := by
    intro d inside
    rw [List.eq_of_mem_replicate inside]
    decide
  have stops : (c == ' ') = false := beq_eq_false_iff_ne.2 noBlank
  have taken : line.toText.toList.takeWhile (· == ' ') = List.replicate line.indentation ' ' := by
    rw [chars, List.takeWhile_append_of_pos blanks, List.takeWhile_cons, stops]
    exact List.append_nil _
  have left : line.toText.toList.dropWhile (· == ' ') = c :: rest := by
    rw [chars, List.dropWhile_append_of_pos blanks, List.dropWhile_cons, stops]
    rfl
  rw [Line.row?, Row.ofChars?, left, taken, List.length_replicate]
  split
  · contradiction
  · rename_i same
    exact absurd (List.cons.inj same).1 noComment
  · rw [← shape, String.ofList_toList]
    rfl

/-- Lines with something on them are rows. -/
theorem filterMap_row? {lines : List Line} (all : AllHold Stands lines) :
    lines.filterMap Line.row? = lines.map Line.row := by
  rw [← List.filterMap_eq_map]
  exact List.filterMap_congr fun line inside => Line.row?_eq_some (all line inside)

/-- Lines one after the other, with a line feed after each of them. -/
theorem intercalate_concat (lines : List (List Char)) (nonempty : lines ≠ []) :
    ['\n'].intercalate lines ++ ['\n'] = ['\n'].intercalate (lines ++ [[]]) := by
  induction lines with
  | nil => exact absurd rfl nonempty
  | cons line rest ih =>
    cases rest with
    | nil => simp
    | cons next rest =>
      have later := ih (List.cons_ne_nil next rest)
      rw [List.cons_append, List.cons_append, List.intercalate_cons_cons,
        List.intercalate_cons_cons, ← List.cons_append, ← later, List.append_assoc,
        List.append_assoc]

/-- The rows of the text of a module are the rows on its lines. -/
theorem Module.rowsOf_toText {program : Module}
    (single : ∀ line ∈ program.lines, '\n' ∉ line.toText.toList) :
    rowsOf program.toText = program.lines.filterMap Line.row? := by
  have nonempty : program.lines.map (String.toList ∘ Line.toText) ≠ [] := by
    simp [Module.lines, prelude]
  have chars : program.toText.toList =
      ['\n'].intercalate (program.lines.map (String.toList ∘ Line.toText) ++ [[]]) := by
    rw [Module.toText, String.toList_append, String.toList_intercalate, List.map_map,
      ← intercalate_concat _ nonempty]
    rfl
  have separate : ∀ line ∈ program.lines.map (String.toList ∘ Line.toText) ++ [[]],
      '\n' ∉ line := by
    intro line inside
    rcases List.mem_append.1 inside with here | last
    · obtain ⟨written, member, rfl⟩ := List.mem_map.1 here
      exact single written member
    · rw [List.mem_singleton.1 last]
      exact List.not_mem_nil
  rw [rowsOf, chars, List.splitOn_intercalate '\n' separate (by simp), List.filterMap_append,
    List.filterMap_map]
  exact List.append_nil _

/-- The first line of every module is no row. -/
theorem row?_comment (title : String) : Line.row?
    ⟨0, "# Generated from Lag module " ++ Text.quoted title ++ ". Do not edit.", 0⟩ = none := by
  have chars : ∃ rest, (Line.toText
      ⟨0, "# Generated from Lag module " ++ Text.quoted title ++ ". Do not edit.", 0⟩).toList =
        '#' :: rest := by
    rw [Line.toText, if_neg (by simp), String.toList_append, String.toList_append,
      String.toList_append]
    exact ⟨_, rfl⟩
  obtain ⟨rest, shape⟩ := chars
  rw [Line.row?, Row.ofChars?, shape, List.dropWhile_cons, if_neg (by decide)]
  rfl

/-- A line has no line feed if its text has none. -/
theorem Line.single {line : Line} (single : '\n' ∉ line.text.toList) :
    '\n' ∉ line.toText.toList := by
  unfold Line.toText
  split
  · decide
  · refine single_append ?_ single
    rw [String.toList_ofList]
    intro inside
    exact absurd (List.eq_of_mem_replicate inside) (by decide)

/-- The lines that every module starts with, the comment and blank lines aside. -/
def preludeCode (title : String) : List Line := [
  ⟨0, "import logging as _lag_logging", 0⟩,
  ⟨0, "import math as _lag_math", 0⟩,
  ⟨0, "_lag_logger = _lag_logging.getLogger(" ++ Text.quoted (journalName title) ++ ")", 0⟩,
  ⟨0, "def _lag_str(value):", 0⟩,
  ⟨1, "if isinstance(value, bool):", 0⟩,
  ⟨2, "return 'true' if value else 'false'", 0⟩,
  ⟨1, "return str(value)", 0⟩]

/-- These lines stand on their lines. -/
theorem preludeCode_stands (title : String) : AllHold Stands (preludeCode title) := by
  have logging : Stands "import logging as _lag_logging" := ⟨⟨'i', by decide⟩, by decide⟩
  have math : Stands "import math as _lag_math" := ⟨⟨'i', by decide⟩, by decide⟩
  have logger : Stands ("_lag_logger = _lag_logging.getLogger(" ++
      Text.quoted (journalName title) ++ ")") := by
    have opens : Stands "_lag_logger = _lag_logging.getLogger(" := ⟨⟨'_', by decide⟩, by decide⟩
    exact (opens.append (isExpression_quoted _).single).append (by decide)
  have define : Stands "def _lag_str(value):" := ⟨⟨'d', by decide⟩, by decide⟩
  have test : Stands "if isinstance(value, bool):" := ⟨⟨'i', by decide⟩, by decide⟩
  have truth : Stands "return 'true' if value else 'false'" := ⟨⟨'r', by decide⟩, by decide⟩
  have other : Stands "return str(value)" := ⟨⟨'r', by decide⟩, by decide⟩
  exact .cons logging (.cons math (.cons logger (.cons define (.cons test (.cons truth
    (.single other))))))

/-- The rows of the lines that every module starts with. -/
theorem filterMap_prelude (title : String) :
    (prelude title).filterMap Line.row? = (preludeCode title).map Line.row := by
  have comment := row?_comment title
  have none : Line.row? blank = none := by decide
  rw [← filterMap_row? (preludeCode_stands title), prelude, preludeCode,
    List.filterMap_cons_none comment]
  simp only [List.filterMap_cons, none]

/-- The lines that every module starts with have no line feeds. -/
theorem prelude_single (title : String) : ∀ line ∈ prelude title, '\n' ∉ line.text.toList := by
  have comment : '\n' ∉
      ("# Generated from Lag module " ++ Text.quoted title ++ ". Do not edit.").toList :=
    single_append (single_append (by decide) (isExpression_quoted title).single) (by decide)
  have stands := preludeCode_stands title
  have empty : '\n' ∉ blank.text.toList := by decide
  simp only [preludeCode, AllHold, List.forall_mem_cons] at stands
  obtain ⟨logging, math, logger, define, test, truth, other, _⟩ := stands
  simp only [prelude, List.forall_mem_cons]
  exact ⟨comment, logging.single, math.single, empty, logger.single, empty, empty, define.single,
    test.single, truth.single, other.single, fun _ inside => absurd inside List.not_mem_nil⟩

/-- The outline of the lines that every module starts with. -/
def preludeOutline (title : String) : List Outline := [
  .line "import logging as _lag_logging",
  .line "import math as _lag_math",
  .line ("_lag_logger = _lag_logging.getLogger(" ++ Text.quoted (journalName title) ++ ")"),
  .suite "def _lag_str(value)" [
    .suite "if isinstance(value, bool)" [.line "return 'true' if value else 'false'"],
    .line "return str(value)"]]

/-- The lines that every module starts with are outlined so. -/
theorem prelude_outlined (title : String) :
    Outlines 0 ((preludeCode title).map Line.row) (preludeOutline title) := by
  have line {indentation : Nat} (text : String) (closes : ∃ c ∈ text.toList.getLast?, mayEnd c) :
      Outlines indentation [⟨indentation, text⟩] [.line text] := .line closes
  have logger : ∃ c ∈ ("_lag_logger = _lag_logging.getLogger(" ++
      Text.quoted (journalName title) ++ ")").toList.getLast?, mayEnd c :=
    closes_append ⟨')', by decide⟩
  have truth := (@line 8 "return 'true' if value else 'false'" ⟨'\'', by decide⟩).suite
    (by decide : 4 < 8) (List.cons_ne_nil _ _) "if isinstance(value, bool)"
  have convert := (truth.append (line "return str(value)" ⟨')', by decide⟩)).suite
    (by decide : 0 < 4) (List.cons_ne_nil _ _) "def _lag_str(value)"
  exact (line "import logging as _lag_logging" ⟨'g', by decide⟩).append
    ((line "import math as _lag_math" ⟨'h', by decide⟩).append ((line _ logger).append convert))

/-! ## Modules -/

/-- Blank lines in front are no rows. -/
theorem filterMap_blank {lines : List Line} (all : AllHold Stands lines) :
    (blank :: blank :: lines).filterMap Line.row? = lines.map Line.row := by
  have none : Line.row? blank = none := by decide
  rw [List.filterMap_cons_none none, List.filterMap_cons_none none, filterMap_row? all]

/-- Functions are outlined one after the other. -/
theorem functions_outlined {functions : List (String × Function)}
    (named : ∀ entry ∈ functions, ∀ name ∈ entry.2.names, isWord name = true) :
    Outlines 0 ((functions.flatMap fun (_, function) =>
      blank :: blank :: function.lines).filterMap Line.row?) (functions.map (·.2.outline)) := by
  induction functions with
  | nil => exact .nil
  | cons entry rest ih =>
    obtain ⟨here, others⟩ := List.forall_mem_cons.1 named
    have rows := filterMap_blank (covers_stands.function here)
    rw [List.flatMap_cons, List.filterMap_append]
    exact (rows ▸ Function.outlined here).append (ih others)

/-- The outline of a module. -/
def Module.outline (program : Module) : List Outline :=
  preludeOutline program.title ++ (program.functions.map (·.2.outline) ++
    [initialOutline program.firsts, exportOutline program.functions])

/-- No line of a module has a line feed, if the names in it are names. -/
theorem Module.lines_single {program : Module}
    (named : ∀ name ∈ program.names, isWord name = true) :
    ∀ line ∈ program.lines, '\n' ∉ line.toText.toList := by
  intro line inside
  refine Line.single ?_
  rcases covers_stands.module named line inside with first | rfl | stands
  · exact prelude_single program.title line first
  · decide
  · exact stands.single

/-- The text of a module is outlined as the module is built, if the names in it are names. -/
theorem Module.outlined {program : Module} (named : ∀ name ∈ program.names, isWord name = true) :
    Host.outline 0 (rowsOf program.toText) = some program.outline := by
  obtain ⟨functionsNamed, firstsNamed⟩ := List.forall_mem_append.1 named
  have each : ∀ entry ∈ program.functions, ∀ name ∈ entry.2.names, isWord name = true :=
    fun entry inside name member => functionsNamed name (List.mem_flatMap.2 ⟨entry, inside, member⟩)
  have exported : ∀ entry ∈ program.functions, isWord entry.2.name = true :=
    fun entry inside => each entry inside _ List.mem_cons_self
  have rows : program.lines.filterMap Line.row? = (preludeCode program.title).map Line.row ++
      ((program.functions.flatMap fun (_, function) =>
          blank :: blank :: function.lines).filterMap Line.row? ++
        ((initialLines program.firsts).map Line.row ++
          (exportLines program.functions).map Line.row)) := by
    rw [Module.lines, List.append_assoc, List.append_assoc, List.filterMap_append,
      List.filterMap_append, List.filterMap_append, filterMap_prelude,
      filterMap_blank (covers_stands.initial firstsNamed),
      filterMap_blank (covers_stands.exports exported)]
  have outlined := (prelude_outlined program.title).append ((functions_outlined each).append
    ((initialLines_outlined firstsNamed).append (exportLines_outlined program.functions)))
  have reads := @outlined.reads [] [] (by rw [Host.outline]) (by simp)
  rw [List.append_nil, List.append_nil] at reads
  rw [Module.rowsOf_toText (Module.lines_single named), rows]
  exact reads

end Lag.Host
