import Lag.Proofs.Layout.Items
import Lag.Proofs.Naming.Separate

/-!
# The layout keeps the tree

A program is written as the lines that every module starts with, a function for each function, the
function that gives the variables their first values, and the table of exports. The text of its
module is read, by its lines and their indentation, as that. Every body has a statement, and a
statement that does nothing stands alone.
-/
namespace Lag

open Host (Item Names Outline Part fillOutline isReserved isWord symbolsOf)

/-! ## What programs are written as -/

/-- The line that lists names of the module, none for no names. -/
def Host.listedItems (names : List String) : List Item :=
  if names.isEmpty then [] else [.listed names]

/-- What a function is written as. -/
def Function.item (names : Names) (function : Function Mark) : Item :=
  .define (function.note.lower names function.name)
    (function.params.map fun param => param.note.lower names param.name)
    (Host.listedItems (Stmt.assignedAll names function.body).eraseDups ++
      Host.fillItems (Stmt.itemsAll names function.body))

/-- What the variables of a module are written as. -/
def initialItem (names : Names) (bindings : List (Binding Mark)) : Item :=
  .define "__lag_init__" [] (
    Host.listedItems (bindings.map fun binding => binding.note.lower names binding.name) ++
      Host.fillItems (bindings.map fun binding =>
        .assign (binding.note.lower names binding.name) (binding.value.hostText names)))

/-- What the table of exports is written as: the name of every function with the name that it is
written under. -/
def exportItem (names : Names) (functions : List (Function Mark)) : Item :=
  .table "__lag_exports__" (functions.map fun function =>
    (function.name, function.note.lower names function.name))

/-- What every module starts with. -/
def Host.preludeItems (title : String) : List Item := [
  .imports "logging as _lag_logging",
  .imports "math as _lag_math",
  .assign "_lag_logger" ("_lag_logging.getLogger(" ++ Text.quoted (journalName title) ++ ")"),
  .define "_lag_str" ["value"] [
    .conditional [("isinstance(value, bool)", [.leave (some "'true' if value else 'false'")])] [],
    .leave (some "str(value)")]]

/-- What a program is written as. -/
def Program.items (title : String) (names : Names) (program : Program Mark) : List Item :=
  Host.preludeItems title ++ (program.functions.map (Function.item names) ++
    [initialItem names program.bindings, exportItem names program.functions])

namespace Host

mutual

/-- A statement in which every body is filled. -/
inductive Item.Filled : Item → Prop where
  /-- Nothing has no body. -/
  | pass : Item.Filled .pass
  /-- An import has none. -/
  | imports {what : String} : Item.Filled (.imports what)
  /-- A list of names has none. -/
  | listed {names : List String} : Item.Filled (.listed names)
  /-- A value for a name has none. -/
  | assign {name value : String} : Item.Filled (.assign name value)
  /-- An expression has none. -/
  | evaluate {value : String} : Item.Filled (.evaluate value)
  /-- A return has none. -/
  | leave {value : Option String} : Item.Filled (.leave value)
  /-- A conditional has bodies after its tests, and it may have a last one. -/
  | conditional {arms : List (String × List Item)} {otherwise : List Item} :
    (∀ arm ∈ arms, Suite arm.2) → (otherwise ≠ [] → Suite otherwise) →
      Item.Filled (.conditional arms otherwise)
  /-- A loop with a test has one. -/
  | whileLoop {test : String} {body : List Item} : Suite body → Item.Filled (.whileLoop test body)
  /-- A loop over a range has one. -/
  | forLoop {counter range : String} {body : List Item} : Suite body →
    Item.Filled (.forLoop counter range body)
  /-- A function has one. -/
  | define {name : String} {params : List String} {body : List Item} : Suite body →
    Item.Filled (.define name params body)
  /-- A table has none. -/
  | table {name : String} {entries : List (String × String)} : Item.Filled (.table name entries)

/-- A body that has a statement, and has one that does nothing only if it is alone. -/
inductive Suite : List Item → Prop where
  /-- A body that does nothing. -/
  | pass : Suite [.pass]
  /-- A body that does something. -/
  | items {items : List Item} : items ≠ [] → .pass ∉ items → (∀ item ∈ items, item.Filled) →
    Suite items

end

/-! ## Bodies -/

/-- Statements that do something are the body that they fill. -/
theorem suite_fillItems {items : List Item} (all : ∀ item ∈ items, item.Filled ∧ item ≠ .pass) :
    Suite (fillItems items) := by
  unfold fillItems
  split
  · exact .pass
  · rename_i some
    exact .items (by simpa using some) (fun inside => (all _ inside).2 rfl)
      fun item inside => (all item inside).1

/-- Names of the module are listed only in front of statements that do something. -/
theorem suite_listedItems {names : List String} {items : List Item}
    (all : ∀ item ∈ items, item.Filled ∧ item ≠ .pass) (used : items = [] → names = []) :
    Suite (listedItems names ++ fillItems items) := by
  cases items with
  | nil =>
    rw [used rfl]
    exact .pass
  | cons item rest =>
    cases names with
    | nil => exact suite_fillItems all
    | cons name names =>
      refine .items (List.cons_ne_nil _ _) (fun inside => ?_)
        (List.forall_mem_cons.2 ⟨.listed, fun item inside => (all item inside).1⟩)
      rcases List.mem_cons.1 inside with impossible | inside
      · cases impossible
      · exact (all _ inside).2 rfl

end Host

mutual

/-- Every body in what a statement is written as is filled. -/
theorem Stmt.filled (names : Names) : ∀ (stmt : Stmt Mark), ∀ item ∈ stmt.items names,
    item.Filled ∧ item ≠ .pass
  | .declare _ | .assign _ _ _ => List.forall_mem_singleton.2 ⟨.assign, Item.noConfusion⟩
  | .leave _ none | .leave _ (some _) => List.forall_mem_singleton.2 ⟨.leave, Item.noConfusion⟩
  | .evaluate _ _ => List.forall_mem_singleton.2 ⟨.evaluate, Item.noConfusion⟩
  | .block _ body => Stmt.allFilled names body
  | .ifThen _ _ _ body => by
    have first := Host.suite_fillItems (Stmt.allFilled names body)
    exact List.forall_mem_singleton.2
      ⟨.conditional (List.forall_mem_singleton.2 first) (absurd rfl), Item.noConfusion⟩
  | .ifElse _ _ _ body otherwise => by
    have first := Host.suite_fillItems (Stmt.allFilled names body)
    obtain ⟨others, last⟩ := otherwise.branchFilled names
    exact List.forall_mem_singleton.2
      ⟨.conditional (List.forall_mem_cons.2 ⟨first, others⟩) last, Item.noConfusion⟩
  | .whileLoop _ _ _ body => by
    have inside := Host.suite_fillItems (Stmt.allFilled names body)
    exact List.forall_mem_singleton.2 ⟨.whileLoop inside, Item.noConfusion⟩
  | .forLoop _ _ _ _ _ body => by
    have inside := Host.suite_fillItems (Stmt.allFilled names body)
    exact List.forall_mem_singleton.2 ⟨.forLoop inside, Item.noConfusion⟩

/-- Every body after a failed test is filled. -/
theorem Stmt.branchFilled (names : Names) : ∀ stmt : Stmt Mark,
    (∀ arm ∈ stmt.arms names, Host.Suite arm.2) ∧
      (stmt.last names ≠ [] → Host.Suite (stmt.last names))
  | .block _ body => by
    have inside := Host.suite_fillItems (Stmt.allFilled names body)
    exact ⟨fun _ inside => absurd inside List.not_mem_nil, fun _ => inside⟩
  | .ifThen _ _ _ body => by
    have inside := Host.suite_fillItems (Stmt.allFilled names body)
    exact ⟨List.forall_mem_singleton.2 inside, absurd rfl⟩
  | .ifElse _ _ _ body otherwise => by
    have inside := Host.suite_fillItems (Stmt.allFilled names body)
    obtain ⟨others, last⟩ := otherwise.branchFilled names
    exact ⟨List.forall_mem_cons.2 ⟨inside, others⟩, last⟩
  | .declare _ | .assign _ _ _ | .leave _ _ | .evaluate _ _ | .whileLoop _ _ _ _
  | .forLoop _ _ _ _ _ _ => ⟨fun _ inside => absurd inside List.not_mem_nil, absurd rfl⟩

/-- Every body in what statements are written as is filled. -/
theorem Stmt.allFilled (names : Names) : ∀ body : List (Stmt Mark),
    ∀ item ∈ Stmt.itemsAll names body, item.Filled ∧ item ≠ .pass
  | [] => fun _ inside => absurd inside List.not_mem_nil
  | stmt :: rest => List.forall_mem_append.2 ⟨stmt.filled names, Stmt.allFilled names rest⟩

end

mutual

/-- A statement that is written as nothing assigns to nothing. -/
theorem Stmt.assigned_eq_nil (names : Names) : ∀ stmt : Stmt Mark, stmt.items names = [] →
    stmt.assigned names = []
  | .block _ body, nothing => Stmt.assignedAll_eq_nil names body nothing
  | .leave _ none, nothing | .leave _ (some _), nothing => by cases nothing
  | .declare _, nothing | .assign _ _ _, nothing | .evaluate _ _, nothing
  | .ifThen _ _ _ _, nothing | .ifElse _ _ _ _ _, nothing | .whileLoop _ _ _ _, nothing
  | .forLoop _ _ _ _ _ _, nothing => by cases nothing

/-- Statements that are written as nothing assign to nothing. -/
theorem Stmt.assignedAll_eq_nil (names : Names) : ∀ body : List (Stmt Mark),
    Stmt.itemsAll names body = [] → Stmt.assignedAll names body = []
  | [], _ => rfl
  | stmt :: rest, nothing => by
    obtain ⟨here, later⟩ := List.append_eq_nil_iff.1 nothing
    rw [Stmt.assignedAll, stmt.assigned_eq_nil names here, Stmt.assignedAll_eq_nil names rest later]
    rfl

end

/-- Every body in what a program is written as is filled. -/
theorem Program.filled (title : String) (names : Names) (program : Program Mark) :
    ∀ item ∈ program.items title names, item.Filled := by
  have prelude : ∀ item ∈ Host.preludeItems title, item.Filled := by
    have leave (value : String) : Host.Suite [.leave (some value)] :=
      .items (List.cons_ne_nil _ _) (by simp) (List.forall_mem_singleton.2 .leave)
    have test : Item.Filled (.conditional
        [("isinstance(value, bool)", [.leave (some "'true' if value else 'false'")])] []) :=
      .conditional (List.forall_mem_singleton.2 (leave _)) (absurd rfl)
    have convert : Host.Suite [.conditional [("isinstance(value, bool)",
        [.leave (some "'true' if value else 'false'")])] [], .leave (some "str(value)")] :=
      .items (List.cons_ne_nil _ _) (by simp)
        (List.forall_mem_cons.2 ⟨test, List.forall_mem_singleton.2 .leave⟩)
    simp only [Host.preludeItems, List.forall_mem_cons]
    exact ⟨.imports, .imports, .assign, .define convert,
      fun _ inside => absurd inside List.not_mem_nil⟩
  have functions : ∀ item ∈ program.functions.map (Function.item names), item.Filled := by
    intro item inside
    obtain ⟨function, _, rfl⟩ := List.mem_map.1 inside
    refine .define (Host.suite_listedItems (Stmt.allFilled names function.body) fun nothing => ?_)
    rw [Stmt.assignedAll_eq_nil names function.body nothing]
    rfl
  have initial : (initialItem names program.bindings).Filled := by
    refine .define (Host.suite_listedItems (fun item inside => ?_) fun nothing => ?_)
    · obtain ⟨binding, _, rfl⟩ := List.mem_map.1 inside
      exact ⟨.assign, Item.noConfusion⟩
    · rw [List.map_eq_nil_iff.1 nothing]
      rfl
  exact List.forall_mem_append.2 ⟨prelude, List.forall_mem_append.2
    ⟨functions, List.forall_mem_cons.2 ⟨initial, List.forall_mem_singleton.2 .table⟩⟩⟩

/-! ## Functions and tables -/

namespace Host

/-- A list of names of the module is read as one. -/
theorem Outline.pending?_listed {names : List String} (named : ∀ name ∈ names, isWord name = true)
    {rest : List Outline} {items : List Item} (reads : pending? rest = some { items }) :
    pending? (globalOutline names ++ rest) = some { items := listedItems names ++ items } := by
  unfold globalOutline listedItems
  split
  · exact reads
  · exact pending?_item (part?_line (Item.ofText?_listed named)) reads

/-- Outlines of statements are read one by one. -/
theorem Outline.pending?_map {α : Type} {outline : α → Outline} {item : α → Item} {all : List α}
    (each : ∀ one ∈ all, (outline one).part? = some (.item (item one))) {rest : List Outline}
    {others : List Item} (reads : pending? rest = some { items := others }) :
    pending? (all.map outline ++ rest) = some { items := all.map item ++ others } := by
  induction all with
  | nil => exact reads
  | cons one all ih =>
    obtain ⟨here, later⟩ := List.forall_mem_cons.1 each
    exact pending?_item here (ih later)

/-- Entries of a table are read one by one. -/
theorem mapM_entryOf? (functions : List (String × Function)) :
    (functions.map fun (name, function) => Text.quoted name ++ ": " ++ function.name ++ ",").mapM
      entryOf? = some (functions.map fun (name, function) => (name, function.name)) := by
  induction functions with
  | nil => rfl
  | cons function rest ih =>
    rw [List.map_cons, List.mapM_cons, entryOf?_eq, ih]
    rfl

/-- The outline of the table of exports is read as the table. -/
theorem part?_exports (functions : List (String × Function)) :
    (exportOutline functions).part? = some (.item (.table "__lag_exports__"
      (functions.map fun (name, function) => (name, function.name)))) := by
  unfold exportOutline
  split
  · rename_i empty
    rw [List.isEmpty_iff.1 empty]
    exact Outline.part?_line rfl
  · have name : tableName? "__lag_exports__ = \x7b" = some "__lag_exports__" := rfl
    rw [Outline.part?, name, mapM_entryOf?]
    rfl

/-- The outline of what every module starts with is read as that. -/
theorem Outline.pending?_prelude (title : String) {rest : List Outline} {others : List Item}
    (reads : pending? rest = some { items := others }) :
    pending? (preludeOutline title ++ rest) = some { items := preludeItems title ++ others } := by
  have logging : Item.ofText? "import logging as _lag_logging" =
      some (.imports "logging as _lag_logging") := rfl
  have math : Item.ofText? "import math as _lag_math" = some (.imports "math as _lag_math") := rfl
  have logger :
      IsExpression ("_lag_logging.getLogger(" ++ Text.quoted (journalName title) ++ ")") :=
    @isExpression_call "_lag_logging.getLogger(" _ ")" "_lag_logging".toList '.' _ rfl (by decide)
      (by decide) (by decide) (by decide) (by decide) (isExpression_quoted _).single
      ⟨⟨')', by decide⟩, by decide⟩
  have journal := @Item.ofText?_assign "_lag_logger" _ (by decide) logger
  have name : "_lag_logger" ++ " = " ++
      ("_lag_logging.getLogger(" ++ Text.quoted (journalName title) ++ ")") =
        "_lag_logger = _lag_logging.getLogger(" ++ Text.quoted (journalName title) ++ ")" := by
    rw [← String.append_assoc, ← String.append_assoc]
    rfl
  rw [name] at journal
  have convert : (suite "def _lag_str(value)" [
      suite "if isinstance(value, bool)" [line "return 'true' if value else 'false'"],
      line "return str(value)"]).part? = some (.item (.define "_lag_str" ["value"] [
        .conditional [("isinstance(value, bool)",
          [.leave (some "'true' if value else 'false'")])] [],
        .leave (some "str(value)")])) := rfl
  exact pending?_item (part?_line logging) (pending?_item (part?_line math)
    (pending?_item (part?_line journal) (pending?_item convert reads)))

end Host

section

variable {names : Names}

/-- The outline of a lowered function is read as what the function is written as. -/
theorem Function.item_read {function : Function Mark} (regular : function.Regular)
    (named : ∀ name ∈ (function.lower names).names, isWord name = true) :
    (function.lower names).outline.part? = some (.item (function.item names)) := by
  obtain ⟨isName, others⟩ := List.forall_mem_cons.1 named
  obtain ⟨listed, bodyNamed⟩ := List.forall_mem_append.1 others
  obtain ⟨paramsNamed, globalsNamed⟩ := List.forall_mem_append.1 listed
  have body := Stmt.body_read names (Stmt.itemsAll_read names function.body regular.body bodyNamed)
  have inside := Outline.pending?_listed globalsNamed body
  exact (Outline.part?_suite inside _).trans (Part.ofHeader?_define isName paramsNamed _)

/-- The outline of the lowered variables of a module is read as what they are written as. -/
theorem initialItem_read {bindings : List (Binding Mark)}
    (named : ∀ binding ∈ bindings, isWord (binding.note.lower names binding.name) = true ∧
      ∀ name ∈ (binding.value.lower names).names, isWord name = true) :
    (Host.initialOutline (bindings.map fun binding =>
      (binding.note.lower names binding.name, binding.value.lower names))).part? =
        some (.item (initialItem names bindings)) := by
  have globals : ∀ name ∈ (bindings.map fun binding =>
      (binding.note.lower names binding.name, binding.value.lower names)).map (·.1),
      isWord name = true := by
    intro name inside
    rw [List.map_map] at inside
    obtain ⟨binding, member, rfl⟩ := List.mem_map.1 inside
    exact (named binding member).1
  have each : ∀ binding ∈ bindings, (Outline.line (binding.note.lower names binding.name ++ " = " ++
      binding.value.hostText names)).part? = some (.item (.assign
        (binding.note.lower names binding.name) (binding.value.hostText names))) := by
    intro binding member
    obtain ⟨isName, valueNamed⟩ := named binding member
    exact Outline.part?_line (Item.ofText?_assign isName (Host.Expr.isExpression _ valueNamed))
  have values := @Outline.pending?_map _ _ _ bindings each [] [] (by rw [Outline.pending?])
  rw [List.append_nil, List.append_nil] at values
  have filled := Outline.pending?_fill (by rw [List.map_eq_nil_iff, List.map_eq_nil_iff]) values
  have inside := Outline.pending?_listed globals filled
  have header := @Part.ofHeader?_define "__lag_init__" (by decide) [] (by simp)
  have read := (Outline.part?_suite inside "def __lag_init__()").trans (header _)
  rw [List.map_map] at read
  rw [Host.initialOutline, List.map_map, List.map_map]
  exact read

end

/-- The text of the module for a checked program is read as what the program is written as. -/
theorem Program.IsChecked.items_read {program : Program Mark} (checked : program.IsChecked)
    (title : String) :
    Host.readItems (program.lowerAs title).toText =
      some (program.items title (Names.ofProgram program)) := by
  have named := checked.isWord_lowerAs title
  obtain ⟨functionsNamed, firstsNamed⟩ := List.forall_mem_append.1 named
  have functions : ∀ function ∈ program.functions,
      (function.lower (Names.ofProgram program)).outline.part? =
        some (.item (function.item (Names.ofProgram program))) := by
    intro function member
    refine Function.item_read (checked.regular _ (Program.mem_functions.1 member))
      fun name inside => functionsNamed name ?_
    exact List.mem_flatMap.2 ⟨_, List.mem_map_of_mem member, inside⟩
  have bindings : ∀ binding ∈ program.bindings,
      isWord (binding.note.lower (Names.ofProgram program) binding.name) = true ∧
        ∀ name ∈ (binding.value.lower (Names.ofProgram program)).names, isWord name = true :=
    fun binding member => List.forall_mem_cons.1 fun name inside => firstsNamed name
      (List.mem_flatMap.2 ⟨_, List.mem_map_of_mem member, inside⟩)
  have initial : (Host.initialOutline (program.lowerAs title).firsts).part? =
      some (.item (initialItem (Names.ofProgram program) program.bindings)) :=
    initialItem_read bindings
  have table : (Host.exportOutline (program.lowerAs title).functions).part? =
      some (.item (exportItem (Names.ofProgram program) program.functions)) := by
    rw [Host.part?_exports, Program.lowerAs, List.map_map]
    rfl
  have last := Outline.pending?_item initial
    (Outline.pending?_item table (by rw [Outline.pending?]))
  have whole := Outline.pending?_prelude title (Outline.pending?_map functions last)
  have outlined : (program.lowerAs title).outline = Host.preludeOutline title ++
      (program.functions.map (fun function =>
        (function.lower (Names.ofProgram program)).outline) ++ [
          Host.initialOutline (program.lowerAs title).firsts,
          Host.exportOutline (program.lowerAs title).functions]) := by
    rw [Host.Module.outline, Program.lowerAs, List.map_map]
    rfl
  rw [Host.readItems, Host.Module.outlined named, outlined, Option.bind_eq_bind, Option.bind_some,
    whole, Option.bind_eq_bind, Option.bind_some, Program.items]
  rfl

/-! ## Names of functions -/

/-- The name that is defined by a statement. -/
def Host.Item.defined? : Item → Option String
  | .define name _ _ => some name
  | _ => none

/-- The symbols of functions are among those of the declarations, in order. -/
theorem functionsOf_sublist : ∀ {declarations : List (Declaration Mark)},
    (∀ function ∈ functionsOf declarations,
      function.note.symbol = some (Typing.functionSymbol function)) →
      ((functionsOf declarations).map Typing.functionSymbol).Sublist
        (declarations.flatMap Host.declaredBy)
  | [], _ => .slnil
  | .function declared :: rest, noted => by
    obtain ⟨here, later⟩ := List.forall_mem_cons.1 noted
    rw [List.flatMap_cons, Host.declaredBy, here]
    exact (functionsOf_sublist later).cons_cons _
  | .binding declared :: rest, noted => by
    rw [List.flatMap_cons]
    exact (@functionsOf_sublist rest noted).trans (List.sublist_append_right _ _)

/-- No two functions of the module for a checked program have one name. -/
theorem Program.IsChecked.nodup_defined {program : Program Mark} (checked : program.IsChecked)
    (settle : Names.Settle [] (symbolsOf program)) (title : String) :
    ((program.items title (Names.ofProgram program)).filterMap Host.Item.defined?).Nodup := by
  have noted : ∀ function ∈ program.functions,
      function.note.symbol = some (Typing.functionSymbol function) := by
    intro function member
    obtain ⟨_, _, bound, _⟩ := checked.typed.defines member
    exact bound
  have own : ∀ function ∈ program.functions,
      function.note.lower (Names.ofProgram program) function.name =
        (Names.ofProgram program).find (Typing.functionSymbol function) := by
    intro function member
    rw [Mark.lower, Ident.lower, noted function member]
  have among : (program.functions.map Typing.functionSymbol).Sublist (symbolsOf program) := by
    rw [← functionsOf_declarations] at noted ⊢
    exact (functionsOf_sublist noted).trans (List.sublist_append_left _ _)
  have apart := List.pairwise_map.1 (checked.typed.nodup_origins checked.numbered)
  have different : (program.functions.map fun function =>
      function.note.lower (Names.ofProgram program) function.name).Nodup := by
    rw [List.map_congr_left own]
    refine List.pairwise_map.2 ((List.pairwise_map.1 (apart.sublist among)).imp_of_mem ?_)
    intro first second firstInside secondInside origins
    exact checked.find_ne settle (among.subset (List.mem_map_of_mem firstInside))
      (among.subset (List.mem_map_of_mem secondInside)) origins
  have free : ∀ name ∈ program.functions.map fun function =>
      function.note.lower (Names.ofProgram program) function.name, isReserved name = false := by
    intro name inside
    obtain ⟨function, member, rfl⟩ := List.mem_map.1 inside
    rw [own function member]
    exact checked.unreserved settle (among.subset (List.mem_map_of_mem member))
  have listed : (program.items title (Names.ofProgram program)).filterMap Host.Item.defined? =
      "_lag_str" :: ((program.functions.map fun function =>
        function.note.lower (Names.ofProgram program) function.name) ++ ["__lag_init__"]) := by
    rw [Program.items, List.filterMap_append, List.filterMap_append, List.filterMap_map,
      ← List.filterMap_eq_map]
    rfl
  rw [listed]
  refine List.nodup_cons.2 ⟨fun inside => ?_, List.nodup_append.2 ⟨different, by simp, ?_⟩⟩
  · rcases List.mem_append.1 inside with given | last
    · exact absurd (free _ given) (by decide)
    · exact absurd (List.mem_singleton.1 last) (by decide)
  · intro name given last member same
    rw [same, List.mem_singleton.1 member] at given
    exact absurd (free _ given) (by decide)

/-! ## The layout -/

/-- The layout keeps the tree. When the walk over a checked program ends, the text of the page is
read by its lines and their indentation as what the program is written as: a function for each
function, with its statements in their order, then the function that gives the variables their first
values, then the table that has for each function, in order, the name that its line defines. Blocks
are their statements, and a chain of conditionals is one conditional. Every body has a statement, a
statement that does nothing stands alone, and no two functions have one name. -/
theorem layout_kept {program : Program Mark} (checked : program.IsChecked) {title : String}
    {page : Page} (written : program.write title = some (.ok page)) :
    Host.readItems page.text = some (program.items title page.names) ∧
      (∀ item ∈ program.items title page.names, item.Filled) ∧
        ((program.items title page.names).filterMap Host.Item.defined?).Nodup := by
  obtain ⟨settle, rfl⟩ := checked.of_write written
  exact ⟨checked.items_read title, program.filled title _, checked.nodup_defined settle title⟩

/-- A function with nested blocks only, and one with a chain of conditionals and a loop. -/
def chained : String :=
  "let t = 0; fn g() { { { } } } fn f(n: int) \x7b if n < 0 { t = n; } else if n == 0 { } " ++
    "else { { t = 1; } } for i in 0..n { { } } \x7d"

/-- The layout of nested blocks, a chain of conditionals and a loop keeps the tree. -/
theorem layout_kept_chained : ∃ (program : Program Mark) (page : Page), program.IsChecked ∧
    program.write "m" = some (.ok page) ∧
      Host.readItems page.text = some (program.items "m" page.names) ∧
        (∀ item ∈ program.items "m" page.names, item.Filled) ∧
          ((program.items "m" page.names).filterMap Host.Item.defined?).Nodup := by
  obtain ⟨program, accepts, holds⟩ : ∃ program, Accepts chained none 20 program ∧
      (decide (∀ symbol ∈ symbolsOf program, ¬Host.IsPrelude symbol.name) &&
        decide ((symbolsOf program).countP (·.name == "_lag") ≤ 1)) = true :=
    exists_accepts (spelled_append rfl rfl) (by decide) (by decide +kernel)
  simp only [Bool.and_eq_true, decide_eq_true_eq] at holds
  obtain ⟨plain, few⟩ := holds
  have checked := accepts.checked
  have written := (checked.write_eq "m").1 ((checked.settle_iff plain).2 few)
  exact ⟨program, _, checked, written, layout_kept checked written⟩

end Lag
