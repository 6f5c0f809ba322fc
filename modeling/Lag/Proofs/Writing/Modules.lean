import Lag.Proofs.Typing.Occurring
import Lag.Proofs.Writing.Statements

/-!
# Modules are written

The walk over a well typed program that was read names all of its symbols in order and writes the
lines of the lowered module. It ends exactly if the search for each name ends, and there is no other
outcome: it always finds what it looks up.
-/
namespace Lag

open Host (Names Line declared declaredAll declaredBy declaredIn symbolsOf)
open Typing (Body Declares Defines Follows Params Within functionSymbol)

/-! ## Variables of the module -/

mutual

/-- The variables of the module that a statement assigns to are among its targets. -/
theorem Stmt.assigned_eq (names : Names) : ∀ stmt : Stmt Mark,
    stmt.assigned names =
      stmt.targets.flatMap fun target => if target.inModule then [target.lower names] else []
  | .assign _ target _ => (List.append_nil _).symm
  | .declare _ | .leave _ _ | .evaluate _ _ => rfl
  | .block _ body | .ifThen _ _ _ body | .whileLoop _ _ _ body | .forLoop _ _ _ _ _ body =>
    Stmt.assignedAll_eq names body
  | .ifElse _ _ _ body otherwise => by
    rw [Stmt.assigned, Stmt.targets, List.flatMap_append, Stmt.assignedAll_eq names body,
      Stmt.assigned_eq names otherwise]

/-- The variables of the module that statements assign to are among their targets. -/
theorem Stmt.assignedAll_eq (names : Names) : ∀ body : List (Stmt Mark),
    Stmt.assignedAll names body = (Stmt.allTargets body).flatMap fun target =>
      if target.inModule then [target.lower names] else []
  | [] => rfl
  | stmt :: rest => by
    rw [Stmt.assignedAll, Stmt.allTargets, List.flatMap_append, Stmt.assigned_eq names stmt,
      Stmt.assignedAll_eq names rest]

end

namespace Typing

/-- The scope after a statement of a function has symbols of functions besides those before. -/
theorem Follows.holds_local {result : Ty} {table next : SymbolTable} {stmt : Stmt Mark}
    (follows : Follows result table stmt next) {has : Symbol → Prop} (holds : table.Holds has)
    (locals : ∀ symbol : Symbol, symbol.inModule = false → has symbol) : next.Holds has := by
  cases follows with
  | declare declares =>
    obtain ⟨_, _, _, _, fresh⟩ := declares
    exact holds.define fresh (locals _ rfl)
  | _ => exact holds

mutual

/-- A target of a well typed statement stands for a symbol of its scope. -/
theorem Follows.targets {result : Ty} {has : Symbol → Prop}
    (locals : ∀ symbol : Symbol, symbol.inModule = false → has symbol) :
    ∀ {stmt : Stmt Mark} {table next : SymbolTable}, Follows result table stmt next →
      table.Holds has → ∀ target ∈ stmt.targets, ∃ symbol,
        target.note.symbol = some symbol ∧ symbol.kind.isFunction = false ∧ has symbol
  | .assign _ target _, _, _, .assign found readable _ bound _ _, holds => fun other inside => by
    obtain rfl := List.mem_singleton.1 inside
    exact ⟨_, bound, readable, holds.lookup? found⟩
  | .declare _, _, _, _, _ | .leave _ _, _, _, _, _ | .evaluate _ _, _, _, _, _ =>
    fun _ inside => absurd inside List.not_mem_nil
  | .block _ _, _, _, .block body, holds => body.targets locals (holds.push "block")
  | .ifThen _ _ _ _, _, _, .ifThen _ _ body, holds
  | .whileLoop _ _ _ _, _, _, .whileLoop _ _ body, holds => body.targets locals (holds.push "block")
  | .ifElse _ _ _ _ _, _, _, .ifElse _ _ body _ other, holds =>
    List.forall_mem_append.2 ⟨body.targets locals (holds.push "block"), other.targets locals holds⟩
  | .forLoop _ _ _ _ _ _, _, _, .forLoop _ _ _ _ _ fresh body, holds =>
    body.targets locals (((holds.push "for").define fresh (locals _ rfl)).push "block")

/-- A target of well typed statements stands for a symbol of its scope. -/
theorem Body.targets {result : Ty} {has : Symbol → Prop}
    (locals : ∀ symbol : Symbol, symbol.inModule = false → has symbol) :
    ∀ {body : List (Stmt Mark)} {table : SymbolTable}, Body result table body →
      table.Holds has → ∀ target ∈ Stmt.allTargets body, ∃ symbol,
        target.note.symbol = some symbol ∧ symbol.kind.isFunction = false ∧ has symbol
  | [], _, _, _ => fun _ inside => absurd inside List.not_mem_nil
  | _ :: _, _, .cons first others, holds =>
    List.forall_mem_append.2 ⟨first.targets locals holds,
      others.targets locals (first.holds_local holds locals)⟩

end

/-- A parameter that a scope takes up has its symbol. -/
theorem Params.bound {table next : SymbolTable} {params : List (Param Mark)}
    (takes : Params table params next) :
    ∀ param ∈ params, param.note.symbol = some (paramSymbol param) := by
  induction takes with
  | nil => exact fun _ inside => absurd inside List.not_mem_nil
  | cons _ bound _ _ ih => exact List.forall_mem_cons.2 ⟨bound, ih⟩

/-- The scope below the parameters of a function has the parameters besides the symbols before. -/
theorem Params.holds {table next : SymbolTable} {params : List (Param Mark)}
    (takes : Params table params next) {has : Symbol → Prop} (holds : table.Holds has)
    (added : ∀ param ∈ params, has (paramSymbol param)) : next.Holds has := by
  induction takes with
  | nil => exact holds
  | cons _ _ fresh _ ih =>
    obtain ⟨first, others⟩ := List.forall_mem_cons.1 added
    exact ih (holds.define fresh first) others

end Typing

/-- The variables of the module among targets are collected, each once. -/
theorem on_collectGlobals {page : Page} {all : Names} (part : page.names.Part all)
    {targets : List (Ident Mark)}
    (known : ∀ target ∈ targets, ∃ symbol, target.note.symbol = some symbol ∧
      symbol.kind.isFunction = false ∧ (symbol.inModule = true → symbol.Named page.names))
    (found : List String) :
    (collectGlobals targets found.eraseDups).on page = some (.ok ((found ++
      targets.flatMap fun target =>
        if target.inModule then [target.lower all] else []).eraseDups, page)) := by
  induction targets generalizing found with
  | nil => rw [List.flatMap_nil, List.append_nil, collectGlobals, Writer.on_pure]
  | cons target rest ih =>
    obtain ⟨⟨symbol, bound, readable, named⟩, others⟩ := List.forall_mem_cons.1 known
    have isInModule : target.inModule = (symbol.inModule && symbol.kind == .variable) := by
      rw [Ident.inModule, bound]
    rw [collectGlobals, Writer.on_bind (on_symbolOf bound _), List.flatMap_cons, ← isInModule]
    split
    · rename_i inModule
      rw [inModule, Bool.true_eq, Bool.and_eq_true] at isInModule
      have plain : symbol.kind ≠ .builtin := by
        intro builtin
        rw [builtin] at readable
        cases readable
      have isName : target.lower all = all.find symbol := by
        rw [Ident.lower, bound]
      rw [Writer.on_bind (on_useName part (named isInModule.1) plain), isName,
        ← List.append_assoc, ← ih others (found ++ [all.find symbol]), List.eraseDups_append]
      by_cases twice : all.find symbol ∈ found
      · have contained : found.eraseDups.contains (all.find symbol) = true :=
          List.contains_iff_mem.2 (List.mem_eraseDups.2 twice)
        have nothing : ([all.find symbol].removeAll found).eraseDups = [] := by
          simp [List.removeAll, twice]
        rw [if_pos contained, nothing, List.append_nil]
      · have missing : found.eraseDups.contains (all.find symbol) = false := by
          rw [List.contains_eq_mem, decide_eq_false_iff_not, List.mem_eraseDups]
          exact twice
        have itself : ([all.find symbol].removeAll found).eraseDups = [all.find symbol] := by
          simp [List.removeAll, twice, List.eraseDups_cons]
        rw [missing, if_neg Bool.false_ne_true, itself]
    · rw [List.nil_append]
      exact ih others found

/-- The line that lists names of the module is written if there are any. -/
theorem does_writeGlobals (found : List String) (names : Names) :
    Does (writeGlobals found) 1 names [] ((Host.globalLine found).map Line.raw) () := by
  unfold writeGlobals Host.globalLine
  split
  · exact .pure ()
  · exact .emit _

/-- A blank line is empty. -/
theorem Host.Line.raw_blank : Line.raw Host.blank = "" := by decide

/-! ## Functions -/

namespace Typing

variable {names all : Names} {table : SymbolTable}

/-- A well typed function of the module names what it declares and writes its lines. -/
theorem Defines.does {function : Function Mark} (defines : Defines table function)
    (regular : function.Regular) (named : table.Holds (·.Named names))
    (own : (functionSymbol function).Named names) (leads : Leads names (declaredIn function) all) :
    Does function.write 0 names (declaredIn function) ((function.lower all).lines.map Line.raw)
      () := by
  obtain ⟨bound, _, takes, inside, _⟩ := defines
  have params := does_namesOf (fun param : Param Mark => param.note) (fun param => param.name)
    (fun param member => ⟨_, takes.bound param member⟩) leads.front 0
  -- From here on the symbols of the parameters have names, too.
  have around := takes.holds
    ((named.imp fun symbol known => known.foldl
      (function.params.flatMap (·.note.symbol.toList))).push ("fn " ++ function.name))
    fun param member => .of_mem
      (List.mem_flatMap.2 ⟨param, member, Option.mem_toList.2 (takes.bound param member)⟩)
      (by simp [paramSymbol]) rfl
  have part := leads.back.part
  have locals := (around.push "block").imp fun symbol known (_ : symbol.inModule = true) => known
  have targets := inside.targets
    (fun symbol isLocal inModule => absurd (isLocal.symm.trans inModule) (by decide)) locals
  have body := inside.does regular.body (around.push "block") leads.back 1 0
  have name : ∀ page : Page, page.names =
      (function.params.flatMap (·.note.symbol.toList)).foldl Names.add names →
        (nameOf function.note).on page =
          some (.ok (function.note.lower all function.name, page)) := by
    intro page same
    exact on_nameOf (same ▸ part) bound (same ▸ own.foldl _) (by simp [functionSymbol])
      function.name
  have globals : ∀ page : Page, page.names =
      (function.params.flatMap (·.note.symbol.toList)).foldl Names.add names →
        (collectGlobals (Stmt.allTargets function.body) []).on page =
          some (.ok ((Stmt.assignedAll all function.body).eraseDups, page)) := by
    intro page same
    have collected := @on_collectGlobals page all (same ▸ part) _ (same ▸ targets) []
    rwa [List.nil_append, ← Stmt.assignedAll_eq] at collected
  rw [Host.Function.lines, List.cons_append, List.map_cons, List.map_append, Host.map_suite]
  exact params.bind (.after (.quiet fun _ => name _ rfl) ((Does.emit _).seq
    (.after (.quiet fun _ => globals _ rfl) ((does_writeGlobals _ _).deeper.seq body.suite))))

variable {program : Lag.Program Mark}

/-- The scopes of the module know symbols that have names if the declarations of the module have. -/
theorem Within.named (within : Within program table) (typed : Program program)
    (known : ∀ symbol ∈ program.declarations.flatMap declaredBy, symbol.Named names) :
    table.Holds (·.Named names) := by
  refine (within.holds typed).imp ?_
  rintro symbol (⟨declared, _⟩ | isBuiltin)
  · exact known symbol declared
  · exact .inr isBuiltin

/-- The declarations of a module introduce no built-in functions. -/
theorem Program.plain (typed : Program program) {symbol : Symbol}
    (inside : symbol ∈ program.declarations.flatMap declaredBy) : symbol.kind ≠ .builtin := by
  obtain ⟨declaration, member, noted⟩ := List.mem_flatMap.1 inside
  cases declaration with
  | function function =>
    rw [← Program.mem_functions] at member
    obtain ⟨_, _, bound, _⟩ := typed.defines member
    rw [declaredBy, bound] at noted
    rw [List.mem_singleton.1 noted]
    simp [functionSymbol]
  | binding binding =>
    rw [← Program.mem_bindings] at member
    obtain ⟨_, _, _, _, _, _, bound, _⟩ := typed.declares member
    rw [declaredBy, bound] at noted
    rw [List.mem_singleton.1 noted]
    simp [variableSymbol]

/-- The declarations of a well typed module have symbols. -/
theorem Program.declared (typed : Program program) : ∀ declaration ∈ program.declarations,
    ∃ symbol, declaration.note.symbol = some symbol := by
  intro declaration member
  cases declaration with
  | function function =>
    rw [← Program.mem_functions] at member
    obtain ⟨_, _, bound, _⟩ := typed.defines member
    exact ⟨_, bound⟩
  | binding binding =>
    rw [← Program.mem_bindings] at member
    obtain ⟨_, _, _, _, _, _, bound, _⟩ := typed.declares member
    exact ⟨_, bound⟩

/-- The functions of a module name what they declare and write their lines. -/
theorem Program.does_functions (typed : Program program) (regular : program.Regular) :
    ∀ {functions : List (Function Mark)} {names : Names},
      (∀ function ∈ functions, function ∈ program.functions) →
        (∀ symbol ∈ program.declarations.flatMap declaredBy, symbol.Named names) →
          Leads names (functions.flatMap declaredIn) all →
            Does (Function.writeAll functions) 0 names (functions.flatMap declaredIn)
              ((functions.flatMap fun function =>
                Host.blank :: Host.blank :: (function.lower all).lines).map Line.raw) ()
  | [], _, _, _, _ => .pure ()
  | function :: rest, names, inside, known, leads => by
    obtain ⟨here, others⟩ := List.forall_mem_cons.1 inside
    obtain ⟨_, within, defines⟩ := typed.defines here
    have isDeclared := Program.mem_functions.1 here
    have own := known _ (typed.function_declared here)
    have first := defines.does (regular _ isDeclared) (within.named typed known) own leads.front
    have later := typed.does_functions regular others
      (fun symbol member => (known symbol member).foldl (declaredIn function)) leads.back
    rw [List.flatMap_cons, List.flatMap_cons, List.map_append, List.map_cons, List.map_cons,
      Line.raw_blank]
    exact (Does.emitAll ["", ""]).seq (first.seq later)

/-! ## Variables and exports -/

/-- A variable of the module that has a name is written under it. -/
theorem Declares.does_named {inModule : Bool} {next : SymbolTable} {binding : Binding Mark}
    (declares : Declares inModule table binding next) (regular : binding.Regular)
    (named : table.Holds (·.Named names)) (part : names.Part all)
    (own : ∀ symbol, binding.note.symbol = some symbol → symbol.Named names) (level : Nat) :
    Does binding.write level names [] [margin level ++ (binding.note.lower all binding.name ++
      " = " ++ (binding.value.lower all).toText)] () := by
  obtain @⟨type, _, _, _, fits, bound, _⟩ := declares
  have value := fits.does regular.value named part level
  exact .after (.quiet fun _ => on_nameOf part bound (own _ bound) (by simp [variableSymbol])
    binding.name) (value.after (.emit _))

/-- The variables of a module that have names are written under them. -/
theorem Program.does_bindings (typed : Program program) (regular : program.Regular)
    (known : ∀ symbol ∈ program.declarations.flatMap declaredBy, symbol.Named names)
    (part : names.Part all) : ∀ {bindings : List (Binding Mark)},
      (∀ binding ∈ bindings, binding ∈ program.bindings) →
        Does (Binding.writeAll bindings) 1 names [] (bindings.map fun binding => margin 1 ++
          (binding.note.lower all binding.name ++ " = " ++ (binding.value.lower all).toText)) ()
  | [], _ => .pure ()
  | binding :: rest, inside => by
    obtain ⟨here, others⟩ := List.forall_mem_cons.1 inside
    obtain ⟨_, _, within, declares⟩ := typed.declares here
    have isDeclared := Program.mem_bindings.1 here
    have own : ∀ symbol, binding.note.symbol = some symbol → symbol.Named names :=
      fun symbol noted => known symbol
        (List.mem_flatMap.2 ⟨.binding binding, isDeclared, Option.mem_toList.2 noted⟩)
    have first := declares.does_named (regular _ isDeclared) (within.named typed known) part own 1
    exact first.seq (typed.does_bindings regular known part others)

/-- The function that gives the variables of a module their first values is written. -/
theorem Program.does_initial (typed : Program program) (regular : program.Regular)
    (known : ∀ symbol ∈ program.declarations.flatMap declaredBy, symbol.Named names)
    (part : names.Part all) {bindings : List (Binding Mark)}
    (inside : ∀ binding ∈ bindings, binding ∈ program.bindings) :
    Does (writeInitial bindings) 0 names [] ((Host.initialLines (bindings.map fun binding =>
      (binding.note.lower all binding.name, binding.value.lower all))).map Line.raw) () := by
  have listed : ∀ binding ∈ bindings, ∃ symbol, binding.note.symbol = some symbol ∧
      symbol.kind ≠ .builtin ∧ symbol.Named names := by
    intro binding member
    have isDeclared := Program.mem_bindings.1 (inside binding member)
    obtain ⟨symbol, noted⟩ := typed.declared _ isDeclared
    have introduced : symbol ∈ program.declarations.flatMap declaredBy :=
      List.mem_flatMap.2 ⟨_, isDeclared, Option.mem_toList.2 noted⟩
    exact ⟨symbol, noted, typed.plain introduced, known symbol introduced⟩
  have collects : ∀ before, (namesOf (bindings.map fun binding => binding.note)).on
      ⟨before, 1, names⟩ = some (.ok (bindings.map fun binding =>
        binding.note.lower all binding.name, ⟨before, 1, names⟩)) := fun before =>
    @on_namesOf all ⟨before, 1, names⟩ part _ bindings Binding.note Binding.name listed
  have values := typed.does_bindings regular known part inside
  cases bindings with
  | nil => exact (Does.emit _).seq (.deeper (.after (.quiet collects)
      ((does_writeGlobals [] names).seq (values.seq (.emit "pass")))))
  | cons binding rest =>
    rw [Host.initialLines, List.cons_append, List.map_cons, List.map_append, Host.suite, if_neg
      (by simp), List.map_map, List.map_map, List.map_map]
    exact (Does.emit _).seq (.deeper (.after (.quiet collects)
      ((does_writeGlobals _ names).seq (values.before (.pure ())))))

/-- The rows of the table of exports are written. -/
theorem Program.does_exports (typed : Program program)
    (known : ∀ symbol ∈ program.declarations.flatMap declaredBy, symbol.Named names)
    (part : names.Part all) : ∀ {functions : List (Function Mark)},
      (∀ function ∈ functions, function ∈ program.functions) →
        Does (writeExports functions) 0 names [] (functions.map fun function => Line.raw
          ⟨1, Text.quoted function.name ++ ": " ++ function.note.lower all function.name ++ ",", 0⟩) ()
  | [], _ => .pure ()
  | function :: rest, inside => by
    obtain ⟨here, others⟩ := List.forall_mem_cons.1 inside
    obtain ⟨_, _, bound, _⟩ := typed.defines here
    have own := known _ (typed.function_declared here)
    have row : margin 0 ++ (margin 1 ++ Text.quoted function.name ++ ": " ++
        function.note.lower all function.name ++ ",") = Line.raw
          ⟨1, Text.quoted function.name ++ ": " ++ function.note.lower all function.name ++ ",",
            0⟩ := by
      simp [Line.raw, margin, String.append_assoc]
    have first := @Does.emit 0 names (margin 1 ++ Text.quoted function.name ++ ": " ++
      function.note.lower all function.name ++ ",")
    rw [row] at first
    exact .after (.quiet fun _ => on_nameOf part bound own (by simp [functionSymbol])
      function.name) (first.seq (typed.does_exports known part others))

/-- The table of exports is written. -/
theorem Program.does_table (typed : Program program)
    (known : ∀ symbol ∈ program.declarations.flatMap declaredBy, symbol.Named names)
    (part : names.Part all) : Does (writeTable program.functions) 0 names []
      ((Host.exportLines (program.functions.map fun function =>
        (function.name, function.lower all))).map Line.raw) () := by
  have rows := typed.does_exports known part (fun _ inside => inside)
  cases shape : program.functions with
  | nil => exact .emit _
  | cons function rest =>
    rw [shape] at rows
    have lines : (Host.exportLines ((function :: rest).map fun function =>
        (function.name, function.lower all))).map Line.raw =
          [Line.raw ⟨0, "__lag_exports__ = \x7b", 0⟩] ++ (((function :: rest).map fun function =>
            Line.raw ⟨1, Text.quoted function.name ++ ": " ++
              function.note.lower all function.name ++ ",", 0⟩) ++ [Line.raw ⟨0, "\x7d", 0⟩]) := by
      rw [Host.exportLines, if_neg (by simp), List.cons_append, List.map_cons, List.map_append,
        List.map_map, List.map_map]
      rfl
    rw [lines]
    exact (Does.emit _).seq (rows.seq (.emit _))

/-! ## Whole modules -/

/-- The symbols of a well typed program with different numbers are new at the start. -/
theorem Program.leads (typed : Program program)
    (numbered : (program.ids Mark.id).Pairwise (· < ·)) :
    Leads [] (symbolsOf program) (Names.ofProgram program) := by
  refine ⟨Names.new_of_distinct [] (typed.nodup_origins numbered) fun symbol inside => ?_,
    fun _ _ found => found⟩
  obtain ⟨origin, is⟩ := typed.isSome_origin inside
  exact ⟨origin, is, rfl⟩

/-- The walk over a well typed program that was read names its symbols and writes its lines. -/
theorem Program.does (typed : Program program) (regular : program.Regular)
    (numbered : (program.ids Mark.id).Pairwise (· < ·)) (title : String) :
    Does (program.writer title) 0 [] (symbolsOf program)
      ((Host.prelude title).map Line.toText ++
        (((program.lowerAs title).functions.flatMap fun (_, function) =>
            Host.blank :: Host.blank :: function.lines) ++
          Host.blank :: Host.blank :: Host.initialLines (program.lowerAs title).firsts ++
          Host.blank :: Host.blank ::
            Host.exportLines (program.lowerAs title).functions).map Line.raw) () := by
  have leads := typed.leads numbered
  have introduced : (program.declarations.flatMap fun declaration =>
      declaration.note.symbol.toList) = program.declarations.flatMap declaredBy := by
    refine List.flatMap_congr fun declaration _ => ?_
    cases declaration <;> rfl
  have first := does_namesOf Declaration.note (fun _ => "") typed.declared
    (introduced ▸ leads.front) 0
  rw [introduced] at first
  have known : ∀ symbol ∈ program.declarations.flatMap declaredBy,
      symbol.Named ((program.declarations.flatMap declaredBy).foldl Names.add []) := by
    intro symbol inside
    obtain ⟨origin, is⟩ := typed.isSome_origin (List.mem_append_left _ inside)
    exact .of_mem inside (typed.plain inside) is
  have functions := typed.does_functions regular (fun _ inside => inside) known leads.back
  -- From here on all symbols have names.
  have later := fun symbol inside =>
    (known symbol inside).foldl (program.functions.flatMap declaredIn)
  have part := leads.back.kept
  have initial := typed.does_initial regular later part (fun _ inside => inside)
  have table := typed.does_table later part
  have whole := first.seq ((Does.emitAll ((Host.prelude title).map Line.toText)).seq
    (functions.seq ((Does.emitAll ["", ""]).seq (initial.seq ((Does.emitAll ["", ""]).seq table)))))
  simp only [List.append_nil, List.nil_append] at whole
  have lines (functions firsts exports : List Line) : (functions ++ Host.blank :: Host.blank ::
      firsts ++ Host.blank :: Host.blank :: exports).map Line.raw = functions.map Line.raw ++
        (["", ""] ++ (firsts.map Line.raw ++ (["", ""] ++ exports.map Line.raw))) := by
    simp [Line.raw_blank]
  rw [lines, Program.lowerAs, List.flatMap_map]
  exact whole

end Typing

end Lag
