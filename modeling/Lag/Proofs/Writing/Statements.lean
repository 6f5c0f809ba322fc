import Lag.Proofs.Tree.Regular
import Lag.Proofs.Writing.Expressions

/-!
# Statements are written

The walk over a well typed statement names the symbols that the statement declares, in order, and
appends the lines of the lowered statement. A name that a scope knows has been named before it is
used, because a declaration is named where it is written.
-/
namespace Lag

open Host (Names Line declared declaredAll)
open Typing (Body Declares Fits Follows HasType counterSymbol variableSymbol)

/-! ## Lines of lowered statements -/

namespace Host

/-- A line as the walk appends it. -/
def Line.raw (line : Line) : String := margin line.level ++ line.text

/-- The lines of statements, the first of which starts with a word if it is a conditional. -/
def Stmt.linesFrom (word : String) (level loops : Nat) : List Stmt → List Line
  | [] => []
  | first :: rest => first.lines word level loops ++ Stmt.linesAll level loops rest

/-- The lines of statements are those of the first ones and those of the others. -/
theorem Stmt.linesAll_append (level loops : Nat) (first second : List Stmt) :
    Stmt.linesAll level loops (first ++ second) =
      Stmt.linesAll level loops first ++ Stmt.linesAll level loops second := by
  induction first with
  | nil => rfl
  | cons stmt rest ih => rw [List.cons_append, linesAll, linesAll, ih, List.append_assoc]

/-- The lines of one statement. -/
theorem Stmt.linesFrom_singleton (word : String) (level loops : Nat) (stmt : Stmt) :
    Stmt.linesFrom word level loops [stmt] = stmt.lines word level loops := List.append_nil _

/-- Statements have the lines that each of them has with the usual word. -/
theorem Stmt.linesFrom_if (level loops : Nat) (stmts : List Stmt) :
    Stmt.linesFrom "if" level loops stmts = Stmt.linesAll level loops stmts := by
  cases stmts <;> rfl

/-- The lines of a body as the walk appends them. -/
theorem map_suite (level : Nat) (lines : List Line) :
    (suite level lines).map Line.raw =
      if (lines.map Line.raw).isEmpty then [margin level ++ "pass"]
      else lines.map Line.raw := by
  cases lines <;> rfl

end Host

/-- No block is a conditional. -/
theorem Stmt.ne_block {α : Type} {stmt : Stmt α} (conditional : stmt.isConditional = true)
    (mark : α) (body : List (Stmt α)) : stmt ≠ .block mark body := by
  rintro rfl
  cases conditional

/-! ## Scopes after statements -/

namespace Typing

/-- The scope after a statement has the symbols that the statement declares and those before. -/
theorem Follows.holds {result : Ty} {table next : SymbolTable} {stmt : Stmt Mark}
    (follows : Follows result table stmt next) {has : Symbol → Prop} (holds : table.Holds has)
    (added : ∀ symbol ∈ declared stmt, symbol.kind ≠ .builtin →
      (∃ origin, symbol.origin = some origin) → has symbol) : next.Holds has := by
  cases follows with
  | declare declares =>
    obtain ⟨_, _, _, bound, fresh⟩ := declares
    rw [declared, bound] at added
    exact holds.define fresh (added _ (List.mem_singleton.2 rfl) (by simp [variableSymbol])
      ⟨_, rfl⟩)
  | _ => exact holds

end Typing

variable {names all : Names}

namespace Typing

/-- A well typed expression does nothing but give its text. -/
theorem HasType.does {table : SymbolTable} {expr : Expr Mark} {type : Ty}
    (typed : HasType table expr type) (regular : expr.Regular) (named : table.Holds (·.Named names))
    (part : names.Part all) (level : Nat) : Does expr.write level names [] [] (expr.lower all).toText :=
  .quiet fun _ => typed.on_write named part regular

/-- An expression that fits a place does nothing but give its text. -/
theorem Fits.does {table : SymbolTable} {expr : Expr Mark} {place : Ty}
    (fits : Fits table place expr) (regular : expr.Regular) (named : table.Holds (·.Named names))
    (part : names.Part all) (level : Nat) : Does expr.write level names [] [] (expr.lower all).toText :=
  .quiet fun _ => fits.on_write named part regular

/-- A declaration of a variable names it and writes its line. -/
theorem Declares.does {inModule : Bool} {table next : SymbolTable} {binding : Binding Mark}
    (declares : Declares inModule table binding next) (regular : binding.Regular)
    (named : table.Holds (·.Named names)) (leads : Leads names binding.note.symbol.toList all)
    (level : Nat) : Does binding.write level names binding.note.symbol.toList
      [margin level ++ (binding.note.lower all binding.name ++ " = " ++
        (binding.value.lower all).toText)] () := by
  obtain @⟨type, _, _, _, fits, bound, _⟩ := declares
  rw [bound] at leads ⊢
  have later := named.imp fun symbol known => known.foldl [variableSymbol inModule binding type]
  have value := fits.does regular.value later leads.kept level
  exact (does_nameOf bound leads binding.name level).bind (value.after (.emit _))

mutual

/-- A well typed statement names what it declares and writes its lines. -/
theorem Follows.does {result : Ty} : ∀ {stmt : Stmt Mark} {table next : SymbolTable}
    {names : Names}, Follows result table stmt next → stmt.Regular →
      table.Holds (·.Named names) → Leads names (declared stmt) all →
        ∀ (level : Nat) (word : String) (loops : Nat), (stmt.isConditional = false → word = "if") →
          Does (stmt.write word) level names (declared stmt)
            ((Host.Stmt.linesFrom word level loops (stmt.lower all)).map Line.raw) ()
  | .declare binding, _, _, _, .declare declares, regular, named, leads, level, word, loops, _ => by
    rw [Stmt.lower, Host.Stmt.linesFrom_singleton]
    exact declares.does regular named leads level
  | .assign _ target value, _, _, _, .assign found readable _ bound _ fits, regular, named, leads,
      level, word, loops, _ => by
    have plain : ∀ kind : SymbolKind, kind.isFunction = false → kind ≠ .builtin := by
      rintro _ reads rfl
      cases reads
    have text := fits.does regular named leads.part level
    rw [Stmt.lower, Host.Stmt.linesFrom_singleton]
    refine .after (.quiet fun _ => ?_) (text.after (.emit _))
    exact on_nameOf leads.part bound (named.lookup? found) (plain _ readable) target.name
  | .leave _ none, _, _, _, .leaveNothing _, _, _, _, level, word, loops, _ => by
    rw [Stmt.lower, Host.Stmt.linesFrom_singleton]
    exact .emit _
  | .leave _ (some value), _, _, _, .leave _ fits, regular, named, leads, level, word, loops, _ => by
    have text := fits.does (regular value rfl) named leads.part level
    rw [Stmt.lower, Host.Stmt.linesFrom_singleton]
    exact text.after (.emit _)
  | .evaluate _ value, _, _, _, .evaluate typed _, regular, named, leads, level, word, loops, _ => by
    have text := typed.does regular named leads.part level
    rw [Stmt.lower, Host.Stmt.linesFrom_singleton]
    exact text.after (.emit _)
  | .block _ body, _, _, _, .block inside, regular, named, leads, level, word, loops, usual => by
    rw [Stmt.lower, usual rfl, Host.Stmt.linesFrom_if]
    exact inside.does regular (named.push "block") leads level loops
  | .ifThen _ test _ body, _, _, _, .ifThen truth _ inside, regular, named, leads, level, word, loops,
      _ => by
    have text := truth.does regular.1 named leads.part level
    have suite := (inside.does regular.2 (named.push "block") leads (level + 1) loops).suite
    rw [Stmt.lower, Host.Stmt.linesFrom_singleton, Host.Stmt.lines, List.map_cons, Host.map_suite]
    exact text.after ((Does.emit _).seq suite)
  | .ifElse mark test bodyMark body otherwise, _, _, _, .ifElse truth _ inside branch other,
      regular, named, leads, level, word, loops, _ => by
    have text := truth.does regular.1 named leads.part level
    have suite := (inside.does regular.2.1 (named.push "block") leads.front (level + 1) loops).suite
    have known := named.imp fun symbol known => known.foldl (declaredAll body)
    have further := other.does regular.2.2.2 known leads.back
    by_cases conditional : otherwise.isConditional = true
    · obtain ⟨next, single, lowered⟩ := (Stmt.lower_ifElse all branch mark bodyMark test
        body).resolve_left fun ⟨_, _, isBlock⟩ => Stmt.ne_block conditional _ _ isBlock
      have chained := further level "elif" loops fun plain =>
        absurd (conditional.symm.trans plain) (by decide)
      rw [single, Host.Stmt.linesFrom_singleton] at chained
      rw [lowered, Host.Stmt.linesFrom_singleton, Host.Stmt.lines,
        List.cons_append, List.map_cons, List.map_append, Host.map_suite, Stmt.write]
      · rw [if_pos conditional]
        exact text.after ((Does.emit _).seq (suite.seq chained))
      · exact Stmt.ne_block conditional
    · cases otherwise with
      | block otherMark last =>
        have closing := further (level + 1) "if" loops fun _ => rfl
        rw [Stmt.lower, Host.Stmt.linesFrom_if] at closing
        rw [Stmt.lower, Host.Stmt.linesFrom_singleton, Host.Stmt.lines, List.cons_append,
          List.map_cons, List.map_append, List.map_cons, Host.map_suite, Host.map_suite]
        exact text.after ((Does.emit _).seq (suite.seq ((Does.emit _).seq (Does.suite closing))))
      | ifThen | ifElse => exact absurd rfl conditional
      | _ => cases branch
  | .whileLoop _ test _ body, _, _, _, .whileLoop truth _ inside, regular, named, leads, level,
      word, loops, _ => by
    have text := truth.does regular.1 named leads.part level
    have suite := (inside.does regular.2 (named.push "block") leads (level + 1) (loops + 1)).suite
    rw [Stmt.lower, Host.Stmt.linesFrom_singleton, Host.Stmt.lines, List.map_cons, Host.map_suite]
    exact text.after ((Does.emit _).seq suite)
  | .forLoop mark counter first bound _ body, _, _, _,
      .forLoop firstTyped _ boundTyped _ noted fresh inside, regular, named, leads, level, word, loops,
      _ => by
    rw [declared, noted] at leads ⊢
    have start := firstTyped.does regular.2.1 named leads.part level
    have stop := boundTyped.does regular.2.2.1 named leads.part level
    have name := does_nameOf noted leads.front counter level
    have around := ((named.imp fun symbol known => known.foldl [counterSymbol mark counter]).push
      "for").define fresh (.of_mem (List.mem_singleton.2 rfl) (by simp [counterSymbol]) rfl)
    have suite :=
      (inside.does regular.2.2.2 (around.push "block") leads.back (level + 1) (loops + 1)).suite
    rw [Stmt.lower, Host.Stmt.linesFrom_singleton, Host.Stmt.lines, List.map_cons, Host.map_suite]
    exact start.after (stop.after (name.bind ((Does.emit _).seq suite)))

/-- Well typed statements name what they declare and write their lines. -/
theorem Body.does {result : Ty} : ∀ {body : List (Stmt Mark)} {table : SymbolTable}
    {names : Names}, Body result table body → Stmt.AllRegular body →
      table.Holds (·.Named names) → Leads names (declaredAll body) all →
        ∀ level loops : Nat, Does (Stmt.writeAll body) level names (declaredAll body)
          ((Host.Stmt.linesAll level loops (Stmt.lowerAll all body)).map Line.raw) ()
  | [], _, _, _, _, _, _, _, _ => .pure ()
  | stmt :: rest, _, _, .cons first others, regular, named, leads, level, loops => by
    have here := first.does regular.1 named leads.front level "if" loops fun _ => rfl
    rw [Host.Stmt.linesFrom_if] at here
    have known := first.holds (named.imp fun symbol known => known.foldl (declared stmt))
      fun symbol inside plain ⟨origin, is⟩ => .of_mem inside plain is
    have later := others.does regular.2 known leads.back level loops
    rw [Stmt.lowerAll, Host.Stmt.linesAll_append, List.map_append]
    exact here.seq later

end

end Typing

end Lag
