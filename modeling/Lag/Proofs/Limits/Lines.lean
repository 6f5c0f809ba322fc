import Lag.Proofs.Limits.Texts

/-!
# Lines of written modules

A line of a module is a line of the prelude, a blank line, or a line of one of a few forms, with
names of the module and texts of expressions in them. What holds of the texts of all forms holds of
the texts of all lines, the prelude and blank lines aside.

The words in the lines of a module are names of the host if the names of the module are. So the host
refuses no line for a word, and none that has few enough parentheses.
-/
namespace Lag.Host

mutual

/-- The names in a statement. -/
def Stmt.names : Stmt → List String
  | .assign name value => name :: value.names
  | .evaluate value => value.names
  | .leave none => []
  | .leave (some value) => value.names
  | .ifThen test body => test.names ++ Stmt.allNames body
  | .ifElse test body otherwise => test.names ++ Stmt.allNames body ++ Stmt.allNames otherwise
  | .ifElif test body otherwise => test.names ++ Stmt.allNames body ++ otherwise.names
  | .whileLoop test body => test.names ++ Stmt.allNames body
  | .forLoop counter first bound body =>
    counter :: (first.names ++ bound.names ++ Stmt.allNames body)

/-- The names in statements. -/
def Stmt.allNames : List Stmt → List String
  | [] => []
  | stmt :: rest => stmt.names ++ Stmt.allNames rest

end

/-- The names in a function. -/
def Function.names (function : Function) : List String :=
  function.name :: (function.params ++ function.globals ++ Stmt.allNames function.body)

/-- The names in a module. -/
def Module.names (program : Module) : List String :=
  program.functions.flatMap (·.2.names) ++ program.firsts.flatMap fun (name, value) =>
    name :: value.names

/-- The texts of lines in which nothing differs from module to module. -/
def fixedTexts : List String := [
  "return", "pass", "else:", "def __lag_init__():", "__lag_exports__ = \x7b\x7d",
  "__lag_exports__ = \x7b", "\x7d"]

/-- What holds of the texts of all lines if the names in them fit. -/
structure Covers (fits holds : String → Prop) : Prop where
  /-- It holds of the texts that do not differ. -/
  fixed : ∀ text ∈ fixedTexts, holds text
  /-- It holds where a name is given a value. -/
  assign {name : String} {value : Expr} : fits name → (∀ other ∈ value.names, fits other) →
    holds (name ++ " = " ++ value.toText)
  /-- It holds of an expression that is evaluated. -/
  evaluate {value : Expr} : (∀ name ∈ value.names, fits name) → holds value.toText
  /-- It holds where a value is returned. -/
  leave {value : Expr} : (∀ name ∈ value.names, fits name) → holds ("return " ++ value.toText)
  /-- It holds of a test. -/
  test {word : String} {test : Expr} : word ∈ ["if", "elif", "while"] →
    (∀ name ∈ test.names, fits name) → holds (word ++ " " ++ test.toText ++ ":")
  /-- It holds of a loop over integers. -/
  loop {counter : String} {first bound : Expr} : fits counter → (∀ name ∈ first.names, fits name) →
    (∀ name ∈ bound.names, fits name) →
      holds ("for " ++ counter ++ " in range(" ++ first.toText ++ ", " ++ bound.toText ++ "):")
  /-- It holds of a list of names of the module. -/
  listed {names : List String} : (∀ name ∈ names, fits name) →
    holds ("global " ++ ", ".intercalate names)
  /-- It holds where a function starts. -/
  define {name : String} {params : List String} : fits name → (∀ param ∈ params, fits param) →
    holds ("def " ++ name ++ "(" ++ ", ".intercalate params ++ "):")
  /-- It holds of an exported function. -/
  entry {exported name : String} : fits name →
    holds (Text.quoted exported ++ ": " ++ name ++ ",")

/-- Lines whose texts have a property. -/
def AllHold (holds : String → Prop) (lines : List Line) : Prop := ∀ line ∈ lines, holds line.text

section

variable {fits holds : String → Prop}

/-- No lines have every property. -/
theorem AllHold.nil : AllHold holds [] := fun _ inside => absurd inside List.not_mem_nil

/-- A line before others. -/
theorem AllHold.cons {line : Line} {lines : List Line} (first : holds line.text)
    (all : AllHold holds lines) : AllHold holds (line :: lines) :=
  List.forall_mem_cons.2 ⟨first, all⟩

/-- Lines after others. -/
theorem AllHold.append {first second : List Line} (all : AllHold holds first)
    (others : AllHold holds second) : AllHold holds (first ++ second) :=
  List.forall_mem_append.2 ⟨all, others⟩

/-- A single line. -/
theorem AllHold.single {line : Line} (first : holds line.text) : AllHold holds [line] :=
  .cons first .nil

/-- The words of conditionals come before tests. -/
theorem conditional_test {word : String} (conditional : word ∈ ["if", "elif"]) :
    word ∈ ["if", "elif", "while"] := List.mem_append_left ["while"] conditional

namespace Covers

/-- A property of all lines holds of those of a body. -/
theorem suite (covers : Covers fits holds) {level : Nat} {lines : List Line}
    (all : AllHold holds lines) : AllHold holds (suite level lines) := by
  unfold Host.suite
  split
  · exact .single (covers.fixed "pass" (by decide))
  · exact all

mutual

/-- A property of all lines holds of those of a statement. -/
theorem stmt (covers : Covers fits holds) {word : String} (conditional : word ∈ ["if", "elif"])
    (level loops : Nat) : ∀ stmt : Stmt, (∀ name ∈ stmt.names, fits name) →
      AllHold holds (stmt.lines word level loops)
  | .assign name value, named => by
    obtain ⟨isName, others⟩ := List.forall_mem_cons.1 named
    exact .single (covers.assign isName others)
  | .evaluate value, named => .single (covers.evaluate named)
  | .leave none, _ => .single (covers.fixed "return" (by decide))
  | .leave (some value), named => .single (covers.leave named)
  | .ifThen test body, named => by
    obtain ⟨testNamed, bodyNamed⟩ := List.forall_mem_append.1 named
    have inside := covers.stmts (level + 1) loops body bodyNamed
    exact .cons (covers.test (conditional_test conditional) testNamed) (covers.suite inside)
  | .ifElse test body otherwise, named => by
    obtain ⟨before, otherNamed⟩ := List.forall_mem_append.1 named
    obtain ⟨testNamed, bodyNamed⟩ := List.forall_mem_append.1 before
    have inside := covers.stmts (level + 1) loops body bodyNamed
    have other := covers.stmts (level + 1) loops otherwise otherNamed
    have first : AllHold holds (⟨level, word ++ " " ++ test.toText ++ ":", 0⟩ ::
        Host.suite (level + 1) (Stmt.linesAll (level + 1) loops body)) :=
      .cons (covers.test (conditional_test conditional) testNamed) (covers.suite inside)
    exact first.append (.cons (covers.fixed "else:" (by decide)) (covers.suite other))
  | .ifElif test body otherwise, named => by
    obtain ⟨before, otherNamed⟩ := List.forall_mem_append.1 named
    obtain ⟨testNamed, bodyNamed⟩ := List.forall_mem_append.1 before
    have inside := covers.stmts (level + 1) loops body bodyNamed
    have other := covers.stmt (by decide : "elif" ∈ ["if", "elif"]) level loops otherwise otherNamed
    have first : AllHold holds (⟨level, word ++ " " ++ test.toText ++ ":", 0⟩ ::
        Host.suite (level + 1) (Stmt.linesAll (level + 1) loops body)) :=
      .cons (covers.test (conditional_test conditional) testNamed) (covers.suite inside)
    exact first.append other
  | .whileLoop test body, named => by
    obtain ⟨testNamed, bodyNamed⟩ := List.forall_mem_append.1 named
    have inside := covers.stmts (level + 1) (loops + 1) body bodyNamed
    have loop := covers.test (by decide : "while" ∈ ["if", "elif", "while"]) testNamed
    exact .cons loop (covers.suite inside)
  | .forLoop counter first bound body, named => by
    obtain ⟨isName, others⟩ := List.forall_mem_cons.1 named
    obtain ⟨bounds, bodyNamed⟩ := List.forall_mem_append.1 others
    obtain ⟨firstNamed, boundNamed⟩ := List.forall_mem_append.1 bounds
    have inside := covers.stmts (level + 1) (loops + 1) body bodyNamed
    exact .cons (covers.loop isName firstNamed boundNamed) (covers.suite inside)

/-- A property of all lines holds of those of statements. -/
theorem stmts (covers : Covers fits holds) (level loops : Nat) : ∀ body : List Stmt,
    (∀ name ∈ Stmt.allNames body, fits name) → AllHold holds (Stmt.linesAll level loops body)
  | [], _ => .nil
  | stmt :: rest, named => by
    obtain ⟨firstNamed, others⟩ := List.forall_mem_append.1 named
    have first := covers.stmt (by decide : "if" ∈ ["if", "elif"]) level loops stmt firstNamed
    exact first.append (covers.stmts level loops rest others)

end

/-- A property of all lines holds of the one that lists names of the module. -/
theorem globalLine (covers : Covers fits holds) {names : List String}
    (named : ∀ name ∈ names, fits name) : AllHold holds (globalLine names) := by
  unfold Host.globalLine
  split
  · exact .nil
  · exact .single (covers.listed named)

/-- A property of all lines holds of those of a function. -/
theorem function (covers : Covers fits holds) {function : Function}
    (named : ∀ name ∈ function.names, fits name) : AllHold holds function.lines := by
  obtain ⟨isName, others⟩ := List.forall_mem_cons.1 named
  obtain ⟨listed, bodyNamed⟩ := List.forall_mem_append.1 others
  obtain ⟨paramsNamed, globalsNamed⟩ := List.forall_mem_append.1 listed
  have top : AllHold holds (⟨0, _, 0⟩ :: Host.globalLine function.globals) :=
    .cons (covers.define isName paramsNamed) (covers.globalLine globalsNamed)
  exact top.append (covers.suite (covers.stmts 1 0 function.body bodyNamed))

/-- A property of all lines holds of those of the first values. -/
theorem initial (covers : Covers fits holds) {firsts : List (String × Expr)}
    (named : ∀ name ∈ firsts.flatMap (fun (name, value) => name :: value.names), fits name) :
    AllHold holds (initialLines firsts) := by
  have each : ∀ entry ∈ firsts, fits entry.1 ∧ ∀ name ∈ entry.2.names, fits name :=
    fun entry inside => List.forall_mem_cons.1 fun name member =>
      named name (List.mem_flatMap.2 ⟨entry, inside, member⟩)
  have listed : AllHold holds (Host.globalLine (firsts.map (·.1))) :=
    covers.globalLine fun name inside => by
      obtain ⟨entry, member, rfl⟩ := List.mem_map.1 inside
      exact (each entry member).1
  have values : AllHold holds
      (firsts.map fun (name, value) => ⟨1, name ++ " = " ++ value.toText, 0⟩) := by
    intro line inside
    obtain ⟨entry, member, rfl⟩ := List.mem_map.1 inside
    exact covers.assign (each entry member).1 (each entry member).2
  have top : AllHold holds (⟨0, "def __lag_init__():", 0⟩ :: Host.globalLine (firsts.map (·.1))) :=
    .cons (covers.fixed _ (by decide)) listed
  exact top.append (covers.suite values)

/-- A property of all lines holds of those of the table of exports. -/
theorem exports (covers : Covers fits holds) {functions : List (String × Function)}
    (named : ∀ entry ∈ functions, fits entry.2.name) : AllHold holds (exportLines functions) := by
  unfold exportLines
  split
  · exact .single (covers.fixed _ (by decide))
  · have entries : AllHold holds (functions.map fun entry =>
        ⟨1, Text.quoted entry.1 ++ ": " ++ entry.2.name ++ ",", 0⟩) := by
      intro line inside
      obtain ⟨entry, member, rfl⟩ := List.mem_map.1 inside
      exact covers.entry (named entry member)
    have top : AllHold holds (⟨0, "__lag_exports__ = \x7b", 0⟩ :: functions.map
        fun entry => ⟨1, Text.quoted entry.1 ++ ": " ++ entry.2.name ++ ",", 0⟩) :=
      .cons (covers.fixed _ (by decide)) entries
    exact top.append (.single (covers.fixed _ (by decide)))

/-- A property of all lines holds of those of a module after the prelude, blank lines aside. -/
theorem module (covers : Covers fits holds) {program : Module}
    (named : ∀ name ∈ program.names, fits name) : ∀ line ∈ program.lines,
      line ∈ prelude program.title ∨ line = blank ∨ holds line.text := by
  obtain ⟨functionsNamed, firstsNamed⟩ := List.forall_mem_append.1 named
  have each : ∀ entry ∈ program.functions, ∀ name ∈ entry.2.names, fits name :=
    fun entry inside name member => functionsNamed name (List.mem_flatMap.2 ⟨entry, inside, member⟩)
  have initial := covers.initial firstsNamed
  have exports := covers.exports fun entry inside => each entry inside _ List.mem_cons_self
  intro line inside
  simp only [Module.lines, List.mem_append, List.mem_cons, List.mem_flatMap] at inside
  rcases inside with ((start | ⟨entry, member, rfl | rfl | within⟩) | rfl | rfl | within) |
    rfl | rfl | within
  · exact .inl start
  · exact .inr (.inl rfl)
  · exact .inr (.inl rfl)
  · exact .inr (.inr (covers.function (each entry member) line within))
  · exact .inr (.inl rfl)
  · exact .inr (.inl rfl)
  · exact .inr (.inr (initial line within))
  · exact .inr (.inl rfl)
  · exact .inr (.inl rfl)
  · exact .inr (.inr (exports line within))

end Covers

end

/-! ## Words in lines -/

/-- A line of every form passes if the names in it are names of the host. -/
theorem covers_passes : Covers (isIdentifier · = true) Passes where
  fixed := by decide +kernel
  assign isName named := by
    have equals : Closes " = " := by decide +kernel
    exact ((passes_name isName).append equals).passes (Expr.passes _ named)
  evaluate named := Expr.passes _ named
  leave named := by
    have opens : Finishes "return " := by decide +kernel
    exact opens.passes (Expr.passes _ named)
  test {word _} conditional named := by
    have starts : ∀ word ∈ ["if", "elif", "while"], Passes word := by decide +kernel
    have blank : Closes " " := by decide +kernel
    have colon : Closes ":" := by decide +kernel
    exact .inl ((((starts word conditional).append blank).passes (Expr.passes _ named)).append colon)
  loop isName firstNamed boundNamed := by
    have opens : Finishes "for " := by decide +kernel
    have range : Closes " in range(" := by decide +kernel
    have comma : Closes ", " := by decide +kernel
    have closes : Closes "):" := by decide +kernel
    have lower :=
      ((opens.passes (passes_name isName)).append range).passes (Expr.passes _ firstNamed)
    exact .inl (((lower.append comma).passes (Expr.passes _ boundNamed)).append closes)
  listed named := by
    have opens : Finishes "global " := by decide +kernel
    exact opens.passes (passes_intercalate fun name inside => passes_name (named name inside))
  define isName paramsNamed := by
    have opens : Finishes "def " := by decide +kernel
    have parenthesis : Closes "(" := by decide +kernel
    have closes : Closes "):" := by decide +kernel
    have params := passes_intercalate fun name inside => passes_name (paramsNamed name inside)
    exact .inl ((((opens.passes (passes_name isName)).append parenthesis).passes params).append
      closes)
  entry {exported _} isName := by
    have colon : Finishes ": " := by decide +kernel
    have comma : Closes "," := by decide +kernel
    exact .inl ((((finishes_quoted exported).append colon).passes (passes_name isName)).append comma)

/-- The lines that every module starts with pass, but for the first one, which is a comment. -/
theorem prelude_pass (title : String) : ∃ first rest, prelude title = first :: rest ∧
    first.text.startsWith "#" = true ∧ AllHold Passes rest := by
  have opens : Finishes "_lag_logger = _lag_logging.getLogger(" := by decide +kernel
  have closes : Closes ")" := by decide +kernel
  have logger : Passes ("_lag_logger = _lag_logging.getLogger(" ++
      Text.quoted (journalName title) ++ ")") :=
    .inl ((opens.append (finishes_quoted _)).append closes.1)
  refine ⟨_, _, rfl, ?_, ?_⟩
  · rw [String.startsWith_string_iff]
    simp
  · refine .cons ?_ (.cons ?_ (.cons ?_ (.cons logger (.cons ?_ (.cons ?_ (.cons ?_ (.cons ?_
      (.cons ?_ (.single ?_)))))))))
    all_goals decide +kernel

/-- The words in the lines of a module are names of the host if its names are, comments aside. -/
theorem Module.lines_pass {program : Module}
    (fits : ∀ name ∈ program.names, isIdentifier name = true) :
    ∀ line ∈ program.lines, line.text.startsWith "#" = true ∨ Passes line.text := by
  obtain ⟨comment, rest, shape, marked, start⟩ := prelude_pass program.title
  intro line inside
  rcases covers_passes.module fits line inside with first | rfl | passes
  · rw [shape] at first
    rcases List.mem_cons.1 first with rfl | later
    · exact .inl marked
    · exact .inr (start line later)
  · exact .inr (by decide +kernel)
  · exact .inr passes

end Lag.Host
