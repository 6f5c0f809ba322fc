import Lag.Proofs.Naming.Apart
import Lag.Proofs.Writing.Walk

/-!
# Effects of the walk

What a part of the walk does is said by the symbols that it names and the lines that it appends:
it ends exactly if the search for each of the names ends, and then it leaves the page with those
names and lines and gives its value. Parts that follow each other name and append one after the
other, so the effect of the walk is put together along its definition.
-/
namespace Lag

open Host (Names)

namespace Host.Names

/-- Symbols of declarations that have no names yet, and different ones. -/
def New (names : Names) : List Symbol → Prop
  | [] => True
  | symbol :: rest =>
    (∃ origin, symbol.origin = some origin ∧ List.lookup origin names = none) ∧
      (names.add symbol).New rest

/-- Names of names that another list of names holds, too. -/
def Part (names all : Names) : Prop :=
  ∀ origin name, List.lookup origin names = some name → List.lookup origin all = some name

/-- Searches end one after the other if those in front and those behind do. -/
theorem settle_append {names : Names} {first second : List Symbol} :
    names.Settle (first ++ second) ↔
      names.Settle first ∧ (first.foldl add names).Settle second := by
  induction first generalizing names with
  | nil => exact (and_iff_right trivial).symm
  | cons symbol rest ih =>
    simp only [List.cons_append, Settle, List.foldl_cons, ih, and_assoc]

/-- Symbols are new if those in front are, and those behind after them. -/
theorem new_append {names : Names} {first second : List Symbol} :
    names.New (first ++ second) ↔ names.New first ∧ (first.foldl add names).New second := by
  induction first generalizing names with
  | nil => exact (and_iff_right trivial).symm
  | cons symbol rest ih =>
    simp only [List.cons_append, New, List.foldl_cons, ih, and_assoc]

/-- The name of a new symbol is the one that is chosen for it. -/
theorem add_new {names : Names} {symbol : Symbol} {origin : Nat}
    (declared : symbol.origin = some origin) (new : List.lookup origin names = none) :
    names.add symbol = (origin, chooseName names.taken symbol.name) :: names := by
  simp only [add, declared, new]

/-- Which symbols a name is looked up for after some symbols are named. -/
theorem lookup_foldl_none {names : Names} {symbols : List Symbol} {origin : Nat}
    (missing : List.lookup origin names = none)
    (others : ∀ symbol ∈ symbols, symbol.origin ≠ some origin) :
    List.lookup origin (symbols.foldl add names) = none := by
  induction symbols generalizing names with
  | nil => exact missing
  | cons symbol rest ih =>
    obtain ⟨other, later⟩ := List.forall_mem_cons.1 others
    refine ih ?_ later
    unfold add
    split
    · exact missing
    · rename_i given is
      split
      · exact missing
      · have different : (origin == given) = false := by
          rw [beq_eq_false_iff_ne]
          rintro rfl
          exact other is
        rw [List.lookup_cons, different]
        exact missing

/-- Symbols of different declarations are new where none has a name. -/
theorem new_of_distinct {symbols : List Symbol} (names : Names)
    (distinct : (symbols.map (·.origin)).Nodup)
    (missing : ∀ symbol ∈ symbols, ∃ origin, symbol.origin = some origin ∧
      List.lookup origin names = none) : names.New symbols := by
  induction symbols generalizing names with
  | nil => trivial
  | cons symbol rest ih =>
    rw [List.map_cons, List.nodup_cons] at distinct
    obtain ⟨first, others⟩ := List.forall_mem_cons.1 missing
    refine ⟨first, ih _ distinct.2 fun other inside => ?_⟩
    obtain ⟨origin, is, free⟩ := others other inside
    refine ⟨origin, is, @lookup_foldl_none _ [symbol] _ free fun given same same' => ?_⟩
    obtain rfl := List.mem_singleton.1 same
    exact distinct.1 (List.mem_map.2 ⟨other, inside, is.trans same'.symm⟩)

end Host.Names

/-- Symbols that are to be named after some names, with the names of a whole program ahead. -/
structure Leads (names : Names) (symbols : List Symbol) (all : Names) : Prop where
  /-- The symbols are new. -/
  fresh : names.New symbols
  /-- The names that they get are those of the program. -/
  kept : (symbols.foldl Names.add names).Part all

namespace Leads

variable {names all : Names} {first second : List Symbol}

/-- What leads to a whole leads to its front. -/
theorem front (leads : Leads names (first ++ second) all) : Leads names first all := by
  refine ⟨(Names.new_append.1 leads.fresh).1, fun origin name found => leads.kept origin name ?_⟩
  rw [List.foldl_append]
  exact Names.lookup_foldl found

/-- What leads to a whole leads from its front to its rest. -/
theorem back (leads : Leads names (first ++ second) all) :
    Leads (first.foldl Names.add names) second all := by
  refine ⟨(Names.new_append.1 leads.fresh).2, ?_⟩
  have kept := leads.kept
  rwa [List.foldl_append] at kept

/-- The names before are names of the program. -/
theorem part (leads : Leads names first all) : names.Part all := fun origin name found =>
  leads.kept origin name (Names.lookup_foldl found)

end Leads

/-! ## Parts of the walk -/

namespace Writer

variable {α β : Type} {writer : Writer α} {page : Page}

/-- Giving a value leaves the page. -/
@[simp] theorem on_pure (value : α) : Writer.on (pure value) page = some (.ok (value, page)) := rfl

/-- After a part that ends the next one starts on its page. -/
theorem on_bind {next : α → Writer β} {value : α} {after : Page}
    (ends : writer.on page = some (.ok (value, after))) :
    (writer >>= next).on page = (next value).on after := by
  have run : writer page = some (.ok (value, after)) := ends
  show ExceptT.bind (writer page) (fun given => next given.1 given.2) = next value after
  rw [run]
  rfl

/-- After a part that does not end there is nothing. -/
theorem on_bind_none {next : α → Writer β} (endless : writer.on page = none) :
    (writer >>= next).on page = none := by
  have run : writer page = none := endless
  show ExceptT.bind (writer page) (fun given => next given.1 given.2) = none
  rw [run]
  rfl

end Writer

/-- A part of the walk that names symbols, appends lines and gives a value, when it starts at a
level and after some names. -/
structure Does {α : Type} (writer : Writer α) (level : Nat) (names : Names)
    (symbols : List Symbol) (lines : List String) (value : α) : Prop where
  /-- It ends if the searches for the names end. -/
  ends : names.Settle symbols → ∀ before, writer.on ⟨before, level, names⟩ =
    some (.ok (value, ⟨before ++ lines, level, symbols.foldl Names.add names⟩))
  /-- Otherwise it does not end. -/
  endless : ¬names.Settle symbols → ∀ before, writer.on ⟨before, level, names⟩ = none

namespace Does

variable {α β : Type} {writer : Writer α} {level : Nat} {names : Names}
  {first second : List Symbol} {front back : List String} {value : α}

/-- A part that leaves the page does nothing but give its value. -/
theorem quiet (stays : ∀ before, writer.on ⟨before, level, names⟩ =
    some (.ok (value, ⟨before, level, names⟩))) : Does writer level names [] [] value := by
  refine ⟨fun _ before => ?_, fun never => absurd trivial never⟩
  rw [stays, List.append_nil]
  rfl

/-- Giving a value does nothing else. -/
theorem pure (value : α) : Does (Pure.pure value) level names [] [] value := quiet fun _ => rfl

/-- Parts that follow each other do what they do one after the other. -/
theorem bind {next : α → Writer β} {result : β} (does : Does writer level names first front value)
    (others : Does (next value) level (first.foldl Names.add names) second back result) :
    Does (writer >>= next) level names (first ++ second) (front ++ back) result := by
  constructor
  · intro settle before
    obtain ⟨here, later⟩ := Names.settle_append.1 settle
    rw [Writer.on_bind (does.ends here before), others.ends later, List.append_assoc,
      List.foldl_append]
  · intro unsettled before
    by_cases here : names.Settle first
    · have later : ¬(first.foldl Names.add names).Settle second := fun later =>
        unsettled (Names.settle_append.2 ⟨here, later⟩)
      rw [Writer.on_bind (does.ends here before), others.endless later]
    · exact Writer.on_bind_none (does.endless here before)

/-- Parts that follow each other do what they do, whatever value the first one gives. -/
theorem seq {next : Writer β} {result : β} (does : Does writer level names first front value)
    (others : Does next level (first.foldl Names.add names) second back result) :
    Does (writer >>= fun _ => next) level names (first ++ second) (front ++ back) result :=
  does.bind others

/-- What follows a part that does nothing but give its value does all. -/
theorem after {next : α → Writer β} {result : β} (does : Does writer level names [] [] value)
    (others : Does (next value) level names first front result) :
    Does (writer >>= next) level names first front result :=
  does.bind others

/-- What a part does before one that does nothing but give its value is all that is done. -/
theorem before {next : α → Writer β} {result : β} (does : Does writer level names first front value)
    (others : Does (next value) level (first.foldl Names.add names) [] [] result) :
    Does (writer >>= next) level names first front result := by
  have whole := does.bind others
  rwa [List.append_nil, List.append_nil] at whole

/-- A line is appended with the indentation of the level. -/
theorem emit (text : String) : Does (Lag.emit text) level names [] [margin level ++ text] () :=
  ⟨fun _ _ => rfl, fun never => absurd trivial never⟩

/-- Whole lines are appended. -/
theorem emitAll (lines : List String) : Does (Lag.emitAll lines) level names [] lines () :=
  ⟨fun _ _ => rfl, fun never => absurd trivial never⟩

/-- A part that is written one level deeper names and appends the same. -/
theorem deeper (does : Does writer (level + 1) names first front value) :
    Does (Lag.deeper writer) level names first front value := by
  have starts (before : List String) :
      Writer.on (modify fun page : Page => { page with level := page.level + 1 })
        ⟨before, level, names⟩ = some (.ok ((), ⟨before, level + 1, names⟩)) := rfl
  constructor
  · intro settle before
    rw [Lag.deeper, Writer.on_bind (starts before), Writer.on_bind (does.ends settle before)]
    rfl
  · intro unsettled before
    rw [Lag.deeper, Writer.on_bind (starts before),
      Writer.on_bind_none (does.endless unsettled before)]

/-- A body appends its lines, or the one that stands for none. -/
theorem suite {writer : Writer Unit} (does : Does writer (level + 1) names first front ()) :
    Does (writeSuite writer) level names first
      (if front.isEmpty then [margin (level + 1) ++ "pass"] else front) () := by
  refine deeper ⟨fun settle before => ?_, fun unsettled before => ?_⟩
  · have reads (page : Page) : Writer.on get page = some (.ok (page, page)) := rfl
    rw [Writer.on_bind (reads _), Writer.on_bind (does.ends settle before), fillSuite,
      Writer.on_bind (reads _), List.length_append]
    cases front with
    | nil =>
      rw [List.length_nil, if_pos (Nat.add_zero _), List.append_nil]
      rfl
    | cons line rest =>
      have longer : before.length + (line :: rest).length ≠ before.length := by
        rw [List.length_cons]
        omega
      rw [if_neg longer]
      rfl
  · have reads (page : Page) : Writer.on get page = some (.ok (page, page)) := rfl
    rw [Writer.on_bind (reads _), Writer.on_bind_none (does.endless unsettled before)]

end Does

/-! ## Names -/

/-- The host name of a declaration with a symbol is that of the symbol. -/
theorem Mark.lower_of_symbol {mark : Mark} {symbol : Symbol} (noted : mark.symbol = some symbol)
    (names : Names) (name : String) : mark.lower names name = names.find symbol := by
  simp only [Mark.lower, Ident.lower, noted]

/-- The host name of a symbol is the one that it is found under. -/
theorem Host.Names.find_of_lookup {names : Names} {symbol : Symbol} {origin : Nat} {name : String}
    (declared : symbol.origin = some origin) (found : List.lookup origin names = some name) :
    names.find symbol = name := by
  simp only [find, declared, Option.bind_some, found, Option.getD_some]

/-- A symbol that has a name, or that of a built-in function. -/
def Symbol.Named (names : Names) (symbol : Symbol) : Prop :=
  (symbol.kind ≠ .builtin ∧
      ∃ origin name, symbol.origin = some origin ∧ List.lookup origin names = some name) ∨
    ∃ builtin : Builtin, symbol = builtin.symbol

/-- A symbol that has a name keeps it. -/
theorem Symbol.Named.foldl {names : Names} {symbol : Symbol} (named : symbol.Named names)
    (symbols : List Symbol) : symbol.Named (symbols.foldl Names.add names) := by
  rcases named with ⟨plain, origin, name, declared, found⟩ | isBuiltin
  · exact .inl ⟨plain, origin, name, declared, Names.lookup_foldl found⟩
  · exact .inr isBuiltin

/-- A symbol that is named has a name. -/
theorem Symbol.Named.of_mem {names : Names} {symbols : List Symbol} {symbol : Symbol}
    (inside : symbol ∈ symbols) (plain : symbol.kind ≠ .builtin) {origin : Nat}
    (declared : symbol.origin = some origin) : symbol.Named (symbols.foldl Names.add names) := by
  obtain ⟨name, found⟩ := @Names.exists_lookup names symbols symbol inside origin declared
  exact .inl ⟨plain, origin, name, declared, found⟩

section Names

variable {level : Nat} {names all : Names} {symbol : Symbol} {mark : Mark}

/-- The symbol of a note is found. -/
theorem on_symbolOf (noted : mark.symbol = some symbol) (page : Page) :
    (symbolOf mark).on page = some (.ok (symbol, page)) := by
  simp only [symbolOf, noted, Writer.on_pure]

/-- A symbol that has a name is used under it. -/
theorem on_useName {page : Page} (part : page.names.Part all) (named : symbol.Named page.names)
    (plain : symbol.kind ≠ .builtin) :
    (useName symbol).on page = some (.ok (all.find symbol, page)) := by
  rcases named with ⟨_, origin, name, declared, found⟩ | ⟨builtin, rfl⟩
  · rw [Names.find_of_lookup declared (part origin name found)]
    have reads : Writer.on get page = some (.ok (page, page)) := rfl
    simp only [useName, declared]
    rw [Writer.on_bind reads]
    simp only [found, Writer.on_pure]
  · exact absurd rfl plain

/-- A new symbol is named by a search. -/
theorem does_useName (leads : Leads names [symbol] all) :
    Does (useName symbol) level names [symbol] [] (all.find symbol) := by
  obtain ⟨⟨origin, declared, new⟩, _⟩ := leads.fresh
  have added := Names.add_new declared new
  have found : List.lookup origin (names.add symbol) =
      some (Host.chooseName names.taken symbol.name) := by
    rw [added, List.lookup_cons, beq_self_eq_true]
  have chosen := Names.find_of_lookup declared (leads.kept origin _ found)
  have reads (page : Page) : Writer.on get page = some (.ok (page, page)) := rfl
  constructor
  · rintro ⟨ends, _⟩ before
    simp only [useName, declared]
    rw [Writer.on_bind (reads _)]
    simp only [new, Host.search_eq_chooseName ends]
    rw [chosen, List.append_nil, List.foldl_cons, List.foldl_nil, added]
    rfl
  · intro unsettled before
    have endless : ¬Host.Ends names.taken symbol.name := fun ends =>
      unsettled ⟨ends, trivial⟩
    simp only [useName, declared]
    rw [Writer.on_bind (reads _)]
    simp only [new, Host.search_eq_none endless]
    rfl

/-- A name or a declaration with a symbol that has a name is used under it. -/
theorem on_nameOf {page : Page} (part : page.names.Part all) (noted : mark.symbol = some symbol)
    (named : symbol.Named page.names) (plain : symbol.kind ≠ .builtin) (name : String) :
    (nameOf mark).on page = some (.ok (mark.lower all name, page)) := by
  rw [nameOf, Writer.on_bind (on_symbolOf noted page), Mark.lower_of_symbol noted]
  exact on_useName part named plain

/-- A declaration with a new symbol names it. -/
theorem does_nameOf (noted : mark.symbol = some symbol) (leads : Leads names [symbol] all)
    (name : String) (level : Nat) : Does (nameOf mark) level names [symbol] [] (mark.lower all name) := by
  rw [Mark.lower_of_symbol noted]
  exact .after (.quiet fun _ => on_symbolOf noted _) (does_useName leads)

/-- Declarations with new symbols name them. -/
theorem does_namesOf {α : Type} {items : List α} (noteOf : α → Mark) (textOf : α → String)
    (noted : ∀ item ∈ items, ∃ symbol, (noteOf item).symbol = some symbol)
    (leads : Leads names (items.flatMap fun item => (noteOf item).symbol.toList) all)
    (level : Nat) : Does (namesOf (items.map noteOf)) level names
      (items.flatMap fun item => (noteOf item).symbol.toList) []
      (items.map fun item => (noteOf item).lower all (textOf item)) := by
  induction items generalizing names with
  | nil => exact .pure []
  | cons item rest ih =>
    obtain ⟨⟨symbol, first⟩, others⟩ := List.forall_mem_cons.1 noted
    rw [List.flatMap_cons, first] at leads ⊢
    exact (does_nameOf first leads.front (textOf item) level).bind
      ((ih others leads.back).before (.pure _))

/-- Declarations whose symbols have names are used under them. -/
theorem on_namesOf {page : Page} (part : page.names.Part all) {α : Type} {items : List α}
    (noteOf : α → Mark) (textOf : α → String)
    (known : ∀ item ∈ items, ∃ symbol, (noteOf item).symbol = some symbol ∧
      symbol.kind ≠ .builtin ∧ symbol.Named page.names) :
    (namesOf (items.map noteOf)).on page =
      some (.ok (items.map fun item => (noteOf item).lower all (textOf item), page)) := by
  induction items with
  | nil => rfl
  | cons item rest ih =>
    obtain ⟨⟨symbol, noted, plain, named⟩, others⟩ := List.forall_mem_cons.1 known
    rw [List.map_cons, namesOf, Writer.on_bind (on_nameOf part noted named plain (textOf item)),
      Writer.on_bind (ih others), Writer.on_pure, List.map_cons]

end Names

end Lag
