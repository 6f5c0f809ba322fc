import Lag.Proofs.Token.Gaps
import Lag.Proofs.Tree.Nested
import Lag.Proofs.Tree.Scanned

/-!
# Outlines determine trees

An outline has a line for every construct: its depth as blanks, its kind, and its label. No label
of a tree that was read has a line feed, so the lines are found again in the outline, and in a line
its depth, kind and label. A construct comes before its parts, which are one step deeper; from the
depths alone it follows which constructs are parts of which. What a literal stands for follows from
its label, since a lexeme is scanned alike wherever it stands. So programs with one outline have one
generic form, and are the same but for their places and the labels of their files.
-/
namespace Lag

variable {α β : Type}

/-! ## Lines -/

/-- What a line of an outline says. -/
structure Branch.Row where
  /-- The depth of the construct. -/
  depth : Nat
  /-- The kind of the construct. -/
  kind : Kind
  /-- The label of the construct. -/
  label : Option String
  deriving DecidableEq, Repr

namespace Branch

/-- The characters of a label in its line, with the blank in front of it. -/
def labelText : Option String → List Char
  | none => []
  | some label => ' ' :: label.toList

/-- A label is known from its characters in a line. -/
theorem labelText_injective {one two : Option String} (same : labelText one = labelText two) :
    one = two := by
  cases one with
  | none =>
    cases two with
    | none => rfl
    | some label => cases same
  | some label =>
    cases two with
    | none => cases same
    | some other => exact congrArg some (String.toList_inj.1 (List.cons.inj same).2)

/-- The line of a row. -/
def Row.line (row : Row) : String :=
  Branch.line row.depth (⟨row.kind, row.label, none, ()⟩ : Entry Unit)

/-- The characters of a line. -/
theorem Row.toList_line (row : Row) : row.line.toList =
    List.replicate (2 * row.depth) ' ' ++ (row.kind.name.toList ++ labelText row.label) := by
  obtain ⟨depth, kind, label⟩ := row
  have size : (2 * (depth : Int)).toNat = 2 * depth := by omega
  cases label with
  | none =>
    simp only [Row.line, Branch.line, size, String.toList_append, String.toList_ofList,
      List.append_assoc]
    rfl
  | some label =>
    simp only [Row.line, Branch.line, size, String.toList_append, String.toList_ofList,
      List.append_assoc]
    rfl

/-- Two texts that start with characters of a class up to the first other character: the characters
of the class are the same, and so is what follows them. -/
theorem append_inj_of_class {isIn : Char → Bool} {one two rest other : List Char}
    (own : ∀ c ∈ one, isIn c = true) (otherOwn : ∀ c ∈ two, isIn c = true)
    (stops : ∀ c ∈ rest.head?, isIn c = false) (otherStops : ∀ c ∈ other.head?, isIn c = false)
    (same : one ++ rest = two ++ other) : one = two ∧ rest = other := by
  have front : ∀ {front after : List Char}, (∀ c ∈ front, isIn c = true) →
      (∀ c ∈ after.head?, isIn c = false) → (front ++ after).takeWhile isIn = front := by
    intro front after inside ends
    rw [List.takeWhile_append_of_pos inside]
    cases after with
    | nil => rw [List.takeWhile_nil, List.append_nil]
    | cons c after =>
      have stop : isIn c = false := ends c rfl
      rw [List.takeWhile_cons_of_neg (by simp [stop]), List.append_nil]
  have heads := congrArg (List.takeWhile isIn) same
  rw [front own stops, front otherOwn otherStops] at heads
  subst heads
  exact ⟨rfl, List.append_cancel_left same⟩

end Branch

/-- The kinds of constructs. -/
def Kind.all : List Kind :=
  [.program, .function, .param, .type, .declare, .assign, .leave, .evaluate, .block, .conditional,
    .whileLoop, .forLoop, .literal, .identifier, .binary, .unary, .call]

/-- The kind that is listed under a name. -/
def Kind.ofName? (name : String) : Option Kind := all.find? fun kind => kind.name == name

/-- The kind that is listed under the name of a kind. -/
theorem Kind.ofName?_name (kind : Kind) : ofName? kind.name = some kind := by
  cases kind <;> decide

/-- The name of a kind is a word. -/
theorem Kind.letters (kind : Kind) :
    (∀ c ∈ kind.name.toList, (c != ' ') = true ∧ c ≠ '\n') ∧ kind.name.toList ≠ [] := by
  have plain : (kind.name.toList.all fun c => c != ' ' && c != '\n') = true := by
    cases kind <;> rfl
  have some : kind.name.toList.isEmpty = false := by cases kind <;> rfl
  refine ⟨fun c inside => ?_, fun none => ?_⟩
  · simpa using List.all_eq_true.1 plain c inside
  · rw [none] at some
    cases some

namespace Branch

/-- A line says what it is made from. -/
theorem Row.line_injective {one two : Row} (same : one.line = two.line) : one = two := by
  have texts := congrArg String.toList same
  rw [Row.toList_line, Row.toList_line] at texts
  have solid : ∀ row : Row, ∀ c ∈ (row.kind.name.toList ++ labelText row.label).head?,
      (c == ' ') = false := by
    intro row c first
    obtain ⟨letters, some⟩ := row.kind.letters
    rw [List.head?_append_of_ne_nil _ some] at first
    have other := (letters c (List.mem_of_mem_head? first)).1
    simpa using other
  have blanks : ∀ depth, ∀ c ∈ List.replicate (2 * depth) ' ', (c == ' ') = true := by
    intro depth c inside
    rw [List.eq_of_mem_replicate inside]
    rfl
  obtain ⟨indentation, texts⟩ := append_inj_of_class (blanks _) (blanks _) (solid one) (solid two)
    texts
  have ends : ∀ label : Option String, ∀ c ∈ (labelText label).head?, (c != ' ') = false := by
    intro label c first
    cases label <;> cases first
    rfl
  obtain ⟨names, labels⟩ := append_inj_of_class (fun c inside => (one.kind.letters.1 c inside).1)
    (fun c inside => (two.kind.letters.1 c inside).1) (ends _) (ends _) texts
  have depth := congrArg List.length indentation
  rw [List.length_replicate, List.length_replicate] at depth
  have kind : one.kind = two.kind := by
    have found := one.kind.ofName?_name
    rw [String.toList_inj.1 names, two.kind.ofName?_name] at found
    exact (Option.some.inj found).symm
  have label := labelText_injective labels
  obtain ⟨first, _, _⟩ := one
  obtain ⟨second, _, _⟩ := two
  obtain rfl : first = second := by
    dsimp only at depth
    omega
  subst kind label
  rfl

/-- A line has no line feed if its label has none. -/
theorem Row.noFeed {row : Row} (noFeed : ∀ label ∈ row.label, '\n' ∉ label.toList) :
    '\n' ∉ row.line.toList := by
  rw [Row.toList_line, List.mem_append, List.mem_append]
  rintro (blank | name | inside)
  · cases List.eq_of_mem_replicate blank
  · exact (row.kind.letters.1 _ name).2 rfl
  · cases given : row.label with
    | none =>
      rw [given] at inside
      cases inside
    | some label =>
      rw [given] at inside
      rcases List.mem_cons.1 inside with blank | inside
      · cases blank
      · exact noFeed label given inside

/-- Rows are known from their lines, one below the other. -/
theorem eq_of_joined {one two : List Row} (some : one ≠ []) (others : two ≠ [])
    (noFeed : ∀ row ∈ one, ∀ label ∈ row.label, '\n' ∉ label.toList)
    (otherFree : ∀ row ∈ two, ∀ label ∈ row.label, '\n' ∉ label.toList)
    (same : "\n".intercalate (one.map Row.line) = "\n".intercalate (two.map Row.line)) :
    one = two := by
  have split : ∀ rows : List Row, rows ≠ [] →
      (∀ row ∈ rows, ∀ label ∈ row.label, '\n' ∉ label.toList) →
      (("\n".intercalate (rows.map Row.line)).split '\n').toList.map (·.copy) =
        rows.map Row.line := by
    intro rows some free
    have whole := @String.toList_split_intercalate '\n' (rows.map Row.line)
      (List.forall_mem_map.2 fun row among => Row.noFeed (free row among))
    rw [if_neg (by simpa using some)] at whole
    exact whole
  have lines := split one some noFeed
  rw [same, split two others otherFree] at lines
  exact (List.map_injective_iff.2 fun _ _ => Row.line_injective) lines.symm

/-! ## Rows -/

mutual

/-- The rows of a tree, before some others. -/
def rowsOnto (depth : Nat) : Branch α → List Row → List Row
  | ⟨entry, children⟩, others =>
    ⟨depth, entry.kind, entry.label⟩ :: rowsAllOnto (depth + 1) children others

/-- The rows of some trees, before some others. -/
def rowsAllOnto (depth : Nat) : List (Branch α) → List Row → List Row
  | [], others => others
  | branch :: rest, others => rowsOnto depth branch (rowsAllOnto depth rest others)

end

mutual

/-- The lines of a tree are those of its rows. -/
theorem linesOnto_eq : ∀ (branch : Branch α) (depth : Nat) (others : List Row),
    linesOnto depth branch (others.map Row.line) = (rowsOnto depth branch others).map Row.line
  | ⟨entry, children⟩, depth, others => by
    rw [linesOnto, rowsOnto, List.map_cons, ← linesAllOnto_eq children (depth + 1) others]
    rfl

/-- The lines of some trees are those of their rows. -/
theorem linesAllOnto_eq : ∀ (branches : List (Branch α)) (depth : Nat) (others : List Row),
    linesAllOnto depth branches (others.map Row.line) =
      (rowsAllOnto depth branches others).map Row.line
  | [], _, _ => rfl
  | branch :: rest, depth, others => by
    rw [linesAllOnto, rowsAllOnto, linesAllOnto_eq rest, linesOnto_eq branch]

end

/-- An outline is made of rows. -/
theorem outline_eq (depth : Nat) (branch : Branch α) :
    branch.outline depth = "\n".intercalate ((rowsOnto depth branch []).map Row.line) := by
  rw [outline, ← linesOnto_eq branch depth [], List.map_nil]

end Branch

/-- An entry without its note and without what it stands for. -/
def Entry.titled (entry : Entry α) : Entry Unit := ⟨entry.kind, entry.label, none, ()⟩

namespace Branch

/-- The rows of trees next to each other do not start deeper than these. -/
theorem depth_of_head {branches : List (Branch α)} {depth : Nat} {rest : List Row}
    (ends : ∀ row ∈ rest.head?, row.depth < depth) :
    ∀ row ∈ (rowsAllOnto depth branches rest).head?, row.depth ≤ depth := by
  intro row first
  cases branches with
  | nil => exact Nat.le_of_lt (ends row first)
  | cons branch others =>
    obtain ⟨entry, children⟩ := branch
    cases first
    exact Nat.le_refl _

mutual

/-- A tree is known from its rows, whatever follows that is not deeper. -/
theorem rowsOnto_inj : ∀ (one : Branch α) (two : Branch β) {depth : Nat} {rest other : List Row},
    (∀ row ∈ rest.head?, row.depth ≤ depth) → (∀ row ∈ other.head?, row.depth ≤ depth) →
    rowsOnto depth one rest = rowsOnto depth two other →
      one.map Entry.titled = two.map Entry.titled ∧ rest = other
  | ⟨entry, children⟩, ⟨entry', children'⟩, depth, rest, other, ends, otherEnds, same => by
    rw [rowsOnto, rowsOnto] at same
    obtain ⟨top, below⟩ := List.cons.inj same
    obtain ⟨parts, after⟩ := rowsAllOnto_inj children children'
      (fun row first => Nat.lt_succ_of_le (ends row first))
      (fun row first => Nat.lt_succ_of_le (otherEnds row first)) below
    injection top with _ kind label
    refine ⟨?_, after⟩
    rw [map, map, parts, Entry.titled, Entry.titled, kind, label]

/-- Trees next to each other are known from their rows, whatever follows that is less deep. -/
theorem rowsAllOnto_inj : ∀ (one : List (Branch α)) (two : List (Branch β)) {depth : Nat}
    {rest other : List Row}, (∀ row ∈ rest.head?, row.depth < depth) →
    (∀ row ∈ other.head?, row.depth < depth) →
    rowsAllOnto depth one rest = rowsAllOnto depth two other →
      mapAll Entry.titled one = mapAll Entry.titled two ∧ rest = other
  | [], [], _, _, _, _, _, same => ⟨rfl, same⟩
  | [], ⟨entry, children⟩ :: others, depth, rest, other, ends, _, same => by
    have first := congrArg List.head? same
    have deep := ends _ first
    exact absurd deep (Nat.lt_irrefl _)
  | ⟨entry, children⟩ :: others, [], depth, rest, other, _, ends, same => by
    have first := congrArg List.head? same
    have deep := ends _ first.symm
    exact absurd deep (Nat.lt_irrefl _)
  | branch :: more, branch' :: more', depth, rest, other, ends, otherEnds, same => by
    rw [rowsAllOnto, rowsAllOnto] at same
    obtain ⟨first, later⟩ := rowsOnto_inj branch branch' (depth_of_head ends)
      (depth_of_head otherEnds) same
    obtain ⟨others, after⟩ := rowsAllOnto_inj more more' ends otherEnds later
    exact ⟨by rw [mapAll, mapAll, first, others], after⟩

end

mutual

/-- A row of a tree is that of a construct of the tree, or one that follows. -/
theorem mem_rowsOnto : ∀ (branch : Branch α) {depth : Nat} {others : List Row} {row : Row},
    row ∈ rowsOnto depth branch others →
      (∃ node, Occurs node branch ∧ row.label = node.entry.label) ∨ row ∈ others
  | ⟨entry, children⟩, depth, others, row, among => by
    rcases List.mem_cons.1 among with rfl | among
    · exact .inl ⟨_, .here, rfl⟩
    · refine (mem_rowsAllOnto children among).imp_left ?_
      rintro ⟨child, part, node, occurs, label⟩
      exact ⟨node, .inside part occurs, label⟩

/-- A row of some trees is that of a construct of one of them, or one that follows. -/
theorem mem_rowsAllOnto : ∀ (branches : List (Branch α)) {depth : Nat} {others : List Row}
    {row : Row}, row ∈ rowsAllOnto depth branches others →
      (∃ branch ∈ branches, ∃ node, Occurs node branch ∧ row.label = node.entry.label) ∨
        row ∈ others
  | [], _, _, _, among => .inr among
  | branch :: rest, depth, others, row, among => by
    rcases mem_rowsOnto branch among with ⟨node, own⟩ | among
    · exact .inl ⟨branch, List.mem_cons_self, node, own⟩
    · refine (mem_rowsAllOnto rest among).imp_left ?_
      rintro ⟨other, part, own⟩
      exact ⟨other, List.mem_cons_of_mem _ part, own⟩

end

mutual

/-- Notes play no part in the rows of a tree. -/
theorem rowsOnto_noted (f : α → β) : ∀ (branch : Branch α) (depth : Nat) (others : List Row),
    rowsOnto depth (branch.map (Entry.noted f)) others = rowsOnto depth branch others
  | ⟨entry, children⟩, depth, others => by
    rw [map, rowsOnto, rowsOnto, rowsAllOnto_noted f children]
    rfl

/-- Notes play no part in the rows of some trees. -/
theorem rowsAllOnto_noted (f : α → β) :
    ∀ (branches : List (Branch α)) (depth : Nat) (others : List Row),
      rowsAllOnto depth (mapAll (Entry.noted f) branches) others = rowsAllOnto depth branches others
  | [], _, _ => rfl
  | branch :: rest, depth, others => by
    rw [mapAll, rowsAllOnto, rowsAllOnto, rowsAllOnto_noted f rest, rowsOnto_noted f branch]

end

end Branch

/-! ## Labels of what was read -/

namespace Scan

/-- A digit is no line feed, and neither is a character of a name. -/
theorem feed_plain : Text.isDigit '\n' = false ∧ isNameChar '\n' = false := by decide

/-- The characters that a reader takes while they are in a class without the line feed. -/
theorem noFeed_takeWhile {isIn : Char → Bool} (out : isIn '\n' = false) (text : List Char) :
    '\n' ∉ text.takeWhile isIn := by
  intro inside
  have taken := List.mem_takeWhile_imp inside
  rw [out] at taken
  cases taken

/-- A number has no line feed. -/
theorem noFeed_parts (text : List Char) : '\n' ∉ (parts text).lexeme := by
  have digits := noFeed_takeWhile feed_plain.1
  have part : ∀ text : List Char, '\n' ∉ fraction text := by
    intro text
    unfold fraction
    split
    · split
      · simpa using digits _
      · simp
    · simp
  have mark : ∀ text : List Char, '\n' ∉ exponentHead text := by
    intro text
    unfold exponentHead
    split <;> simp
  unfold parts Parts.lexeme
  simp only [List.mem_append, not_or]
  exact ⟨⟨⟨digits _, part _⟩, mark _⟩, digits _⟩

/-- A text in quotes has no line feed. -/
theorem noFeed_stringBody {text consumed values : List Char}
    (scanned : stringBody text = .ok (consumed, values)) : '\n' ∉ consumed := by
  fun_induction stringBody text generalizing consumed values with
  | case1 | case3 | case4 | case5 | case7 | case9 => cases scanned
  | case2 =>
    cases scanned
    decide
  | case6 c left value is inner innerValues inside ih =>
    cases scanned
    rw [List.mem_cons, List.mem_cons]
    rintro (slash | feed | among)
    · cases slash
    · subst feed
      cases is
    · exact ih inside among
  | case8 c left noQuote noFeed noEnd noEscape inner innerValues inside ih =>
    cases scanned
    rw [List.mem_cons]
    rintro (feed | among)
    · exact noFeed feed.symm
    · exact ih inside among

/-- A sign has no line feed. -/
theorem noFeed_of_sign {c : Char} {found : Piece} (scanned : sign c = .ok found) :
    '\n' ∉ found.lexeme := by
  unfold sign at scanned
  split at scanned
  · rename_i kind is
    cases scanned
    rw [List.mem_singleton]
    rintro rfl
    cases is
  · cases scanned

/-- A pair of signs has no line feed. -/
theorem noFeed_of_ofPair? {c next : Char} {kind : TokenKind}
    (found : TokenKind.ofPair? c next = some kind) : '\n' ∉ [c, next] := by
  unfold TokenKind.ofPair? at found
  split at found <;> cases found <;> decide

/-- A token has no line feed. -/
theorem noFeed_of_piece {c : Char} {rest : List Char} {found : Piece}
    (scanned : piece c rest = .ok found) : '\n' ∉ found.lexeme := by
  unfold piece at scanned
  split at scanned
  · unfold string at scanned
    split at scanned
    · rename_i inner
      cases scanned
      exact List.not_mem_cons_of_ne_of_not_mem (by decide) (noFeed_stringBody inner)
    · cases scanned
  · split at scanned
    · rcases number_cases (c :: rest) with ⟨_, same⟩ | ⟨fault, failed, _⟩
      · rw [same] at scanned
        rw [(lexeme_numberPiece scanned).1]
        exact noFeed_parts _
      · rw [failed] at scanned
        cases scanned
    · split at scanned
      · cases scanned
        exact noFeed_takeWhile feed_plain.2 _
      · split at scanned
        · split at scanned
          · rename_i next more _ kind is
            cases scanned
            exact noFeed_of_ofPair? is
          · exact noFeed_of_sign scanned
        · exact noFeed_of_sign scanned

/-- The value of the token that a lexeme is, if it is one. -/
def literalOf? (lexeme : String) : Option Literal :=
  match lexeme.toList ++ [' '] with
  | [] => none
  | c :: rest =>
    match piece c rest with
    | .ok found => found.literal
    | .error _ => none

/-- A token of a text: it stands on one line, and its value is that of its lexeme. -/
structure Listed (token : Token) : Prop where
  /-- The lexeme has no line feed. -/
  line : '\n' ∉ token.lexeme.toList
  /-- The value is that of the lexeme. -/
  value : literalOf? token.lexeme = token.literal

/-- A token that was scanned is one. -/
theorem listed_of_piece {c : Char} {rest : List Char} {found : Piece} {span : Source.Span}
    (scanned : piece c rest = .ok found) :
    Listed ⟨found.kind, String.ofList found.lexeme, span, found.literal⟩ := by
  have fits := fits_of_piece scanned
  obtain ⟨more, whole⟩ := fits.front
  refine ⟨by simpa using noFeed_of_piece scanned, ?_⟩
  cases lexeme : found.lexeme with
  | nil => exact absurd lexeme fits.consumes
  | cons first others =>
    rw [lexeme] at whole
    obtain ⟨rfl, rfl⟩ := List.cons.inj whole
    have again := piece_again scanned lexeme (ends_blank (show isGap ' ' = true from rfl) [])
    simp only [literalOf?, String.toList_ofList, List.cons_append, again]

/-- The end of a text is no literal. -/
theorem listed_endOfText (span : Source.Span) : Listed ⟨.endOfText, "", span, none⟩ :=
  ⟨List.not_mem_nil, rfl⟩

/-- The tokens of a source text stand on one line each, with the values of their lexemes. -/
theorem listed_scan {source : String} {file : Option String} {tokens : List Token}
    (scanned : scan source file = (tokens, none)) : ∀ token ∈ tokens, Listed token := by
  have listed := forall_tokensFrom listed_endOfText listed_of_piece file {} source.toList
  unfold scan at scanned
  rwa [scanned] at listed

end Scan

/-- An entry with what it stands for, if it is a literal with a lexeme. -/
def Entry.restored (entry : Entry Unit) : Entry Unit :=
  { entry with literal :=
    if entry.kind = .literal then entry.label.bind Scan.literalOf? else none }

/-- An entry that comes from tokens of a text has a label on one line, and what it stands for is
known from its kind and its label. -/
theorem Grammar.Made.listed {tokens : List Token} {entry : Entry Parse.Place}
    (made : Grammar.Made tokens entry) (listed : ∀ token ∈ tokens, Scan.Listed token) :
    (∀ label ∈ entry.label, '\n' ∉ label.toList) ∧
      entry.titled.restored = entry.noted fun _ => () := by
  have plain : ∀ {kind : Kind} {label : Option String} {place : Parse.Place}, kind ≠ .literal →
      (Entry.titled ⟨kind, label, none, place⟩).restored =
        Entry.noted (fun _ => ()) ⟨kind, label, none, place⟩ := by
    intro kind label place other
    unfold Entry.restored Entry.titled
    rw [if_neg other]
    rfl
  have own : ∀ {token : Token}, token ∈ tokens → ∀ label ∈ some token.lexeme,
      '\n' ∉ label.toList := by
    rintro token among _ ⟨⟩
    exact (listed token among).line
  cases made with
  | @literal token among =>
    refine ⟨own among, ?_⟩
    simp only [Entry.restored, Entry.titled, if_pos, Option.bind_some, (listed token among).value]
    rfl
  | word kind among =>
    refine ⟨own among, plain ?_⟩
    rcases kind with rfl | rfl <;> decide
  | named kind among =>
    refine ⟨own among, plain ?_⟩
    rintro rfl
    cases kind
  | @unary op =>
    refine ⟨?_, plain (by decide)⟩
    rintro _ ⟨⟩
    cases op <;> decide
  | @binary op =>
    refine ⟨?_, plain (by decide)⟩
    rintro _ ⟨⟩
    cases op <;> decide
  | plain kind =>
    refine ⟨fun _ none => (by cases none), plain ?_⟩
    rintro rfl
    cases kind

/-! ## Programs -/

/-- A program without the places of its constructs and without the label of its file. -/
def Program.bare (program : Program α) : Program Unit :=
  { program.map fun _ => () with file := none }

/-- The generic form of a bare program. -/
theorem Program.bare_branch (program : Program α) :
    program.bare.branch = program.branch.map (Entry.noted fun _ => ()) :=
  program.branch_map fun _ => ()

/-- What the outline of a program that was read is made of: the labels of its rows stand on one
line, and what its literals stand for is known from its entries without that. The program may have
been read. -/
structure Program.Outlined (program : Program Node) : Prop where
  /-- The labels of the rows have no line feed. -/
  lines : ∀ depth, ∀ row ∈ Branch.rowsOnto depth program.branch [],
    ∀ label ∈ row.label, '\n' ∉ label.toList
  /-- Values are known from kinds and labels. -/
  values : (program.branch.map Entry.titled).map Entry.restored = program.bare.branch
  /-- The program without its places may have been read. -/
  regular : program.bare.Regular

/-- A program that was read has such an outline. -/
theorem Program.outlined {reach : Nat} {source : String} {file : Option String}
    {tree : Program Node} (read : Program.ofTextWithin reach source file = .ok tree) :
    tree.Outlined := by
  obtain ⟨tokens, scanned, parsed⟩ := Program.ofTextWithin_eq_ok.1 read
  have entries : ∀ node, Branch.Occurs node tree.branch →
      (∀ label ∈ node.entry.label, '\n' ∉ label.toList) ∧
        node.entry.titled.restored = node.entry.noted fun _ => () := by
    intro node occurs
    have made := ((Parse.nested_of_ofTokens scanned parsed).1 node occurs).1
    exact made.listed (Scan.listed_scan scanned)
  refine ⟨?_, ?_, ?_⟩
  · intro depth row among label given
    obtain ⟨node, occurs, same⟩ | none := Branch.mem_rowsOnto _ among
    · exact (entries node occurs).1 label (same ▸ given)
    · cases none
  · rw [Program.bare_branch]
    exact Branch.map_map_of_occurs _ fun node occurs => (entries node occurs).2
  · have regular := (Parse.regular_of_ofTokens (Scan.sound_scan scanned) parsed).1
    exact (Program.regular_map (fun _ => ()) tree).2 regular

/-- Outlines determine trees. Two programs that were read have the same outline, at whatever depth
it starts, exactly if they are the same but for the places of their constructs and the labels of
their files. -/
theorem outline_eq_iff {reach otherReach : Nat} {source other : String}
    {file label : Option String} {one two : Program Node}
    (read : Program.ofTextWithin reach source file = .ok one)
    (otherRead : Program.ofTextWithin otherReach other label = .ok two) (depth : Nat) :
    one.branch.outline depth = two.branch.outline depth ↔ one.bare = two.bare := by
  have some : ∀ tree : Branch Node, Branch.rowsOnto depth tree [] ≠ [] := by
    intro tree
    cases tree
    exact List.cons_ne_nil _ _
  have outlined := Program.outlined read
  have otherOutlined := Program.outlined otherRead
  rw [Branch.outline_eq, Branch.outline_eq]
  constructor
  · intro same
    have rows := Branch.eq_of_joined (some _) (some _) (outlined.lines depth)
      (otherOutlined.lines depth) same
    have titles := (Branch.rowsOnto_inj one.branch two.branch (by simp) (by simp) rows).1
    refine Program.eq_of_branch outlined.regular otherOutlined.regular rfl ?_
    rw [← outlined.values, ← otherOutlined.values, titles]
  · intro same
    have branches := congrArg Program.branch same
    rw [Program.bare_branch, Program.bare_branch] at branches
    rw [← Branch.rowsOnto_noted (fun _ => ()) one.branch, branches, Branch.rowsOnto_noted]

/-- A text with comments, and with parentheses that leave no trace. -/
def groupedText : String :=
  "fn f(n: int) -> bool \x7b // one\n  if ((n) < 1) \x7b return true; \x7d else \x7b\n" ++
    "    (g)((-n), \"a b\"); \x7d\n  return false;\n\x7d /* last */"

/-- The text of the same program without them. -/
def denseText : String :=
  "fn f(n:int)->bool\x7bif n<1\x7breturn true;\x7delse\x7bg(-n,\"a b\");\x7dreturn false;\x7d"

/-- Two texts of one program have one outline, and the program is the same. -/
theorem outline_eq_iff_grouped : ∃ one two,
    Program.ofTextWithin 40 groupedText (some "one") = .ok one ∧
      Program.ofTextWithin 40 denseText none = .ok two ∧
        one.branch.outline (0 : Nat) = two.branch.outline (0 : Nat) ∧ one.bare = two.bare := by
  obtain ⟨one, read, others⟩ : ∃ one,
      Program.ofTextWithin 40 groupedText (some "one") = .ok one ∧
        ((Program.ofCharacters? 40 denseText.toList none).any fun two =>
          one.branch.outline (0 : Nat) == two.branch.outline (0 : Nat)) = true :=
    Program.exists_ofTextWithin (spelled_append rfl rfl) (by decide +kernel)
  obtain ⟨two, otherRead, same⟩ := Program.exists_ofTextWithin String.ofList_toList.symm others
  have outlines := eq_of_beq same
  exact ⟨one, two, read, otherRead, outlines, (outline_eq_iff read otherRead 0).1 outlines⟩

end Lag
