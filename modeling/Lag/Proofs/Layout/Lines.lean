import Lag.Proofs.Layout.Outlined

/-!
# Lines are read as they are written

Each form of line is read as the statement, the header or the entry that it is written for.
-/
namespace Lag.Host

/-- The first word of a text ends where no word character follows. -/
theorem firstWord_eq {word rest : List Char} (letters : ∀ c ∈ word, isWordChar c = true)
    (stops : ∀ c ∈ rest.head?, isWordChar c = false) :
    firstWord (word ++ rest) = (String.ofList word, rest) := by
  rw [firstWord, List.takeWhile_append_of_pos letters, List.dropWhile_append_of_pos letters]
  cases rest with
  | nil => rw [List.takeWhile_nil, List.append_nil, List.dropWhile_nil]
  | cons c rest =>
    have sign := stops c rfl
    rw [List.takeWhile_cons, sign, List.dropWhile_cons, sign, if_neg Bool.false_ne_true,
      if_neg Bool.false_ne_true, List.append_nil]

/-- What continues an expression starts with no word character. -/
theorem Continues.stops {rest : List Char} (continues : Continues rest) :
    ∀ c ∈ rest.head?, isWordChar c = false := by
  cases continues with
  | nil => exact fun _ inside => nomatch inside
  | sign sign seen =>
    rintro _ ⟨⟩
    exact sign
  | blank differs =>
    rintro _ ⟨⟩
    decide
  | equal =>
    rintro _ ⟨⟩
    decide

/-- A blank ends a word. -/
theorem blank_stops (rest : List Char) : ∀ c ∈ (' ' :: rest).head?, isWordChar c = false := by
  rintro _ ⟨⟩
  decide

/-- The first word of a text in which a blank follows a word. -/
theorem firstWord_blank {word : String} (letters : word.toList.all isWordChar = true)
    (text : String) : firstWord (word ++ " " ++ text).toList = (word, ' ' :: text.toList) := by
  have whole : (word ++ " " ++ text).toList = word.toList ++ ' ' :: text.toList := by simp
  rw [whole, firstWord_eq (List.all_eq_true.1 letters) (blank_stops _), String.ofList_toList]

/-! ## Lists of names -/

/-- Texts with commas between them are cut at the commas, each with a blank in front of it but the
first. -/
theorem toList_intercalate_comma (first : String) (rest : List String) :
    (", ".intercalate (first :: rest)).toList =
      [','].intercalate (first.toList :: rest.map fun text => ' ' :: text.toList) := by
  induction rest generalizing first with
  | nil => simp
  | cons next rest ih =>
    rw [String.intercalate_cons_cons, String.toList_append, String.toList_append, ih next,
      List.map_cons, List.intercalate_cons_cons]
    cases rest with
    | nil => simp
    | cons third rest =>
      rw [List.map_cons, List.intercalate_cons_cons, List.intercalate_cons_cons]
      simp

/-- No blank is in front of a name. -/
theorem dropWhile_name {name : String} (isName : isWord name = true) :
    name.toList.dropWhile (· == ' ') = name.toList := by
  obtain ⟨⟨first, others, shape⟩, letters, _⟩ := name_parts isName
  have letter := letters first (shape ▸ List.mem_cons_self)
  have seen : (first == ' ') = false := beq_eq_false_iff_ne.2 fun same => by
    rw [same] at letter
    exact absurd letter (by decide)
  rw [shape, List.dropWhile_cons, seen, if_neg Bool.false_ne_true]

/-- Names with commas between them are read one by one. -/
theorem separateNames_eq {names : List String} (named : ∀ name ∈ names, isWord name = true) :
    separateNames (", ".intercalate names).toList = names := by
  cases names with
  | nil => rfl
  | cons first rest =>
    obtain ⟨firstNamed, restNamed⟩ := List.forall_mem_cons.1 named
    obtain ⟨⟨letter, others, shape⟩, _, _⟩ := name_parts firstNamed
    have some : (", ".intercalate (first :: rest)).toList.isEmpty = false := by
      cases rest <;> simp [String.intercalate_cons_cons, shape]
    have noComma {name : String} (isName : isWord name = true) : ',' ∉ name.toList := fun inside =>
      absurd ((name_parts isName).2.1 _ inside) (by decide)
    have separate : ∀ text ∈ first.toList :: rest.map fun text => ' ' :: text.toList,
        ',' ∉ text := by
      refine List.forall_mem_cons.2 ⟨noComma firstNamed, fun text inside => ?_⟩
      obtain ⟨name, member, rfl⟩ := List.mem_map.1 inside
      exact List.not_mem_cons_of_ne_of_not_mem (by decide) (noComma (restNamed name member))
    rw [separateNames, some, if_neg Bool.false_ne_true, toList_intercalate_comma,
      List.splitOn_intercalate ',' separate (List.cons_ne_nil _ _), List.map_cons, List.map_map,
      dropWhile_name firstNamed, String.ofList_toList]
    congr 1
    conv_rhs => rw [← List.map_id rest]
    refine List.map_congr_left fun name inside => ?_
    have dropped : (' ' :: name.toList).dropWhile (· == ' ') = name.toList :=
      dropWhile_name (restNamed name inside)
    rw [Function.comp_apply, dropped, String.ofList_toList]
    rfl

/-! ## Statements on lines -/

/-- A name is none of the words that statements start with. -/
theorem plain_of_isWord {name : String} (isName : isWord name = true) : name ∉ statementWords := by
  have plain := (name_parts isName).2.2
  rwa [String.ofList_toList] at plain

/-- A line that starts with no word of a statement is an expression or gives a value. -/
theorem Item.ofWord?_plain (text : String) {word : String} (plain : word ∉ statementWords)
    (rest : List Char) : Item.ofWord? text word rest = some (.ofPlain text word rest) := by
  simp only [statementWords, List.mem_cons, List.not_mem_nil, or_false, not_or] at plain
  obtain ⟨pass, leave, listed, imports, isIf, isElif, isElse, isWhile, isFor, isDef⟩ := plain
  have header : headerWords.contains word = false := by
    simp [headerWords, isIf, isElif, isElse, isWhile, isFor, isDef]
  rw [Item.ofWord?, if_neg pass, if_neg leave, if_neg listed, if_neg imports, header,
    if_neg Bool.false_ne_true]

/-- What continues an expression gives no value. -/
theorem Continues.ofPlain {rest : List Char} (continues : Continues rest) (text word : String) :
    Item.ofPlain text word rest = .evaluate text := by
  unfold Item.ofPlain
  -- A value would be given after a blank, a single equals sign and another blank.
  split
  · cases continues with
    | sign sign seen => exact absurd rfl seen
    | blank differs => exact absurd rfl differs
  · rfl

/-- An expression is read as one. -/
theorem Item.ofText?_evaluate {text : String} (isExpression : IsExpression text) :
    Item.ofText? text = some (.evaluate text) := by
  obtain ⟨word, rest, shape, letters, plain, continues, _⟩ := isExpression.opens
  have words : firstWord text.toList = (String.ofList word, rest) := by
    rw [shape]
    exact firstWord_eq letters continues.stops
  rw [Item.ofText?, words]
  dsimp only
  rw [Item.ofWord?_plain text plain, continues.ofPlain]

/-- A value for a name is read as one. -/
theorem Item.ofText?_assign {name value : String} (isName : isWord name = true)
    (isExpression : IsExpression value) :
    Item.ofText? (name ++ " = " ++ value) = some (.assign name value) := by
  have words : firstWord (name ++ " = " ++ value).toList =
      (name, ' ' :: '=' :: ' ' :: value.toList) := by
    have whole : (name ++ " = " ++ value).toList =
        name.toList ++ ' ' :: '=' :: ' ' :: value.toList := by simp
    rw [whole, firstWord_eq (name_parts isName).2.1 (blank_stops _), String.ofList_toList]
  have table : value.toList ≠ "\x7b\x7d".toList := by
    intro same
    obtain ⟨c, head, may⟩ := isExpression.opens.choose_spec.choose_spec.starts
    rw [same] at head
    obtain rfl := Option.some.inj head
    exact may.2.2.2.1 rfl
  rw [Item.ofText?, words]
  dsimp only
  rw [Item.ofWord?_plain _ (plain_of_isWord isName), Item.ofPlain, if_neg table,
    String.ofList_toList]

/-- A return with a value is read as one. -/
theorem Item.ofText?_leave (value : String) :
    Item.ofText? ("return " ++ value) = some (.leave (some value)) := by
  have words : firstWord ("return " ++ value).toList = ("return", ' ' :: value.toList) :=
    @firstWord_blank "return" (by decide) value
  rw [Item.ofText?, words]
  dsimp only
  rw [Item.ofWord?, if_neg (by decide), if_pos rfl, leaveOf?, if_neg (by simp), afterBlank?,
    Option.map_some, String.ofList_toList]

/-- A list of names of the module is read as one. -/
theorem Item.ofText?_listed {names : List String} (named : ∀ name ∈ names, isWord name = true) :
    Item.ofText? ("global " ++ ", ".intercalate names) = some (.listed names) := by
  have words : firstWord ("global " ++ ", ".intercalate names).toList =
      ("global", ' ' :: (", ".intercalate names).toList) := @firstWord_blank "global" (by decide) _
  rw [Item.ofText?, words]
  dsimp only
  rw [Item.ofWord?, if_neg (by decide), if_neg (by decide), if_pos rfl, afterBlank?,
    Option.map_some, separateNames_eq named]

/-! ## Headers -/

/-- The part that a word with something after a blank starts. -/
theorem Part.ofHeader?_blank {word : String} (letters : word.toList.all isWordChar = true)
    (differs : word ≠ "else") (text : String) (body : List Item) :
    Part.ofHeader? (word ++ " " ++ text) body = Part.ofTest? body word text.toList := by
  rw [Part.ofHeader?, firstWord_blank letters]
  dsimp only
  rw [Part.ofWord?, if_neg differs, afterBlank?, Option.bind_some]

/-- A last body is read as one. -/
theorem Part.ofHeader?_else (body : List Item) :
    Part.ofHeader? "else" body = some (.last body) := rfl

/-- A first test is read as one. -/
theorem Part.ofHeader?_if (test : String) (body : List Item) :
    Part.ofHeader? ("if" ++ " " ++ test) body = some (.first test body) := by
  rw [Part.ofHeader?_blank (by decide) (by decide), Part.ofTest?, if_pos rfl, String.ofList_toList]

/-- A further test is read as one. -/
theorem Part.ofHeader?_elif (test : String) (body : List Item) :
    Part.ofHeader? ("elif" ++ " " ++ test) body = some (.further test body) := by
  rw [Part.ofHeader?_blank (by decide) (by decide), Part.ofTest?, if_neg (by decide), if_pos rfl,
    String.ofList_toList]

/-- A loop with a test is read as one. -/
theorem Part.ofHeader?_while (test : String) (body : List Item) :
    Part.ofHeader? ("while " ++ test) body = some (.item (.whileLoop test body)) := by
  have reads := @Part.ofHeader?_blank "while" (by decide) (by decide) test body
  rw [Part.ofTest?, if_neg (by decide), if_neg (by decide), if_pos rfl, String.ofList_toList]
    at reads
  exact reads

/-- The text between parentheses is found. -/
theorem enclosed?_eq (opening : String) (inside : List Char) :
    enclosed? opening (opening.toList ++ inside ++ [')']) = some inside := by
  have starts : opening.toList.isPrefixOf (opening.toList ++ inside ++ [')']) = true :=
    List.isPrefixOf_iff_prefix.2 (by rw [List.append_assoc]; exact List.prefix_append _ _)
  have ends : (opening.toList ++ inside ++ [')']).getLast? = some ')' := List.getLast?_concat
  have both : (true && some ')' == some ')') = true := by decide
  rw [enclosed?, starts, ends, if_pos both, List.append_assoc, List.drop_left,
    List.dropLast_concat]

/-- The first word after a blank, when the text goes on with something in parentheses. -/
theorem firstWord_enclosed {name opening : String} (isName : isWord name = true)
    (stops : opening.toList.head?.all (!isWordChar ·) = true) (some : opening ≠ "")
    (inside : String) : firstWord (name ++ (opening ++ inside ++ ")")).toList =
      (name, opening.toList ++ inside.toList ++ [')']) := by
  obtain ⟨c, rest, shape⟩ := List.exists_cons_of_ne_nil
    fun empty => some (String.toList_eq_nil_iff.1 empty)
  have whole : (name ++ (opening ++ inside ++ ")")).toList =
      name.toList ++ (opening.toList ++ inside.toList ++ [')']) := by simp
  rw [whole, firstWord_eq (name_parts isName).2.1, String.ofList_toList]
  rw [shape] at stops ⊢
  rintro _ ⟨⟩
  rwa [List.head?_cons, Option.all_some, Bool.not_eq_true'] at stops

/-- A loop over a range is read as one. -/
theorem Part.ofHeader?_for {counter : String} (isName : isWord counter = true)
    (first bound : String) (body : List Item) :
    Part.ofHeader? ("for " ++ counter ++ " in range(" ++ first ++ ", " ++ bound ++ ")") body =
      some (.item (.forLoop counter (first ++ ", " ++ bound) body)) := by
  have whole : "for " ++ counter ++ " in range(" ++ first ++ ", " ++ bound ++ ")" =
      "for" ++ " " ++ (counter ++ (" in range(" ++ (first ++ ", " ++ bound) ++ ")")) := by
    simp [String.append_assoc]
  have words := @firstWord_enclosed _ " in range(" isName (by decide) (by decide)
    (first ++ ", " ++ bound)
  rw [whole, Part.ofHeader?_blank (by decide) (by decide), Part.ofTest?, if_neg (by decide),
    if_neg (by decide), if_neg (by decide), if_pos rfl, words]
  dsimp only
  rw [enclosed?_eq, Option.map_some, String.ofList_toList]

/-- A function is read as one. -/
theorem Part.ofHeader?_define {name : String} (isName : isWord name = true) {params : List String}
    (named : ∀ param ∈ params, isWord param = true) (body : List Item) :
    Part.ofHeader? ("def " ++ name ++ "(" ++ ", ".intercalate params ++ ")") body =
      some (.item (.define name params body)) := by
  have whole : "def " ++ name ++ "(" ++ ", ".intercalate params ++ ")" =
      "def" ++ " " ++ (name ++ ("(" ++ ", ".intercalate params ++ ")")) := by
    simp [String.append_assoc]
  have words := @firstWord_enclosed _ "(" isName (by decide) (by decide)
    (", ".intercalate params)
  rw [whole, Part.ofHeader?_blank (by decide) (by decide), Part.ofTest?, if_neg (by decide),
    if_neg (by decide), if_neg (by decide), if_neg (by decide), if_pos rfl, words]
  dsimp only
  rw [enclosed?_eq, Option.map_some, separateNames_eq named]

/-! ## Tables -/

/-- An entry of the table of exports is read as one. -/
theorem entryOf?_eq (key value : String) :
    entryOf? (Text.quoted key ++ ": " ++ value ++ ",") = some (key, value) := by
  obtain ⟨mark, isMark, shape⟩ := toList_quoted key
  have whole : (Text.quoted key ++ ": " ++ value ++ ",").toList =
      mark :: (key.toList.flatMap (Text.quotedChar mark) ++ mark ::
        (':' :: ' ' :: (value.toList ++ [',']))) := by
    simp [shape]
  have enough : key.toList.length < (key.toList.flatMap (Text.quotedChar mark) ++ mark ::
      (':' :: ' ' :: (value.toList ++ [',']))).length + 1 := by
    have longer := length_le_flatMap mark isMark key.toList
    rw [List.length_append]
    omega
  rw [entryOf?, whole]
  dsimp only
  rw [readQuoted_quoted isMark key.toList _ enough, Option.bind_some]
  dsimp only
  rw [valueOf?, List.getLast?_concat, if_pos rfl, List.dropLast_concat, String.ofList_toList,
    String.ofList_toList]

end Lag.Host
