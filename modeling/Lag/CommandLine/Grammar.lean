import Lag.Number.Reading

/-!
# Grammars of command lines

A command line is a list of words. A grammar says which flags may stand among them, and which
positions the other words fill, in order. A flag may be shortened to a beginning that no other flag
has, its value may be the next word or follow an equality sign, and after two dashes every word
fills a position. Words that look like flags but are none are collected and left to the caller.
-/
namespace Lag.CommandLine

/-- What the value of a flag has to be. -/
inductive ValueKind where
  /-- Any text. -/
  | text
  /-- A float. -/
  | float
  /-- An integer. -/
  | int
  deriving DecidableEq, Repr

/-- The name of a kind of values. -/
def ValueKind.name : ValueKind → String
  | .text => "str"
  | .float => "float"
  | .int => "int"

/-- Whether a text is of a kind. -/
def ValueKind.accepts (kind : ValueKind) (given : String) : Bool :=
  match kind with
  | .text => true
  | .float => (Number.readFloat given).isOk
  | .int => (Number.readInt given).isOk

/-- A flag. -/
structure Flag where
  /-- Its spellings. -/
  spellings : List String
  /-- What its value has to be; the flag for help has no value. -/
  kind : Option ValueKind := some .text
  deriving DecidableEq, Repr

/-- The spellings of a flag in messages. -/
def Flag.name (flag : Flag) : String := "/".intercalate flag.spellings

/-- The flag that asks for help. -/
def Flag.help : Flag := ⟨["-h", "--help"], none⟩

/-- How many words a position takes. -/
inductive Amount where
  /-- One word. -/
  | one
  /-- Words up to the next flag, at least one. -/
  | several
  /-- Words up to the next flag. -/
  | any
  /-- One word and everything after it. -/
  | rest
  deriving DecidableEq, Repr

/-- A position. -/
structure Position where
  /-- Its name. -/
  name : String
  /-- How many words it takes. -/
  amount : Amount := .one
  deriving DecidableEq, Repr

/-- A grammar of command lines. -/
structure Grammar where
  /-- The title of the program in messages. -/
  title : String
  /-- The flags. -/
  flags : List Flag
  /-- The positions. -/
  positions : List Position
  deriving DecidableEq, Repr

/-- What is wrong with a command line. -/
inductive Misuse where
  /-- A word shortens several flags. -/
  | ambiguous (word : String) (spellings : List String)
  /-- A flag without a value has one. -/
  | needless (flag : Flag) (given : String)
  /-- A flag lacks its value. -/
  | noValue (flag : Flag)
  /-- The value of a flag is not of its kind. -/
  | value (flag : Flag) (kind : ValueKind) (given : String)
  /-- A word is none of those that may fill a position. -/
  | choice (position given : String) (choices : List String)
  /-- Positions are not filled. -/
  | unfilled (positions : List String)
  /-- Words are left over. -/
  | leftOver (words : List String)
  deriving DecidableEq, Repr

/-- The wording of a misuse. -/
def Misuse.message : Misuse → String
  | .ambiguous word spellings =>
    "ambiguous option: " ++ word ++ " could match " ++ ", ".intercalate spellings
  | .needless flag given =>
    "argument " ++ flag.name ++ ": ignored explicit argument " ++ Text.quoted given
  | .noValue flag => "argument " ++ flag.name ++ ": expected one argument"
  | .value flag kind given =>
    "argument " ++ flag.name ++ ": invalid " ++ kind.name ++ " value: " ++ Text.quoted given
  | .choice position given choices =>
    "argument " ++ position ++ ": invalid choice: " ++ Text.quoted given ++ " (choose from " ++
      ", ".intercalate (choices.map Text.quoted) ++ ")"
  | .unfilled positions =>
    "the following arguments are required: " ++ ", ".intercalate positions
  | .leftOver words => "unrecognized arguments: " ++ " ".intercalate words

/-- Why a command line is not carried out. -/
inductive Stop where
  /-- It asks for help about the program with a title. -/
  | help (title : String)
  /-- It is wrong. -/
  | misuse (title : String) (misuse : Misuse)
  deriving DecidableEq, Repr

/-- What a command line says. -/
structure Parsed where
  /-- The values of flags by their first spellings, the last one first. -/
  values : List (String × String) := []
  /-- The words in the positions that are filled. -/
  words : List (String × List String) := []
  /-- The words that look like flags or fill no position. -/
  extra : List String := []
  deriving DecidableEq, Repr

/-- The value of a flag. -/
def Parsed.value? (parsed : Parsed) (spelling : String) : Option String :=
  List.lookup spelling parsed.values

/-- The words in a position. -/
def Parsed.wordsAt (parsed : Parsed) (position : String) : List String :=
  (List.lookup position parsed.words).getD []

/-- The word in a position that takes one; none when only the two dashes fill it. -/
def Parsed.wordAt? (parsed : Parsed) (position : String) : Option String :=
  (parsed.wordsAt position).head?

/-! ## Kinds of words -/

/-- How a flag stands in a word. -/
structure Mention where
  /-- The flag, unless the word only looks like one. -/
  flag : Option Flag
  /-- The spelling. -/
  spelling : String
  /-- The value in the word, if there is one. -/
  given : Option String := none
  deriving DecidableEq, Repr

/-- What a word is. -/
inductive WordKind where
  /-- A plain word. -/
  | plain
  /-- The two dashes after which all words are plain. -/
  | gap
  /-- A flag. -/
  | flag (mention : Mention)
  deriving DecidableEq, Repr

/-- A word is split at its first equality sign: what comes before it, whether there is one, and
what comes after it. -/
def splitWord (word : String) : String × Bool × String :=
  let before := word.toList.takeWhile (· != '=')
  match word.toList.drop before.length with
  | _ :: after => (String.ofList before, true, String.ofList after)
  | [] => (word, false, "")

/-- Whether a word is a negative number. -/
def isNegative (word : String) : Bool :=
  let isDigit (c : Char) := (Text.decimalValue? c).isSome
  let body := word.toList.tail
  let body := if body.getLast? = some '\n' then body.dropLast else body
  let whole := body.takeWhile isDigit
  match body.dropWhile isDigit with
  | [] => !whole.isEmpty
  | '.' :: fraction => !fraction.isEmpty && fraction.all isDigit
  | _ => false

namespace Grammar

/-- The flags with their spellings, in order. -/
def spellings (grammar : Grammar) : List (String × Flag) :=
  grammar.flags.flatMap fun flag => flag.spellings.map (·, flag)

/-- The flag with a spelling. -/
def flag? (grammar : Grammar) (spelling : String) : Option Flag :=
  List.lookup spelling grammar.spellings

/-- The flags that a word with two dashes shortens. -/
def shortened (grammar : Grammar) (word : String) : List Mention :=
  let (start, marked, given) := splitWord word
  grammar.spellings.filterMap fun (spelling, flag) =>
    if start.isPrefixOf spelling then
      some ⟨some flag, spelling, if marked then some given else none⟩
    else none

/-- The flags with one letter that a word starts with, and those with one dash that it shortens. -/
def joined (grammar : Grammar) (word : String) : List Mention :=
  let letter := String.ofList (word.toList.take 2)
  grammar.spellings.filterMap fun (spelling, flag) =>
    if spelling = letter then
      some ⟨some flag, spelling, some (String.ofList (word.toList.drop 2))⟩
    else if word.isPrefixOf spelling then some ⟨some flag, spelling, none⟩
    else none

/-- What a word is that starts with a dash and spells no flag. -/
def unspelled (grammar : Grammar) (word : String) : Except Misuse WordKind :=
  let found :=
    if word.startsWith "--" then grammar.shortened word else grammar.joined word
  match found with
  | [mention] => .ok (.flag mention)
  | _ :: _ :: _ => .error (.ambiguous word (found.map (·.spelling)))
  | [] =>
    if isNegative word || word.contains ' ' then .ok .plain
    else .ok (.flag ⟨none, word, none⟩)

/-- What a word is. -/
def kindOf (grammar : Grammar) (word : String) : Except Misuse WordKind :=
  if !word.startsWith "-" || word = "-" then .ok .plain
  else match grammar.flag? word with
    | some flag => .ok (.flag ⟨some flag, word, none⟩)
    | none =>
      let (start, marked, given) := splitWord word
      match if marked then grammar.flag? start else none with
      | some flag => .ok (.flag ⟨some flag, start, some given⟩)
      | none => grammar.unspelled word

/-- The kinds of words. -/
def kindsOf (grammar : Grammar) : List String → Except Misuse (List (String × WordKind))
  | [] => .ok []
  | word :: rest =>
    if word = "--" then .ok ((word, .gap) :: rest.map (·, .plain))
    else do
      let kind ← grammar.kindOf word
      return (word, kind) :: (← grammar.kindsOf rest)

end Grammar

/-! ## Filling positions -/

/-- Words with their kinds. -/
abbrev Words := List (String × WordKind)

/-- Whether a word is the two dashes. -/
def isGap (word : String × WordKind) : Bool := word.2 == .gap

/-- Whether a word is plain. -/
def isPlain (word : String × WordKind) : Bool := word.2 == .plain

/-- The number of words that fill a position from the front of words, if they can. -/
def Amount.count? (amount : Amount) (words : Words) : Option Nat :=
  let gaps := words.takeWhile isGap
  let after := words.drop gaps.length
  let filled := after.head?.any isPlain
  let run := (after.takeWhile fun word => isGap word || isPlain word).length
  match amount with
  | .one =>
    if filled then some (gaps.length + 1 + ((after.drop 1).takeWhile isGap).length) else none
  | .several => if filled then some (gaps.length + run) else none
  | .any => some (gaps.length + run)
  | .rest => if filled then some words.length else none

/-- The words that fill a position; the two dashes among them do not count, but belong to what
comes after a first word. -/
def Amount.filling (amount : Amount) (words : Words) : List String :=
  let texts := words.map (·.1)
  if amount = .rest then texts else texts.erase "--"

/-- Fill as many positions as possible from the front of words: what fills them, the positions that
are left, and the words that are left. -/
def fill : List Position → Words → List (String × List String) × List Position × Words
  | [], words => ([], [], words)
  | position :: positions, words =>
    match position.amount.count? words with
    | none => ([], position :: positions, words)
    | some count =>
      let (filled, unfilled, left) := fill positions (words.drop count)
      ((position.name, position.amount.filling (words.take count)) :: filled, unfilled, left)

/-! ## Carrying out flags -/

/-- What one word with a flag led to. -/
structure Effect where
  /-- Whether help was asked for. -/
  help : Bool := false
  /-- The value of a flag. -/
  value : Option (String × String) := none
  /-- A word that is left over. -/
  extra : Option String := none
  /-- The words after it. -/
  left : Words

/-- Take the value of a flag. -/
def Flag.take (flag : Flag) (kind : ValueKind) (given : String) (effect : Effect) :
    Except Misuse Effect :=
  if kind.accepts given then
    .ok { effect with value := some (flag.spellings.head?.getD "", given) }
  else .error (.value flag kind given)

/-- Carry out a flag; `letters` bounds the number of flags in one word. -/
def carryOut (grammar : Grammar) (word : String) (left : Words) :
    Nat → Mention → Except Misuse Effect
  | 0, _ => .ok { left := left }
  | letters + 1, mention =>
    match mention.flag with
    | none => .ok { extra := some word, left := left }
    | some flag =>
      match flag.kind, mention.given with
      | some kind, some given => flag.take kind given { left := left }
      | some kind, none =>
        match left with
        | (given, .plain) :: left => flag.take kind given { left := left }
        | _ => .error (.noValue flag)
      | none, none => .ok { help := true, left := left }
      | none, some given =>
        match given.toList with
        | [] => .error (.needless flag given)
        | letter :: more =>
          let spelling := String.ofList ['-', letter]
          let next := if mention.spelling.startsWith "--" then none else grammar.flag? spelling
          match next with
          | none => .error (.needless flag given)
          | some next => do
            let more := if more.isEmpty then none else some (String.ofList more)
            let effect ← carryOut grammar word left letters ⟨some next, spelling, more⟩
            return { effect with help := true }

/-- Whether a word mentions a flag. -/
def isFlag (word : String × WordKind) : Bool := !isGap word && !isPlain word

/-- Read words: flags and positions in turn, as long as there are flags, then the positions. -/
def Grammar.read (grammar : Grammar) :
    Nat → List Position → Words → Parsed → Except Stop (Parsed × List Position)
  | 0, positions, _, parsed => .ok (parsed, positions)
  | fuel + 1, positions, words, parsed =>
    let before := words.takeWhile (!isFlag ·)
    if words.any isFlag then
      let (filled, unfilled, left) :=
        if before.isEmpty then ([], positions, words) else fill positions words
      let parsed := { parsed with words := parsed.words ++ filled }
      if left.length < words.length then grammar.read fuel unfilled left parsed
      else
        let parsed := { parsed with extra := parsed.extra ++ before.map (·.1) }
        match words.drop before.length with
        | (word, .flag mention) :: left =>
          match carryOut grammar word left (word.length + 1) mention with
          | .error misuse => .error (.misuse grammar.title misuse)
          | .ok effect =>
            if effect.help then .error (.help grammar.title)
            else
              grammar.read fuel unfilled effect.left
                { parsed with
                  values := effect.value.toList ++ parsed.values
                  extra := parsed.extra ++ effect.extra.toList }
        | _ => .ok (parsed, unfilled)
    else
      let (filled, unfilled, left) := fill positions words
      .ok ({ parsed with
        words := parsed.words ++ filled, extra := parsed.extra ++ left.map (·.1) }, unfilled)

/-- What words say in a grammar. Words that are left over are no misuse yet. -/
def Grammar.parse (grammar : Grammar) (words : List String) : Except Stop Parsed :=
  match grammar.kindsOf words with
  | .error misuse => .error (.misuse grammar.title misuse)
  | .ok kinds => do
    let (parsed, unfilled) ← grammar.read (words.length + 1) grammar.positions kinds {}
    if unfilled.isEmpty then return parsed
    else .error (.misuse grammar.title (.unfilled (unfilled.map (·.name))))

end Lag.CommandLine
