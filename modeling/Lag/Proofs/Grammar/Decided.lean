import Lag.Proofs.Grammar.Accepts
import Lag.Proofs.Grammar.Sound
import Lag.Proofs.Token.Placed

/-!
# Reading decides the grammar

Tokens of a source text are read as a program exactly if the grammar derives one from them, and it
derives no other then. Five steps of depth for each token are enough for every text; with them a
text that is no program is refused for what it says, and not for its depth.

A source text that is no program is refused for a stretch of it: a fault met while its tokens are
found, or a token that no reader of trees can go on with. The only other reason is a numeral that
cannot be converted, and that failure has no place.
-/
namespace Lag

open Grammar

namespace Parse

/-- A parameter is read. -/
theorem completes_param {text : List Token} {param : Param Place} (writes : Parameter text param) :
    Completes (fun _ => Parse.param) (fun _ => True) text param := by
  intro depth rest final last opened _
  cases writes with
  | typed isName isColon written =>
    obtain ⟨later, ends, reads⟩ := reaches_typeName written _
    refine ⟨later, ?_⟩
    unfold Parse.param
    rw [← through_eq ends]
    exact .look (.expect isName (.expect isColon (reads.bind (.look .pure))))

/-- Further parameters are read. -/
theorem separates_of_parameters {text : List Token} {params : List (Param Place)}
    (writes : FurtherParameters text params) : Separates (fun _ => param) text params := by
  induction writes with
  | none => exact .none
  | some is written _ ih => exact .some trivial trivial is (completes_param written) ih

/-- A parameter does not start with a closing parenthesis. -/
theorem starts_of_parameter {text : List Token} {param : Param Place}
    (writes : Parameter text param) :
    ∃ first after, text = first :: after ∧ Token.kind first ≠ .rightParen := by
  cases writes with
  | typed is => exact ⟨_, _, rfl, by rw [is]; decide⟩

/-- Parameters are read. -/
theorem closes_of_parameters {text : List Token} {params : List (Param Place)}
    (writes : Parameters text params) : Closes (fun _ => param) text params := by
  intro depth closer opener rest final last opened closes
  cases writes with
  | none => exact reaches_parenthesised_none closes
  | some written others =>
    exact reaches_parenthesised_some trivial trivial (starts_of_parameter written)
      (completes_param written) (separates_of_parameters others) depth closes

/-- A function is read. -/
theorem completes_function {word name opener closer : Token}
    {given typeTokens text : List Token} {params : List (Param Place)}
    {result : Option (TypeName Place)} {place : Place} {body : List (Stmt Place)}
    (isName : name.kind = .identifier) (isOpener : opener.kind = .leftParen)
    (parameters : Parameters given params) (isCloser : closer.kind = .rightParen)
    (typed : Typed .arrow typeTokens result) (braces : Block text place body) :
    Completes function (fun _ => True)
      (word :: name :: opener :: (given ++ closer :: (typeTokens ++ text)))
      ⟨word.span.through place, name.lexeme, params, result, place, body⟩ := by
  intro depth rest final last opened _
  cases depth with
  | zero => exact ⟨last, .tooDeep⟩
  | succ depth =>
    have noArrow : ((text ++ rest).headD final).kind ≠ .arrow := by
      obtain ⟨first, more, rfl, isBrace⟩ := opens_of_block braces
      simp [isBrace]
    have inside := closes_of_parameters parameters depth closer opener
      (typeTokens ++ (text ++ rest)) final opener opened isCloser
    have kept : typeTokens ++ (text ++ rest) <:+ given ++ closer :: (typeTokens ++ (text ++ rest)) :=
      (List.suffix_cons closer _).trans (List.suffix_append given _)
    obtain ⟨middle, annotated⟩ := reaches_typed typed noArrow
    obtain ⟨later, ends, reads⟩ := completes_of_block braces depth rest final middle opened
    refine ⟨later, ?_⟩
    unfold function
    simp only [List.cons_append, List.append_assoc]
    rw [← through_eq ends]
    refine .advance (.expect isName (.openBracket isOpener (.follow kept inside ?_)))
    exact annotated _ _ _ (reads.bind (.look .pure))

/-- A declaration is read. -/
theorem completes_declaration {text : List Token} {declared : Declaration Place}
    (writes : Declared text declared) :
    Completes declaration (fun _ => True) text declared := by
  intro depth rest final last opened _
  cases writes with
  | @function word name opener closer given typeTokens text params result place body isFn isName
      isOpener parameters isCloser typed braces =>
    obtain ⟨later, reads⟩ := completes_function isName isOpener parameters isCloser typed braces
      depth rest final last opened trivial
    refine ⟨later, ?_⟩
    unfold declaration
    refine .look ?_
    have facing : State.current ⟨word :: name :: opener ::
      (given ++ closer :: (typeTokens ++ text)) ++ rest, final, last, opened⟩ = word := rfl
    simp only [facing, isFn]
    exact reads.bind .pure
  | binding writes =>
    obtain ⟨later, reads⟩ := completes_binding writes depth rest final last opened trivial
    refine ⟨later, ?_⟩
    cases writes with
    | @binding word name equals stop typeTokens text type value isLet =>
      unfold declaration
      refine .look ?_
      have facing : State.current ⟨word :: name ::
        (typeTokens ++ equals :: (text ++ [stop])) ++ rest, final, last, opened⟩ = word := rfl
      simp only [facing, isLet]
      exact reads.bind .pure

/-- Declarations are read. -/
theorem repeats_of_declarations {text : List Token} {declarations : List (Declaration Place)}
    (writes : Declarations text declarations) :
    Repeats (· != .endOfText) (· != .endOfText) declaration text declarations := by
  induction writes with
  | none => exact .none
  | some declared _ ih =>
    exact .some (fun _ opens => opens) (fun _ _ => trivial) (fun _ _ => trivial)
      (opens_of_declared declared) (completes_declaration declared) ih

/-- A program is read, up to the end of the text. -/
theorem reaches_program {text : List Token} {final : Token} (last : Token)
    {declarations : List (Declaration Place)} (writes : Declarations text declarations)
    (ends : final.kind = .endOfText) (depth : Nat) (file : Option String) (opened : List Token) :
    ∃ later, Reaches (program depth file) ⟨text, final, last, opened⟩
      ⟨(text.headD final).span.through final.span, declarations, file⟩
      ⟨[], final, later, opened⟩ := by
  obtain ⟨later, reads⟩ := (repeats_of_declarations writes).reaches depth (text.length + 1) [] final
    last opened (by simp [ends]) (Nat.lt_succ_self _)
  refine ⟨later, ?_⟩
  rw [List.append_nil] at reads
  unfold program
  refine .look (.look ?_)
  exact .follow List.nil_suffix reads (.look .pure)

/-- The state from which the tokens of a text are read. -/
def State.start (inner : List Token) (final : Token) : State :=
  ⟨inner, final, inner.headD final, []⟩

/-- The tokens of a source text are those that its reading starts with. -/
theorem scanned_start {tokens inner : List Token} {final : Token}
    (complete : Scan.Complete tokens inner final) : (State.start inner final).Scanned where
  values token inside := (complete.before token inside).1
  inner token inside := (complete.before token inside).2
  final := complete.ends
  ended := complete.value

/-- Tokens are read as a program from the state that they start with. -/
theorem ofTokens_eq {tokens inner : List Token} {final : Token}
    (complete : Scan.Complete tokens inner final) (depth : Nat) (file : Option String) :
    ofTokens depth file tokens = match program depth file (.start inner final) with
      | .ok (program, _) => .ok program.number
      | .error error => .error error := by
  unfold ofTokens
  rw [complete.split]
  simp only [List.getLastD_concat, List.dropLast_concat]
  rfl

/-- What is passed up to the end of a text is all of it. -/
theorem State.Passed.whole {inner consumed : List Token} {final : Token} {next : State}
    (passed : (State.start inner final).Passed consumed next) (finished : next.ahead = []) :
    inner = consumed := by
  have split := passed.ahead
  rwa [finished, List.append_nil] at split

/-- What is read from tokens as a program is written by them. -/
theorem writes_of_program {tokens inner : List Token} {final : Token} {depth : Nat}
    {file : Option String} {program : Lag.Program Place} {next : State}
    (complete : Scan.Complete tokens inner final)
    (ran : Parse.program depth file (.start inner final) = .ok (program, next)) :
    Grammar.Program file tokens program := by
  have reads := reads_program depth file (show 5 * 0 ≤ depth + 3 by omega) (.start inner final)
    (scanned_start complete)
  rw [ran] at reads
  obtain ⟨consumed, passed, written, finished⟩ := reads
  have same : next.final = final := passed.final
  rw [complete.split, passed.whole finished, ← same]
  exact written

/-- Tokens of a text that are read as a program write it. -/
theorem writes_of_ofTokens {depth : Nat} {source : String} {file : Option String}
    {tokens : List Token} {tree : Lag.Program Node}
    (scanned : Scan.scan source file = (tokens, none))
    (read : ofTokens depth file tokens = .ok tree) :
    ∃ program, Grammar.Program file tokens program ∧ tree = program.number := by
  obtain ⟨inner, final, complete⟩ := Scan.complete_scan scanned
  rw [ofTokens_eq complete] at read
  cases ran : program depth file (.start inner final) with
  | error error =>
    rw [ran] at read
    cases read
  | ok reached =>
    rw [ran] at read
    cases read
    exact ⟨reached.1, writes_of_program complete ran, rfl⟩

end Parse

/-- With steps of depth enough, the tokens of a source text are read as a program exactly if the
grammar derives it, and then as the only one it derives. Otherwise they are refused, and not for the
depth. -/
theorem grammar_decided {source : String} {file : Option String} {tokens : List Token}
    (scanned : Scan.scan source file = (tokens, none)) {depth : Nat}
    (deep : 5 * tokens.length ≤ depth) :
    match Parse.ofTokens depth file tokens with
    | .ok program => ∃ tree : Program Parse.Place, program = tree.number ∧
        ∀ other, Grammar.Program file tokens other ↔ other = tree
    | .error error => error.cause ≠ .tooDeep ∧
        ∀ other, ¬ Grammar.Program file tokens other := by
  obtain ⟨inner, final, complete⟩ := Scan.complete_scan scanned
  have apt := Parse.scanned_start complete
  -- What the grammar derives is what is read, unless the depth does not suffice.
  have accepts : ∀ other, Grammar.Program file tokens other →
      match Parse.program depth file (.start inner final) with
      | .ok (program, _) => other = program
      | .error error => error.cause = .tooDeep := by
    intro other writes
    have whole := complete.split
    cases writes with
    | upToEnd declarations _ =>
      obtain ⟨rfl, same⟩ := List.append_inj' whole rfl
      cases same
      obtain ⟨later, reads⟩ :=
        Parse.reaches_program _ declarations complete.ends depth file []
      have given := reads apt.values
      cases ran : Parse.program depth file (.start _ final) with
      | error error =>
        rw [← Parse.State.start, ran] at given
        exact given
      | ok reached =>
        rw [← Parse.State.start, ran] at given
        exact (congrArg Prod.fst given).symm
  have size : tokens.length = inner.length + 1 := by rw [complete.split]; simp
  have reads := Parse.reads_program depth file
    (show 5 * tokens.length ≤ depth + 3 by omega) (.start inner final) apt
  rw [Parse.ofTokens_eq complete]
  cases ran : Parse.program depth file (.start inner final) with
  | error error =>
    rw [ran] at reads accepts
    have shallow : error.cause ≠ .tooDeep := by
      intro deep
      have few : tokens.length ≤ inner.length := reads.2 deep
      omega
    exact ⟨shallow, fun other writes => shallow (accepts other writes)⟩
  | ok reached =>
    rw [ran] at accepts
    refine ⟨reached.1, rfl, fun other => ⟨accepts other, ?_⟩⟩
    rintro rfl
    exact Parse.writes_of_program complete ran

/-- A name in parentheses is called, and differences group to the left. -/
theorem grammar_decided_grouped : ∃ (tokens : List Token) (tree : Program Parse.Place),
    Scan.scan "let a = (f)(1) - 2 - (3);" none = (tokens, none) ∧
      Parse.ofTokens (5 * tokens.length) none tokens = .ok tree.number ∧
      (∀ other, Grammar.Program none tokens other ↔ other = tree) := by
  let scanned := Scan.scan "let a = (f)(1) - 2 - (3);" none
  have clean : scanned.2 = none := by decide +kernel
  have read : (Parse.ofTokens (5 * scanned.1.length) none scanned.1).toBool = true := by
    decide +kernel
  have whole : Scan.scan "let a = (f)(1) - 2 - (3);" none = (scanned.1, none) :=
    Prod.ext rfl clean
  have decided := grammar_decided whole (Nat.le_refl (5 * scanned.1.length))
  cases parsed : Parse.ofTokens (5 * scanned.1.length) none scanned.1 with
  | error error =>
    rw [parsed] at read
    cases read
  | ok program =>
    rw [parsed] at decided
    obtain ⟨tree, rfl, unique⟩ := decided
    exact ⟨scanned.1, tree, whole, parsed, unique⟩

/-- The program that a source text writes, read to a depth. -/
def Program.ofTextWithin (depth : Nat) (source : String) (file : Option String) :
    Except SourceError (Program Node) :=
  match Scan.scan source file with
  | (_, some error) => .error (.token error)
  | (tokens, none) =>
    match Parse.ofTokens depth file tokens with
    | .ok program => .ok program
    | .error error => .error (.tree error)

/-- A text is read as a program exactly if it is a sequence of tokens that are read as it. -/
theorem Program.ofTextWithin_eq_ok {depth : Nat} {source : String} {file : Option String}
    {tree : Program Node} : Program.ofTextWithin depth source file = .ok tree ↔
      ∃ tokens, Scan.scan source file = (tokens, none) ∧
        Parse.ofTokens depth file tokens = .ok tree := by
  unfold Program.ofTextWithin
  generalize Scan.scan source file = scanned
  obtain ⟨tokens, failure⟩ := scanned
  cases failure with
  | some error => simp
  | none =>
    dsimp only
    cases given : Parse.ofTokens depth file tokens with
    | error error => simp [given]
    | ok program => simp [given]

/-- A text that is put together from two texts is made of the characters of both. -/
theorem spelled_append {first second : String} {chars others : List Char}
    (spelled : first = String.ofList chars) (spelledOther : second = String.ofList others) :
    first ++ second = String.ofList (chars ++ others) := by
  rw [spelled, spelledOther, String.ofList_append]

/-- The program that characters write, read to a depth. -/
def Program.ofCharacters? (depth : Nat) (chars : List Char) (file : Option String) :
    Option (Program Node) :=
  match Scan.tokensFrom file {} chars with
  | (tokens, none) => (Parse.ofTokens depth file tokens).toOption
  | (_, some _) => none

/-- A text is read as the program that its characters write. -/
theorem Program.exists_ofTextWithin {depth : Nat} {source : String} {chars : List Char}
    {file : Option String} (spelled : source = String.ofList chars) {holds : Program Node → Bool}
    (found : (Program.ofCharacters? depth chars file).any holds = true) :
    ∃ tree, Program.ofTextWithin depth source file = .ok tree ∧ holds tree = true := by
  obtain ⟨tree, is, holds⟩ := (Option.any_eq_true _ _).1 found
  refine ⟨tree, Program.ofTextWithin_eq_ok.2 ?_, holds⟩
  unfold Program.ofCharacters? at is
  split at is
  · rename_i tokens scanned
    refine ⟨tokens, by rw [spelled, Scan.scan, String.toList_ofList, scanned], ?_⟩
    cases read : Parse.ofTokens depth file tokens with
    | ok program =>
      rw [read] at is
      exact congrArg Except.ok (Option.some.inj is)
    | error error =>
      rw [read] at is
      cases is
  · cases is

/-- The depth to which programs are read. -/
theorem Program.ofText_eq (source : String) (file : Option String) :
    Program.ofText source file = Program.ofTextWithin Parse.depthLimit source file := rfl

/-- What the refusal of a text is about: a stretch of the text, or a numeral in it that cannot be
converted. No refusal is about a bracket that is closed without having been opened. -/
def SourceError.About (text : List Char) : SourceError → Prop
  | .token error => error.About text
  | .tree error => error.span.Inside text ∧
      ∀ state : Parse.State, error.cause ≠ (Parse.noneOpen state).cause

/-- A source text is read as a program to every depth, or it is refused for a stretch of it or for a
numeral in it that cannot be converted. -/
theorem refused_about (depth : Nat) (source : String) (file : Option String) :
    match Program.ofTextWithin depth source file with
    | .ok _ => True
    | .error error => error.About source.toList := by
  have reached : ({} : Source.Location) = ({} : Source.Location).after [] := rfl
  have placed := Scan.placed_tokensFrom file {} source.toList reached
  unfold Program.ofTextWithin
  cases scanned : Scan.scan source file with
  | mk tokens failure =>
    rw [← Scan.scan, scanned, List.nil_append] at placed
    cases failure with
    | some error => exact placed.2 error rfl
    | none =>
      obtain ⟨inner, final, complete⟩ := Scan.complete_scan scanned
      have reads := Parse.reads_program depth file (show 5 * 0 ≤ depth + 3 by omega)
        (.start inner final) (Parse.scanned_start complete)
      simp only [Parse.ofTokens_eq complete]
      cases ran : Parse.program depth file (.start inner final) with
      | ok reached => exact trivial
      | error error =>
        rw [ran] at reads
        obtain ⟨⟨token, inside, place⟩, opened⟩ := reads.1
        refine ⟨?_, opened⟩
        rw [place]
        exact placed.1 token (by rw [complete.split]; exact inside)

/-- A digit that is not a decimal one stops the reading of a program without a place: the
superscript two is scanned as a numeral, and no conversion takes it. -/
theorem refused_numeral :
    Program.ofText "let x = ²;" none = .error (.token (.numeral (.notInteger 10 "²"))) := by
  have stopped : (Scan.scan "let x = ²;" none).2 = some (.numeral (.notInteger 10 "²")) := by
    decide +kernel
  unfold Program.ofText
  split
  · rename_i found
    rw [found] at stopped
    cases stopped
    rfl
  · rename_i found
    rw [found] at stopped
    cases stopped

end Lag
