import Lag.Proofs.Token.Gaps
import Mathlib.Data.List.Induction
import Mathlib.Data.List.TakeWhile

/-!
# Tokens tile the source

Between the tokens of a source text lie gaps and nothing else, so that gaps and lexemes, one after
the other, are the text. A place counts what lies before it: its line the line feeds, its column the
characters since the last of them. The scanner counts by moving on character by character; here the
places are read off the text itself, at the ends of every token and of every fault.
-/
namespace Lag

namespace Source

/-- The characters of a text from one offset up to another. -/
def stretch (text : List Char) (first last : Nat) : List Char := (text.take last).drop first

/-- A place whose line and column are those of its offset in a text. -/
structure Location.Marks (text : List Char) (place : Location) : Prop where
  /-- The offset lies in the text. -/
  inside : place.offset ≤ text.length
  /-- The line counts the line feeds before the offset. -/
  line : place.line = 1 + (text.take place.offset).count '\n'
  /-- The column counts the characters from the last line feed before the offset. -/
  column : place.column = 1 + ((text.take place.offset).reverse.takeWhile (· != '\n')).length

/-- A span both ends of which are places of a text. -/
structure Span.Marks (text : List Char) (span : Span) : Prop where
  /-- Its start. -/
  start : span.start.Marks text
  /-- Its end. -/
  stop : span.stop.Marks text

/-- A stretch between others. -/
theorem stretch_append (before inside after : List Char) :
    stretch (before ++ inside ++ after) before.length (before ++ inside).length = inside := by
  rw [stretch, List.take_left, List.drop_left]

/-- Past some characters, the column is their number since the last line feed. -/
theorem Location.column_after (text : List Char) :
    (({} : Location).after text).column = 1 + (text.reverse.takeWhile (· != '\n')).length := by
  induction text using List.reverseRecOn with
  | nil => rfl
  | append_singleton text c ih =>
    have step : ({} : Location).after (text ++ [c]) = (({} : Location).after text).next c :=
      after_append _ _ _
    rw [step, List.reverse_append, List.reverse_singleton, List.singleton_append]
    unfold next
    split
    · rename_i feed
      subst feed
      rfl
    · rename_i other
      rw [List.takeWhile_cons_of_pos (by simpa using other), List.length_cons]
      simp only
      omega

/-- Past the front of a text is a place of the text. -/
theorem Location.marks_after (before after : List Char) :
    (({} : Location).after before).Marks (before ++ after) := by
  have offset : (({} : Location).after before).offset = before.length :=
    (offset_after _ _).trans (Nat.zero_add _)
  have front : (before ++ after).take (({} : Location).after before).offset = before := by
    rw [offset, List.take_left]
  refine ⟨?_, ?_, ?_⟩
  · rw [offset, List.length_append]
    omega
  · rw [front, line_after]
  · rw [front, column_after]

/-- A stretch of a text starts and ends at places of the text. -/
theorem Span.Inside.marks {text : List Char} {span : Span} (inside : span.Inside text) :
    span.Marks text := by
  obtain ⟨before, own, after, rfl, starts, stops⟩ := inside
  constructor
  · rw [starts, List.append_assoc]
    exact Location.marks_after before (own ++ after)
  · rw [stops, starts, ← Location.after_append]
    exact Location.marks_after (before ++ own) after

end Source

open Source (stretch stretch_append)

namespace Scan

/-! ## Gaps that are passed -/

/-- What follows a blank character in a gap is a gap. -/
theorem Gap.after_blank {c : Char} {rest : List Char} (isBlank : isGap c = true)
    (gap : Gap (c :: rest)) : Gap rest := by
  cases gap with
  | blank _ later => exact later
  | line _ _ | comment _ _ => cases isBlank

/-- A gap at the end of a text: there a comment to the end of the line needs no line feed. -/
inductive FinalGap : List Char → Prop
  | gap {text : List Char} : Gap text → FinalGap text
  | comment {front text : List Char} : Gap front → '\n' ∉ text →
    FinalGap (front ++ '/' :: '/' :: text)

namespace FinalGap

variable {text rest : List Char}

/-- A blank character may come before. -/
theorem blank {c : Char} (isBlank : isGap c = true) (final : FinalGap rest) :
    FinalGap (c :: rest) := by
  cases final with
  | gap gap => exact .gap (.blank isBlank gap)
  | comment front noFeed => exact .comment (.blank isBlank front) noFeed

/-- A comment to the end of the line may come before. -/
theorem line (noFeed : '\n' ∉ text) (final : FinalGap rest) :
    FinalGap ('/' :: '/' :: (text ++ '\n' :: rest)) := by
  cases final with
  | gap gap => exact .gap (.line noFeed gap)
  | @comment front last gap stays =>
    have whole : '/' :: '/' :: (text ++ '\n' :: (front ++ '/' :: '/' :: last)) =
        '/' :: '/' :: (text ++ '\n' :: front) ++ '/' :: '/' :: last := by simp
    rw [whole]
    exact .comment (.line noFeed gap) stays

/-- A comment in brackets may come before. -/
theorem bracketed (comment : Comment text) (final : FinalGap rest) :
    FinalGap ('/' :: '*' :: (text ++ rest)) := by
  cases final with
  | gap gap => exact .gap (.comment comment gap)
  | @comment front last gap stays =>
    have whole : '/' :: '*' :: (text ++ (front ++ '/' :: '/' :: last)) =
        '/' :: '*' :: (text ++ front) ++ '/' :: '/' :: last := by simp
    rw [whole]
    exact .comment (.comment comment gap) stays

/-- What follows a blank character is such a gap again. -/
theorem after_blank {c : Char} (isBlank : isGap c = true) (final : FinalGap (c :: rest)) :
    FinalGap rest := by
  generalize whole : c :: rest = text at final
  cases final with
  | gap gap =>
    subst whole
    exact .gap (gap.after_blank isBlank)
  | @comment front last gap noFeed =>
    cases front with
    | nil =>
      cases whole
      cases isBlank
    | cons first front =>
      cases whole
      exact .comment (gap.after_blank isBlank) noFeed

end FinalGap

/-- What is passed from inside some brackets closes each of them. -/
theorem comments_of_commentLength? {depth size : Nat} {text : List Char}
    (passes : commentLength? depth text = some size) :
    ∃ (comments : List (List Char)) (rest : List Char), comments.length = depth ∧
      (∀ one ∈ comments, Comment one) ∧ text = comments.flatten ++ rest ∧
        comments.flatten.length = size := by
  fun_induction commentLength? depth text generalizing size with
  | case1 text =>
    cases passes
    exact ⟨[], text, rfl, by simp, rfl, rfl⟩
  | case2 => cases passes
  | case3 depth text ih =>
    obtain ⟨inner, passed, rfl⟩ := Option.map_eq_some_iff.1 passes
    obtain ⟨comments, rest, many, all, rfl, rfl⟩ := ih passed
    match comments with
    | first :: second :: others =>
      obtain ⟨nested, later⟩ := List.forall_mem_cons.1 all
      obtain ⟨after, later⟩ := List.forall_mem_cons.1 later
      exact ⟨('/' :: '*' :: (first ++ second)) :: others, rest, by simpa using many,
        List.forall_mem_cons.2 ⟨.nested nested after, later⟩, by simp, by simp⟩
  | case4 depth text ih =>
    obtain ⟨inner, passed, rfl⟩ := Option.map_eq_some_iff.1 passes
    obtain ⟨comments, rest, many, all, rfl, rfl⟩ := ih passed
    exact ⟨['*', '/'] :: comments, rest, by simpa using many,
      List.forall_mem_cons.2 ⟨.close, all⟩, rfl, by simp⟩
  | case5 depth c text opens closes ih =>
    obtain ⟨inner, passed, rfl⟩ := Option.map_eq_some_iff.1 passes
    obtain ⟨comments, rest, many, all, rfl, rfl⟩ := ih passed
    match comments with
    | first :: others =>
      obtain ⟨own, later⟩ := List.forall_mem_cons.1 all
      -- A bracket at the front of the comment is one at the front of the text.
      have noBracket : ∀ opening closing : Char,
          (∀ left, c = opening → (first :: others).flatten ++ rest = closing :: left → False) →
            ¬[opening, closing] <+: c :: first := by
        rintro opening closing absent ⟨left, same⟩
        cases same
        exact absent _ rfl rfl
      exact ⟨(c :: first) :: others, rest, many,
        List.forall_mem_cons.2 ⟨.other (noBracket _ _ opens) (noBracket _ _ closes) own, later⟩,
        rfl, by simp⟩

/-- A length passes over a gap at the front of a text, which may end with the text. -/
def Passes (text : List Char) (size : Nat) : Prop :=
  ∃ gap rest, text = gap ++ rest ∧ gap.length = size ∧ (Gap gap ∨ rest = [] ∧ FinalGap gap)

namespace Passes

variable {text rest : List Char} {size : Nat}

/-- A blank character is passed over. -/
theorem blank {c : Char} (isBlank : isGap c = true) (passes : Passes rest size) :
    Passes (c :: rest) (1 + size) := by
  obtain ⟨gap, rest, rfl, rfl, isGap⟩ := passes
  refine ⟨c :: gap, rest, rfl, Nat.add_comm _ _, isGap.imp (.blank isBlank) ?_⟩
  exact And.imp_right (.blank isBlank)

/-- A comment to the end of the line is passed over. -/
theorem line (noFeed : '\n' ∉ text) (passes : Passes rest size) :
    Passes ('/' :: '/' :: (text ++ '\n' :: rest)) (2 + text.length + (1 + size)) := by
  obtain ⟨gap, rest, rfl, rfl, isGap⟩ := passes
  refine ⟨'/' :: '/' :: (text ++ '\n' :: gap), rest, by simp, by simp; omega,
    isGap.imp (.line noFeed) ?_⟩
  exact And.imp_right (.line noFeed)

/-- A comment in brackets is passed over. -/
theorem bracketed {length : Nat} (closes : commentLength? 1 text = some length)
    (passes : Passes (text.drop length) size) :
    Passes ('/' :: '*' :: text) (2 + length + size) := by
  obtain ⟨comments, later, single, all, rfl, rfl⟩ := comments_of_commentLength? closes
  obtain ⟨comment, rfl⟩ := List.length_eq_one_iff.1 single
  obtain ⟨gap, rest, is, rfl, isGap⟩ := passes
  have commented := all comment List.mem_cons_self
  rw [List.drop_left] at is
  subst is
  refine ⟨'/' :: '*' :: (comment ++ gap), rest, by simp, by simp; omega,
    isGap.imp (.comment commented) ?_⟩
  exact And.imp_right (.bracketed commented)

end Passes

/-- A length that passes over a blank character passes over what follows it. -/
theorem Passes.after_blank {c : Char} (isBlank : isGap c = true) {text : List Char} {size : Nat}
    (passes : Passes (c :: text) (1 + size)) : Passes text size := by
  obtain ⟨gap, rest, is, length, isGap⟩ := passes
  cases gap with
  | nil =>
    rw [List.length_nil] at length
    omega
  | cons first gap =>
    cases is
    refine ⟨gap, rest, rfl, by simpa [Nat.add_comm] using length, ?_⟩
    refine isGap.imp (·.after_blank isBlank) ?_
    exact And.imp_right (·.after_blank isBlank)

/-- A blank character is passed over. -/
theorem exists_of_gapLength {c : Char} (isBlank : isGap c = true) {text : List Char}
    {size : Nat} (passed : gapLength (c :: text) = .ok size) : ∃ later, size = 1 + later := by
  have other : c ≠ '/' := by
    rintro rfl
    cases isBlank
  rw [gapLength.eq_4 c text (fun _ same _ => other same) (fun _ same _ => other same),
    if_pos isBlank] at passed
  split at passed <;> cases passed
  exact ⟨_, rfl⟩

/-- A line goes on up to a line feed or to the end of the text. -/
theorem rest_of_line (text : List Char) :
    ∃ rest, text = text.takeWhile (· != '\n') ++ rest ∧
      (rest = [] ∨ ∃ more, rest = '\n' :: more) := by
  refine ⟨text.dropWhile (· != '\n'), List.takeWhile_append_dropWhile.symm, ?_⟩
  have ends := List.head?_dropWhile_not (· != '\n') text
  cases left : text.dropWhile (· != '\n') with
  | nil => exact .inl rfl
  | cons c more =>
    rw [left] at ends
    exact .inr ⟨more, by simpa using ends⟩

/-- What is passed before a token is a gap. -/
theorem passes_of_gapLength {text : List Char} {size : Nat} (passed : gapLength text = .ok size) :
    Passes text size := by
  fun_induction gapLength text generalizing size with
  | case3 | case4 | case5 | case7 | case8 | case10 | case11 => cases passed
  | case1 =>
    cases passed
    exact ⟨[], [], rfl, rfl, .inl .none⟩
  | case2 text =>
    rename_i comment length later ih
    cases passed
    have noFeed : '\n' ∉ comment := fun inside => by simpa using List.mem_takeWhile_imp inside
    obtain ⟨rest, split, ends⟩ := rest_of_line text
    have left : text.drop comment.length = rest := by
      conv_lhs => rw [split]
      exact List.drop_left
    have passes := ih later
    rw [left] at later passes
    rw [split]
    rcases ends with rfl | ⟨more, rfl⟩
    · rw [gapLength] at later
      cases later
      exact ⟨_, [], (List.append_nil _).symm, by simp [comment]; omega,
        .inr ⟨rfl, by simpa using FinalGap.comment .none noFeed⟩⟩
    · obtain ⟨after, rfl⟩ := exists_of_gapLength rfl later
      exact .line noFeed (passes.after_blank rfl)
  | case6 rest =>
    rename_i closes _ later ih
    cases passed
    exact .bracketed closes (ih later)
  | case9 c rest =>
    rename_i isBlank _ later ih
    cases passed
    exact .blank isBlank (ih later)
  | case12 c rest =>
    cases passed
    exact ⟨[], c :: rest, rfl, rfl, .inl .none⟩

/-! ## Tiles -/

/-- Where the last of some tokens ends, and an offset for no tokens. -/
def endOf (offset : Nat) (tokens : List Token) : Nat :=
  tokens.foldl (fun _ token => token.span.stop.offset) offset

/-- The tokens of a text from an offset on: with the gaps between them they are the text. -/
structure Tiled (text : List Char) (offset : Nat) (tokens : List Token) : Prop where
  /-- The last token, and only it, is the end of the text, and it stands there. -/
  ends : ∃ inner final, tokens = inner ++ [final] ∧ (∀ token ∈ inner, token.kind ≠ .endOfText) ∧
    final.kind = .endOfText ∧ final.lexeme = "" ∧ final.span.start.offset = text.length ∧
      final.span.stop.offset = text.length
  /-- A lexeme is the stretch of the text that its span says. -/
  lexemes : ∀ token ∈ tokens, token.span.start.offset ≤ token.span.stop.offset ∧
    token.lexeme.toList = stretch text token.span.start.offset token.span.stop.offset
  /-- No token starts before the offset. -/
  begins : ∀ token ∈ tokens, offset ≤ token.span.start.offset
  /-- A token ends before the later ones start. -/
  ordered : tokens.Pairwise fun first second => first.span.stop.offset ≤ second.span.start.offset
  /-- Before a token, and after the one before it, is a gap. -/
  gaps : ∀ before token after, tokens = before ++ token :: after → after ≠ [] →
    Gap (stretch text (endOf offset before) token.span.start.offset)
  /-- Before the end of the text, and after the last token, is a gap. -/
  trail : ∀ before final, tokens = before ++ [final] →
    FinalGap (stretch text (endOf offset before) final.span.start.offset)

namespace Tiled

variable {text : List Char} {offset : Nat} {first : Token} {rest : List Token}

/-- The end of the text comes after a gap. -/
theorem single (kind : first.kind = .endOfText) (lexeme : first.lexeme = "")
    (start : first.span.start.offset = text.length) (stop : first.span.stop.offset = text.length)
    (within : offset ≤ text.length) (gap : FinalGap (text.drop offset)) :
    Tiled text offset [first] := by
  have all : stretch text offset text.length = text.drop offset := by
    rw [stretch, List.take_length]
  refine ⟨⟨[], first, rfl, by simp, kind, lexeme, start, stop⟩, ?_, ?_, by simp, ?_, ?_⟩
  · simp [start, stop, lexeme, stretch]
  · simpa [start] using within
  · intro before token after is more
    cases before with
    | nil =>
      cases is
      exact absurd rfl more
    | cons other before => simp at is
  · intro before final is
    cases before with
    | nil =>
      cases is
      rw [start]
      exact all ▸ gap
    | cons other before => simp at is

/-- A token comes after a gap and before the other tokens. -/
theorem cons (kind : first.kind ≠ .endOfText) (starts : offset ≤ first.span.start.offset)
    (stops : first.span.start.offset ≤ first.span.stop.offset)
    (lexeme : first.lexeme.toList = stretch text first.span.start.offset first.span.stop.offset)
    (gap : Gap (stretch text offset first.span.start.offset))
    (tiled : Tiled text first.span.stop.offset rest) : Tiled text offset (first :: rest) := by
  obtain ⟨inner, final, rfl, others, last⟩ := tiled.ends
  refine ⟨⟨first :: inner, final, rfl, List.forall_mem_cons.2 ⟨kind, others⟩, last⟩,
    List.forall_mem_cons.2 ⟨⟨stops, lexeme⟩, tiled.lexemes⟩, ?_,
    List.pairwise_cons.2 ⟨tiled.begins, tiled.ordered⟩, ?_, ?_⟩
  · exact List.forall_mem_cons.2 ⟨starts, fun token inside =>
      starts.trans (stops.trans (tiled.begins token inside))⟩
  · intro before token after is more
    cases before with
    | nil =>
      cases is
      exact gap
    | cons other before =>
      obtain ⟨rfl, same⟩ := List.cons.inj is
      exact tiled.gaps before token after same more
  · intro before token is
    cases before with
    | nil => simp at is
    | cons other before =>
      obtain ⟨rfl, same⟩ := List.cons.inj is
      exact tiled.trail before token same

end Tiled

/-- The tokens that follow some characters tile the rest of the text. -/
theorem tiled_tokensFrom (file : Option String) (place : Source.Location) (text : List Char)
    {done : List Char} (reached : place = ({} : Source.Location).after done)
    (scanned : (tokensFrom file place text).2 = none) :
    Tiled (done ++ text) done.length (tokensFrom file place text).1 := by
  have offset (before : List Char) :
      (({} : Source.Location).after before).offset = before.length :=
    (Source.Location.offset_after _ _).trans (Nat.zero_add _)
  fun_induction tokensFrom file place text generalizing done with
  | case1 | case3 => cases scanned
  | case2 =>
    rename_i place text gap passed start ended
    obtain ⟨front, rest, rfl, rfl, isGap⟩ := passes_of_gapLength passed
    obtain rfl : rest = [] := by rwa [List.drop_left] at ended
    have starts : start = ({} : Source.Location).after (done ++ front) := by
      rw [Source.Location.after_append, ← reached, ← @List.take_left _ front []]
    have final : FinalGap front := isGap.elim .gap (·.2)
    rw [List.append_nil]
    have place : start.offset = (done ++ front).length := by rw [starts, offset]
    exact .single rfl rfl place place (by simp) (by rwa [List.drop_left])
  | case4 =>
    rename_i place text gap _ start c more ahead found read stop token empty
    exact absurd (List.isEmpty_iff.1 empty) (fits_of_piece read).consumes
  | case5 =>
    rename_i place text gap passed start c more ahead found read stop token _ tokens failure later
      ih
    obtain ⟨front, left, rfl, rfl, isGap⟩ := passes_of_gapLength passed
    obtain rfl : left = c :: more := by rwa [List.drop_left] at ahead
    have gap : Gap front := isGap.resolve_right fun ends => List.cons_ne_nil _ _ ends.1
    have fits := fits_of_piece read
    obtain ⟨rest, whole⟩ := fits.front
    have starts : start = ({} : Source.Location).after (done ++ front) := by
      rw [Source.Location.after_append, ← reached, ← @List.take_left _ front (c :: more)]
    have stops : stop = ({} : Source.Location).after (done ++ front ++ found.lexeme) := by
      rw [Source.Location.after_append, ← starts]
    have dropped : (c :: more).drop found.lexeme.length = rest := by
      rw [← whole, List.drop_left]
    have split : done ++ (front ++ c :: more) = done ++ front ++ found.lexeme ++ rest := by
      rw [← whole]
      simp only [List.append_assoc]
    have others := ih stops (by rw [later]; exact scanned)
    rw [later, dropped, ← split, ← offset, ← stops] at others
    have startsAt : start.offset = (done ++ front).length := by rw [starts, offset]
    have stopsAt : stop.offset = (done ++ front ++ found.lexeme).length := by rw [stops, offset]
    refine .cons fits.inner ?_ ?_ ?_ ?_ others
    · show done.length ≤ start.offset
      rw [startsAt]
      exact (List.prefix_append done front).length_le
    · show start.offset ≤ stop.offset
      rw [startsAt, stopsAt]
      exact (List.prefix_append (done ++ front) found.lexeme).length_le
    · show (String.ofList found.lexeme).toList = stretch _ start.offset stop.offset
      rw [String.toList_ofList, startsAt, stopsAt, split, stretch_append]
    · show Gap (stretch _ done.length start.offset)
      rw [startsAt, split, List.append_assoc _ found.lexeme, stretch_append]
      exact gap

/-- Tokens tile the source. The tokens of a source text that has a token list, and the gaps between
them, are the text; and whatever the text, both ends of the spans of its tokens and of the fault
that ends them are on the line and in the column that the text says. -/
theorem tokens_tile (source : String) (file : Option String) :
    (∀ tokens, scan source file = (tokens, none) → Tiled source.toList 0 tokens) ∧
      (∀ token ∈ (scan source file).1, token.span.Marks source.toList) ∧
        ∀ cause span, (scan source file).2 = some (.located cause span) →
          span.Marks source.toList := by
  obtain ⟨tokens, error⟩ := @placed_tokensFrom file {} source.toList [] rfl
  refine ⟨fun found scanned => ?_, fun token inside => (tokens token inside).marks,
    fun cause span is => ?_⟩
  · have none : (tokensFrom file {} source.toList).2 = none := by rw [← scan, scanned]
    have tiled := @tiled_tokensFrom file {} source.toList [] rfl none
    rwa [← scan, scanned] at tiled
  · exact Source.Span.Inside.marks (error _ is)

/-- Comments of both kinds, one over several lines with another in it, and one that ends with the
text. -/
def commented : String := "let a /* one\n /* two */ \n*/ = // three\n 1..2 // four"

/-- The tokens between comments tile their text. -/
theorem tokens_tile_commented : ∃ tokens, scan commented none = (tokens, none) ∧
    Tiled commented.toList 0 tokens := by
  have clean : (scan commented none).2 = none := by decide +kernel
  have scanned : scan commented none = ((scan commented none).1, none) := by rw [← clean]
  exact ⟨_, scanned, (tokens_tile commented none).1 _ scanned⟩

end Scan

end Lag
