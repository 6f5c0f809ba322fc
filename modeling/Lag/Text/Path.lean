import Lag.Text.Case

/-!
# Paths

A path is kept as its steps. Reading a path drops empty steps and single dots and keeps double
dots, so two spellings that differ only in those are one path; the path without steps is written
as a dot. The stem and the suffix of a path divide its last step at the last dot, unless that dot
is its first or its last character.
-/
namespace Lag.Text

/-- A path: how many slashes it starts with, and its steps. -/
structure Path where
  /-- The number of leading slashes: none, one, or exactly two. -/
  root : Nat := 0
  /-- The steps from the root or the working directory. -/
  steps : List String := []
  deriving DecidableEq, Repr, Inhabited

namespace Path

/-- Read a path. -/
def ofText (text : String) : Path where
  root :=
    match (text.toList.takeWhile (· == '/')).length with
    | 0 => 0
    | 2 => 2
    | _ => 1
  steps := (text.splitOn "/").filter fun step => step != "" && step != "."

/-- The text of a path. -/
def toText (path : Path) : String :=
  if path.root = 0 ∧ path.steps = [] then "."
  else String.ofList (List.replicate path.root '/') ++ "/".intercalate path.steps

/-- A path one step further. -/
def child (path : Path) (step : String) : Path := ⟨path.root, path.steps ++ [step]⟩

/-- The last step, empty for a path without steps. -/
def name (path : Path) : String := path.steps.getLast?.getD ""

/-- The last dot of a name that divides it: the characters before it and from it on. -/
def divide (name : List Char) : List Char × List Char :=
  let ending := name.reverse.takeWhile (· != '.')
  let stem := (name.reverse.dropWhile (· != '.')).drop 1
  if ending.isEmpty || stem.isEmpty || ending.length == name.length then (name, [])
  else (stem.reverse, '.' :: ending.reverse)

/-- The last step without its suffix. -/
def stem (path : Path) : String := String.ofList (divide path.name.toList).1

/-- The suffix of the last step with its dot, or nothing. -/
def suffix (path : Path) : String := String.ofList (divide path.name.toList).2

/-- A divided name is the name. -/
theorem divide_append (name : List Char) : (divide name).1 ++ (divide name).2 = name := by
  unfold divide
  generalize ended : name.reverse.takeWhile (· != '.') = ending
  cases split : name.reverse.dropWhile (· != '.') with
  | nil => simp
  | cons dot rest =>
    have whole := List.takeWhile_append_dropWhile (p := (· != '.')) (l := name.reverse)
    rw [ended, split] at whole
    have isDot : dot = '.' := by
      have head := List.head?_dropWhile_not (· != '.') name.reverse
      rw [split] at head
      simpa using head
    subst isDot
    have same := congrArg List.reverse whole
    simp only [List.reverse_append, List.reverse_cons, List.reverse_reverse,
      List.append_assoc, List.singleton_append] at same
    simp only [List.drop_one, List.tail_cons]
    split
    · simp
    · exact same

end Path

end Lag.Text
