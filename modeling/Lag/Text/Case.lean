/-!
# Upper and lower case

Case mappings of the Latin, Greek and Cyrillic letters that come in pairs at a fixed distance,
with the few characters of those blocks that map elsewhere. Other characters have no case here.
-/
namespace Lag.Text

/-- Runs of capital letters: the first, the last, and the distance to the small letters. -/
def capitalRuns : List (Nat × Nat × Nat) :=
  [(0x41, 0x5A, 32), (0xC0, 0xD6, 32), (0xD8, 0xDE, 32), (0x391, 0x3A1, 32), (0x3A3, 0x3AB, 32),
    (0x400, 0x40F, 80), (0x410, 0x42F, 32), (0x2160, 0x216F, 16), (0xFF21, 0xFF3A, 32)]

/-- Small letters whose capital form stands elsewhere or is several letters. -/
def specialCapitals : List (Char × List Char) :=
  [('µ', ['Μ']), ('ß', ['S', 'S']), ('ÿ', ['Ÿ']), ('ς', ['Σ']), ('ı', ['I']), ('ſ', ['S']),
    ('ﬀ', ['F', 'F']), ('ﬁ', ['F', 'I']), ('ﬂ', ['F', 'L']), ('ﬃ', ['F', 'F', 'I']),
    ('ﬄ', ['F', 'F', 'L']), ('ﬅ', ['S', 'T']), ('ﬆ', ['S', 'T'])]

/-- The small form of a character. -/
def lowerChar (c : Char) : Char :=
  match capitalRuns.find? fun (first, last, _) => first ≤ c.toNat && c.toNat ≤ last with
  | some (_, _, distance) => Char.ofNat (c.toNat + distance)
  | none => c

/-- The capital form of a character. -/
def upperChar (c : Char) : List Char :=
  match specialCapitals.lookup c with
  | some form => form
  | none =>
    match capitalRuns.find? fun (first, last, distance) =>
        first + distance ≤ c.toNat && c.toNat ≤ last + distance with
    | some (_, _, distance) => [Char.ofNat (c.toNat - distance)]
    | none => [c]

/-- A text in small letters. -/
def lowerText (text : String) : String := String.ofList (text.toList.map lowerChar)

/-- A text in capital letters. -/
def upperText (text : String) : String := String.ofList (text.toList.flatMap upperChar)

end Lag.Text
