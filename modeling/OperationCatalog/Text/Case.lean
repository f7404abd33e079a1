/-!
# Lower case

The letters of ASCII have one lower-case form each, and so have the further letters of the Latin,
Greek and Cyrillic alphabets that have it a fixed distance away.
-/

namespace OperationCatalog.Text

/-- Letters and the distance to their lower-case forms: the first, the last, and how far. -/
def caseRuns : List (Nat × Nat × Nat) :=
  [(0x41, 0x5a, 32), (0xc0, 0xd6, 32), (0xd8, 0xde, 32), (0x391, 0x3a1, 32), (0x3a3, 0x3ab, 32),
    (0x400, 0x40f, 80), (0x410, 0x42f, 32)]

/-- **The lower-case form of a letter**; other characters stay as they are. -/
def lower (c : Char) : Char :=
  match caseRuns.find? fun (first, last, _) => first ≤ c.toNat && c.toNat ≤ last with
  | some (_, _, distance) => Char.ofNat (c.toNat + distance)
  | none => c

/-- A text in lower case. -/
def lowered (s : List Char) : List Char := s.map lower

end OperationCatalog.Text
