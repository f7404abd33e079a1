/-!
# Classes of characters as runs

A property of characters that a standard defines by enumeration is a table: the runs
of consecutive codes that have it, each by its first and its last code. Membership is then one
question, `OperationCatalog.Text.CharRuns.contains`, whatever the property.
-/

namespace OperationCatalog.Text

/-- A class of characters: runs of codes, each with its first and its last code. -/
abbrev CharRuns := List (Nat × Nat)

namespace CharRuns

/-- Whether a character is in one of the runs. -/
def contains (runs : CharRuns) (c : Char) : Bool :=
  runs.any fun (first, last) => first ≤ c.toNat && c.toNat ≤ last

/-- A character is in a class if and only if its code is in one of the runs. -/
theorem contains_iff {runs : CharRuns} {c : Char} :
    runs.contains c = true ↔ ∃ run ∈ runs, run.1 ≤ c.toNat ∧ c.toNat ≤ run.2 := by
  simp [contains]

end CharRuns

end OperationCatalog.Text
