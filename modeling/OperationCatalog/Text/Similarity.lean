/-!
# Names that a word may have meant

A word that is no known name may be a known name with a slip in it. How alike two texts are is
measured by what they share: the longest run of characters that occurs in both, then the longest
runs to the left and to the right of it, and so on (`OperationCatalog.Text.sharedCount`). Of several
longest runs the one that comes first counts, so the measure depends on which of the two texts is
first.

* **Two texts are similar** if what they share is at least three fifths of what they have, both
  counted together.
* **Of the known names** the three most similar ones are listed, the most similar one first
  (`OperationCatalog.Text.similarTo`).
-/

namespace OperationCatalog.Text

/-! ### What two texts share -/

/-- The number of characters with which two texts start alike. -/
def commonStart : List Char → List Char → Nat
  | a :: as, b :: bs => if a = b then commonStart as bs + 1 else 0
  | _, _ => 0

/-- No text starts like another for longer than it is. -/
theorem commonStart_le_length (a b : List Char) : commonStart a b ≤ a.length := by
  induction a generalizing b with
  | nil => simp [commonStart]
  | cons x as ih =>
    cases b with
    | nil => simp [commonStart]
    | cons y bs =>
      by_cases h : x = y
      · simpa [commonStart, h] using ih bs
      · simp [commonStart, h]

/-- A run of characters in two texts: where it starts in each of them, and how long it is. -/
structure SharedRun where
  /-- The characters before it in the first text. -/
  left : Nat
  /-- The characters before it in the second text. -/
  right : Nat
  /-- Its length. -/
  length : Nat
  deriving DecidableEq, Repr

/-- All runs, by where they start in the first text and then in the second. -/
def sharedRuns (a b : List Char) : List SharedRun :=
  (List.range a.length).flatMap fun i =>
    (List.range b.length).map fun j => ⟨i, j, commonStart (a.drop i) (b.drop j)⟩

/-- **The longest run**, the first of several. -/
def longestRun (a b : List Char) : SharedRun :=
  (sharedRuns a b).foldl (fun best run => if best.length < run.length then run else best) ⟨0, 0, 0⟩

/-- What two texts share besides a run, within a bound on the number of runs one inside
another. -/
def sharedWithin : (bound : Nat) → List Char → List Char → Nat
  | 0, _, _ => 0
  | bound + 1, a, b =>
    let run := longestRun a b
    if run.length = 0 then 0
    else
      sharedWithin bound (a.take run.left) (b.take run.right) + run.length +
        sharedWithin bound (a.drop (run.left + run.length)) (b.drop (run.right + run.length))

/-- **The number of characters that two texts share.** Every run takes at least one of the
characters of the first text, so its length is a bound. -/
def sharedCount (a b : List Char) : Nat := sharedWithin a.length a b

/-! ### Similar names -/

/-- A known name with what it shares with a word, and the characters that both have. -/
structure Candidate where
  /-- The name. -/
  name : String
  /-- The characters that it shares. -/
  shared : Nat
  /-- The characters that both have, counted together. -/
  total : Nat

namespace Candidate

/-- A known name seen from a word. -/
def of (word name : String) : Candidate :=
  ⟨name, sharedCount name.toList word.toList, name.length + word.length⟩

/-- Whether a name is similar enough. -/
def isClose (c : Candidate) : Bool := 3 * c.total ≤ 10 * c.shared

/-- Whether a name comes before another: the more similar one, and of two equally similar ones the
greater. -/
def before (c d : Candidate) : Bool :=
  let mine := c.shared * d.total
  let other := d.shared * c.total
  if mine = other then decide (d.name ≤ c.name) else decide (other < mine)

end Candidate

/-- **The known names that a word may have meant.** -/
def similarTo (known : List String) (word : String) : List String :=
  let close := (known.map (Candidate.of word)).filter Candidate.isClose
  ((close.mergeSort Candidate.before).take 3).map (·.name)

end OperationCatalog.Text
