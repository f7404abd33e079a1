import OperationCatalog.Value.Basic

/-!
# The order of a set

A set lists its members in an order of its own, whatever order they were put in. Its members lie
in a table whose size is a power of two, the smallest that leaves about half of the slots
free. A member goes to the slot that its residue points to or, if that is taken, to the first
free one of a fixed sequence (`OperationCatalog.SetOrder.probes`); the order of the set is that of
the slots.

Numbers that are equal have equal residues (`OperationCatalog.Scalar.residue?`): a residue is
taken modulo the prime `2 ^ 61 - 1`, where a fraction has one too, because two is invertible there.
Members without a residue keep the order in which they were put in.
-/

namespace OperationCatalog

/-- The prime that residues are taken by. -/
def residueModulus : Nat := powerOfTwo 61 - 1

/-- A residue with a sign, as a word of sixty-four bits; minus one is left out. -/
def signedResidue (negative : Bool) (residue : Nat) : Nat :=
  if negative && residue != 0 then powerOfTwo 64 - max 2 residue else residue

/-- **The residue of a number.** The power of two in a fraction counts modulo sixty-one, the order
of two by the prime. -/
def Scalar.residue? : Scalar → Option Nat
  | .bool b => some (if b then 1 else 0)
  | .int i => some (signedResidue (i < 0) (i.natAbs % residueModulus))
  | .float x =>
    match x.content with
    | .nan => none
    | .infinite negative => some (signedResidue negative 314159)
    | .finite negative mantissa exponent =>
      some (signedResidue negative (mantissa * powerOfTwo (exponent % 61).toNat % residueModulus))
  | _ => none

namespace SetOrder

/-- The slots that are tried for a member, in order: a run of ten from a start, or the start alone
near the end of the table, and then the same from a next start. The higher bits of the residue
take part in the starts until they are used up. -/
def probes (size : Nat) : (rounds start high : Nat) → List Nat
  | 0, _, _ => []
  | rounds + 1, start, high =>
    let run := if start + 9 < size then 10 else 1
    (List.range run).map (start + ·) ++
      probes size rounds ((start * 5 + 1 + high / 32) % size) (high / 32)

/-- A table with a member put into the first free slot of those tried. -/
def settle (table : Array (Option Scalar)) (residue : Nat) (member : Scalar) :
    Array (Option Scalar) :=
  let size := table.size
  match (probes size (size + 13) (residue % size) residue).find? fun slot =>
      (table[slot]?).any Option.isNone with
  | some slot => table.setIfInBounds slot (some member)
  | none => table

/-- The size of the table of so many members: eight for up to four, and else the smallest power of
two that is more than twice their number. -/
def tableSize (count : Nat) : Nat := if count < 5 then 8 else powerOfTwo ((2 * count).log2 + 1)

/-- **The members of a set in its order.** -/
def ofMembers (members : List Scalar) : List Scalar :=
  match members.mapM Scalar.residue? with
  | none => members
  | some residues =>
    let empty : Array (Option Scalar) := Array.replicate (tableSize members.length) none
    let table := (residues.zip members).foldl (fun table (r, m) => settle table r m) empty
    table.toList.filterMap id

end SetOrder

end OperationCatalog
