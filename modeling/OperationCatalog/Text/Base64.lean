/-!
# Base64

Four letters of an alphabet of sixty-four stand for three bytes. The decoder is the
lenient one: a character outside the alphabet is skipped, and padding that completes
a group ends the data. What it refuses is a text that stops in the middle of a group.
-/

namespace OperationCatalog.Text.Base64

/-- The value of a letter of the alphabet. -/
def letterValue (c : Char) : Option Nat :=
  if 'A' ≤ c && c ≤ 'Z' then some (c.toNat - 65)
  else if 'a' ≤ c && c ≤ 'z' then some (c.toNat - 71)
  else if '0' ≤ c && c ≤ '9' then some (c.toNat + 4)
  else if c == '+' then some 62
  else if c == '/' then some 63
  else none

/-- A group being read: how many of its letters are in, the bits not written out yet,
and how many padding characters came since the last letter. -/
structure Group where
  /-- Letters read, modulo four. -/
  letters : Nat := 0
  /-- Value of the bits that no byte holds yet. -/
  pending : Nat := 0
  /-- Padding characters since the last letter. -/
  padding : Nat := 0

/-- The bytes of a text, read from the middle of a group. -/
def decodeFrom (group : Group) : List Char → Option (List UInt8)
  | [] => if group.letters == 0 then some [] else none
  | c :: rest =>
    if c == '=' then
      if 2 ≤ group.letters && 4 ≤ group.letters + group.padding + 1 then some []
      else decodeFrom { group with
        padding := if 2 ≤ group.letters then group.padding + 1 else group.padding } rest
    else match letterValue c with
      | none => decodeFrom group rest
      | some value =>
        match group.letters with
        | 0 => decodeFrom ⟨1, value, 0⟩ rest
        | 1 => (decodeFrom ⟨2, value % 16, 0⟩ rest).map
            (UInt8.ofNat (group.pending * 4 + value / 16) :: ·)
        | 2 => (decodeFrom ⟨3, value % 4, 0⟩ rest).map
            (UInt8.ofNat (group.pending * 16 + value / 4) :: ·)
        | _ => (decodeFrom ⟨0, 0, 0⟩ rest).map (UInt8.ofNat (group.pending * 64 + value) :: ·)

/-- **The bytes of a base64 text**, `none` when it stops inside a group. -/
def decode (text : List Char) : Option (List UInt8) :=
  decodeFrom {} text

end OperationCatalog.Text.Base64
