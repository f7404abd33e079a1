import OperationCatalog.Yaml.Cursor

/-!
# Block scalars

A block scalar is a header and the lines below it that are indented. Its literal form
keeps the lines, its folded form joins two lines that are both text into one, and its
header says whether the breaks at the end are dropped, cut to one, or kept.
-/

namespace OperationCatalog.Yaml.Block

/-- What becomes of the breaks at the end. -/
inductive Chomping where
  /-- One is left. -/
  | clip
  /-- None is left. -/
  | strip
  /-- All are left. -/
  | keep
  deriving DecidableEq

/-- The header: what becomes of the breaks at the end, and by how many columns the lines are
indented more than their parent, if it says so. -/
structure Header where
  /-- What becomes of the breaks at the end. -/
  chomping : Chomping := .clip
  /-- The indentation it states. -/
  indentation : Option Nat := none

/-- The chomping that a character of a header stands for. -/
def chomping? (c : Char) : Option Chomping :=
  if c == '+' then some .keep else if c == '-' then some .strip else none

/-- The characters of a header in either order; zero columns is no indentation. -/
def indicators (c : Cursor) : Except Fault (Header × Cursor) :=
  match c.rest with
  | [] => .ok ({}, c)
  | first :: rest =>
    match chomping? first with
    | some chomping =>
      match rest.head?.filter Char.isDigit with
      | some digit =>
        if digit == '0' then .error .malformed
        else .ok (⟨chomping, some (digit.toNat - 48)⟩, c.skip 2)
      | none => .ok (⟨chomping, none⟩, c.next)
    | none =>
      if first == '0' then .error .malformed
      else if first.isDigit then
        match rest.head?.bind chomping? with
        | some chomping => .ok (⟨chomping, some (first.toNat - 48)⟩, c.skip 2)
        | none => .ok (⟨.clip, some (first.toNat - 48)⟩, c.next)
      else .ok ({}, c)

/-- **The header of a scalar**, to the end of its line. -/
def header (c : Cursor) : Except Fault (Header × Cursor) := do
  let (h, c) ← indicators c
  if !c.endsAt 0 (fun ch => ch == ' ' || isBreak ch) then .error .malformed
  let c ← c.restOfLine
  return (h, c)

/-- The breaks of the leading empty lines, the widest of their columns and that of the first
text line, and the cursor there. -/
def leadingLines : (bound : Nat) → (widest : Nat) → Cursor → List Char × Nat × Cursor
  | 0, widest, c => ([], widest, c)
  | bound + 1, widest, c =>
    if c.head? == some ' ' then leadingLines bound (max widest c.next.column) c.next
    else match c.lineBreak? with
      | none => ([], widest, c)
      | some (ch, after) =>
        let (breaks, found, last) := leadingLines bound widest after
        (ch :: breaks, found, last)

/-- The cursor at a column, or before it where something else than a blank stands. -/
def indentTo (indent : Nat) (c : Cursor) : Cursor :=
  c.skip ((c.rest.takeWhile (· == ' ')).take (indent - c.column)).length

/-- The breaks of the empty lines that stand here, and the cursor at the indented text after
them. -/
def emptyLines (indent : Nat) : (bound : Nat) → Cursor → List Char × Cursor
  | 0, c => ([], c)
  | bound + 1, c =>
    let c := indentTo indent c
    match c.lineBreak? with
    | none => ([], c)
    | some (ch, after) =>
      let (breaks, last) := emptyLines indent bound after
      (ch :: breaks, last)

/-- **The lines of a scalar** from the next one on: the text without the breaks at the end, the
break of the last line if it has one, the breaks of the empty lines after it, and the cursor
there. `breaks` are the breaks before the next line. -/
def lines (folded : Bool) (indent : Nat) :
    (bound : Nat) → (breaks : List Char) → (last : List Char) → Cursor →
      List Char × List Char × List Char × Cursor
  | 0, breaks, last, c => ([], last, breaks, c)
  | bound + 1, breaks, last, c =>
    if c.column ≠ indent || c.atEnd then ([], last, breaks, c)
    else
      let textFirst := !c.headIs isBlank
      let (line, c) := c.span (!isBreak ·)
      let (ended, c) := match c.lineBreak? with
        | none => ([], c)
        | some (ch, after) => ([ch], after)
      let (empty, c) := emptyLines indent (c.rest.length + 1) c
      if c.column = indent && !c.atEnd then
        let joint :=
          if folded && ended == ['\n'] && textFirst && !c.headIs isBlank then
            if empty.isEmpty then [' '] else []
          else ended
        let (text, tail) := lines folded indent bound empty ended c
        (breaks ++ line ++ joint ++ text, tail)
      else (breaks ++ line, ended, empty, c)

/-- **A block scalar** whose indicator stands here; `parent` is the indentation of the collection
around it. -/
def scan (folded : Bool) (parent : Int) (c : Cursor) : Except Fault (List Char × Cursor) := do
  let (h, c) ← header c.next
  let least := (max 1 (parent + 1)).toNat
  let bound := c.rest.length + 1
  let (breaks, indent, c) := match h.indentation with
    | none =>
      let (breaks, widest, c) := leadingLines bound 0 c
      (breaks, max least widest, c)
    | some columns =>
      let indent := least + columns - 1
      let (breaks, c) := emptyLines indent bound c
      (breaks, indent, c)
  let (text, ended, empty, c) := lines folded indent bound breaks [] c
  let tail := match h.chomping with
    | .strip => []
    | .clip => ended
    | .keep => ended ++ empty
  return (text ++ tail, c)

end OperationCatalog.Yaml.Block
