import OperationCatalog.TypeScript.Code

/-!
# Outlines of generated code

The layout of generated code shows its structure: a line that ends with an opening bracket starts a
block, the lines of the block are set in by two more columns, and the first line that is set in by
less closes it. So a text is read line by line, with the blocks that are open on a stack, as an
*outline*: a tree of lines and blocks (`OperationCatalog.TypeScript.Outline`). Empty lines say
nothing.

An outline does not know what a line says. That the outline of some code is what was laid out needs
two things only: no expression on a line of its own ends with an opening bracket, since a
comma or a semicolon follows it, and a block is closed by a line that is set in by less than its
parts, whatever these are. The whole of it is `OperationCatalog.TypeScript.Reading.run_lines`: going
past the lines of some code adds one part to what is being read.
-/

namespace OperationCatalog.TypeScript

/-- **A part of a text**: a line, or a block of parts after the line it starts with. -/
inductive Outline where
  /-- A line. -/
  | line (text : List Char)
  /-- A block. -/
  | block (opening : List Char) (parts : List Outline)

/-- The parts of a block. -/
def Outline.parts : Outline → List Outline
  | line _ => []
  | block _ parts => parts

/-! ### Reading lines -/

/-- A block that is open: the line it starts with, and the parts before it, last first. -/
structure OpenBlock where
  /-- The line it starts with. -/
  opening : List Char
  /-- The parts before it in the block around it, last first. -/
  before : List Outline

/-- What has been read of a text. -/
structure Reading where
  /-- The parts of the innermost block so far, last first. -/
  parts : List Outline
  /-- The open blocks, innermost first. -/
  outer : List OpenBlock

/-- Whether a line starts a block. -/
def opensBlock (text : List Char) : Bool :=
  text.getLast?.any fun c => c == '\x7b' || c == '['

/-- A line that is set in by some columns at least, without these. -/
def dropColumns? : (columns : Nat) → List Char → Option (List Char)
  | 0, line => some line
  | columns + 1, ' ' :: line => dropColumns? columns line
  | _, _ => none

namespace Reading

/-- The innermost block is closed. -/
def close (r : Reading) : Reading :=
  match r.outer with
  | block :: outer => ⟨.block block.opening r.parts.reverse :: block.before, outer⟩
  | [] => r

/-- **One more line.** -/
def next (r : Reading) (line : List Char) : Reading :=
  if line.isEmpty then r
  else match dropColumns? (2 * r.outer.length) line with
    | some text =>
      if opensBlock text then ⟨[], ⟨text, r.parts⟩ :: r.outer⟩
      else ⟨.line text :: r.parts, r.outer⟩
    | none => r.close

/-- Some more lines. -/
def run (r : Reading) (lines : List String) : Reading :=
  lines.foldl (fun r line => r.next line.toList) r

@[simp] theorem run_nil (r : Reading) : r.run [] = r := rfl

@[simp] theorem run_cons (r : Reading) (line : String) (lines : List String) :
    r.run (line :: lines) = (r.next line.toList).run lines := rfl

@[simp] theorem run_append (r : Reading) (lines more : List String) :
    r.run (lines ++ more) = (r.run lines).run more :=
  List.foldl_append

/-! ### What a line does -/

variable {parts before : List Outline} {outer : List OpenBlock} {text opening : List Char}

theorem dropColumns?_replicate (columns : Nat) (text : List Char) :
    dropColumns? columns (List.replicate columns ' ' ++ text) = some text := by
  induction columns with
  | zero => rfl
  | succ columns ih => exact ih

theorem dropColumns?_of_less {columns more : Nat} {c : Char} (hc : c ≠ ' ') (h : columns < more)
    (text : List Char) : dropColumns? more (List.replicate columns ' ' ++ c :: text) = none := by
  -- the blanks run out before the columns do, and the next character is none
  induction columns generalizing more with
  | zero =>
    obtain ⟨more, rfl⟩ := Nat.exists_eq_succ_of_ne_zero (Nat.ne_of_gt h)
    simp [dropColumns?, hc]
  | succ columns ih =>
    obtain ⟨more, rfl⟩ := Nat.exists_eq_succ_of_ne_zero (Nat.ne_of_gt (Nat.zero_lt_of_lt h))
    exact ih (Nat.lt_of_succ_lt_succ h)

theorem next_nil (r : Reading) : r.next [] = r := rfl

/-- A line that starts no block is a part. -/
theorem next_line (hne : text ≠ []) (htext : opensBlock text = false) :
    (⟨parts, outer⟩ : Reading).next (List.replicate (2 * outer.length) ' ' ++ text) =
      ⟨.line text :: parts, outer⟩ := by
  simp [next, dropColumns?_replicate, htext, hne]

/-- A line that starts a block opens it. -/
theorem next_opening (htext : opensBlock text = true) :
    (⟨parts, outer⟩ : Reading).next (List.replicate (2 * outer.length) ' ' ++ text) =
      ⟨[], ⟨text, parts⟩ :: outer⟩ := by
  have hne : text ≠ [] := by
    rintro rfl
    simp [opensBlock] at htext
  simp [next, dropColumns?_replicate, htext, hne]

/-- A line that is set in by less closes a block. -/
theorem next_closing {c : Char} (hc : c ≠ ' ') (text : List Char) :
    (⟨parts, ⟨opening, before⟩ :: outer⟩ : Reading).next
        (List.replicate (2 * outer.length) ' ' ++ c :: text) =
      ⟨.block opening parts.reverse :: before, outer⟩ := by
  have hless : 2 * outer.length < 2 * (outer.length + 1) := by omega
  simp [next, dropColumns?_of_less hc hless, close]

end Reading

/-! ### The outline of code -/

namespace Code

mutual

/-- **The outline of some code** between what stands before it on its first line and, if it is one
line, after it. -/
def outline (before after : String) : Code → Outline
  | line text => .line (before ++ text ++ after).toList
  | array items => .block (before ++ "[").toList (itemOutlines items)
  | object members => .block (before ++ "\x7b").toList (memberOutlines members)

/-- The outlines of the items of an array. -/
def itemOutlines : List Code → List Outline
  | [] => []
  | item :: rest => item.outline "" "," :: itemOutlines rest

/-- The outlines of the members of an object. -/
def memberOutlines : List (String × Code) → List Outline
  | [] => []
  | (name, value) :: rest => value.outline (name ++ ": ") "," :: memberOutlines rest

end

theorem itemOutlines_eq_map (items : List Code) :
    itemOutlines items = items.map (outline "" ",") := by
  induction items with
  | nil => rfl
  | cons item rest ih => rw [itemOutlines, ih, List.map_cons]

theorem memberOutlines_eq_map (members : List (String × Code)) :
    memberOutlines members = members.map fun m => m.2.outline (m.1 ++ ": ") "," := by
  induction members with
  | nil => rfl
  | cons m rest ih => rw [memberOutlines, ih, List.map_cons]

end Code

namespace Reading

/-- What may follow an expression on its line. -/
def IsEnd (after : String) : Prop := after = "," ∨ after = ";"

/-- Whether a line starts a block is seen at its end. -/
theorem opensBlock_append (text : String) {last : String} (h : last ≠ "") :
    opensBlock (text ++ last).toList = opensBlock last.toList := by
  have hlast : last.toList ≠ [] := by simpa using h
  rw [opensBlock, opensBlock, String.toList_append, List.getLast?_append,
    List.getLast?_eq_some_getLast hlast, Option.some_or]

theorem opensBlock_line {after : String} (hafter : IsEnd after) (text : String) :
    opensBlock (text ++ after).toList = false := by
  rcases hafter with rfl | rfl
  · exact opensBlock_append text (by decide)
  · exact opensBlock_append text (by decide)

theorem opensBlock_array (before : String) : opensBlock (before ++ "[").toList = true :=
  opensBlock_append before (by decide)

theorem opensBlock_object (before : String) : opensBlock (before ++ "\x7b").toList = true :=
  opensBlock_append before (by decide)

theorem toList_indented (columns : Nat) (text : String) :
    (Code.indented columns text).toList = List.replicate columns ' ' ++ text.toList := by
  simp [Code.indented]

/-- **A block is gone past**, if its parts are. -/
theorem run_block {parts inner : List Outline} {outer : List OpenBlock} {opening closing : String}
    {body : List String} {c : Char} {rest : List Char} (hopening : opensBlock opening.toList = true)
    (hclosing : closing.toList = c :: rest) (hc : c ≠ ' ')
    (hbody : (⟨[], ⟨opening.toList, parts⟩ :: outer⟩ : Reading).run body =
      ⟨inner.reverse, ⟨opening.toList, parts⟩ :: outer⟩) :
    (⟨parts, outer⟩ : Reading).run (Code.indented (2 * outer.length) opening :: body ++
        [Code.indented (2 * outer.length) closing]) =
      ⟨.block opening.toList inner :: parts, outer⟩ := by
  rw [List.cons_append, run_cons, run_append, toList_indented, next_opening hopening, hbody,
    run_cons, run_nil, toList_indented, hclosing, next_closing hc, List.reverse_reverse]

theorem indented_zero (text : String) : Code.indented 0 text = text := by
  simp [Code.indented]

/-- A block that is not set in is closed by a brace. -/
theorem run_outerBlock {parts inner : List Outline} {opening : String} {body : List String}
    (hopening : opensBlock opening.toList = true)
    (hbody : (⟨[], [⟨opening.toList, parts⟩]⟩ : Reading).run body =
      ⟨inner.reverse, [⟨opening.toList, parts⟩]⟩) :
    (⟨parts, []⟩ : Reading).run (opening :: body ++ ["\x7d"]) =
      ⟨.block opening.toList inner :: parts, []⟩ := by
  have closing : "\x7d".toList = ['\x7d'] := by simp
  have block := run_block hopening closing (by decide) hbody
  rwa [List.length_nil, Nat.mul_zero, indented_zero, indented_zero] at block

mutual

/-- **Going past the lines of some code** adds its outline to what is being read. -/
theorem run_lines (before after : String) (hafter : IsEnd after) (parts : List Outline)
    (outer : List OpenBlock) : ∀ code : Code,
    (⟨parts, outer⟩ : Reading).run (code.lines (2 * outer.length) before after) =
      ⟨code.outline before after :: parts, outer⟩
  | .line text => by
    have hne : (before ++ text ++ after).toList ≠ [] := by
      rcases hafter with rfl | rfl <;> simp
    rw [Code.lines, run_cons, run_nil, toList_indented, next_line hne (opensBlock_line hafter _)]
    rfl
  | .array items => by
    -- the items are read into a block of their own, with what is around it on the stack
    have inner := run_itemLines [] (⟨(before ++ "[").toList, parts⟩ :: outer) items
    rw [List.length_cons, Nat.mul_succ, List.append_nil] at inner
    have closing : ("]" ++ after).toList = ']' :: after.toList := by simp
    exact run_block (opensBlock_array before) closing (by decide) inner
  | .object members => by
    have inner := run_memberLines [] (⟨(before ++ "\x7b").toList, parts⟩ :: outer) members
    rw [List.length_cons, Nat.mul_succ, List.append_nil] at inner
    have closing : ("\x7d" ++ after).toList = '\x7d' :: after.toList := by simp
    exact run_block (opensBlock_object before) closing (by decide) inner

theorem run_itemLines (parts : List Outline) (outer : List OpenBlock) : ∀ items : List Code,
    (⟨parts, outer⟩ : Reading).run (Code.itemLines (2 * outer.length) items) =
      ⟨(Code.itemOutlines items).reverse ++ parts, outer⟩
  | [] => rfl
  | item :: rest => by
    rw [Code.itemLines, run_append, run_lines "" "," (Or.inl rfl) parts outer item,
      run_itemLines _ outer rest, Code.itemOutlines]
    simp

theorem run_memberLines (parts : List Outline) (outer : List OpenBlock) :
    ∀ members : List (String × Code),
    (⟨parts, outer⟩ : Reading).run (Code.memberLines (2 * outer.length) members) =
      ⟨(Code.memberOutlines members).reverse ++ parts, outer⟩
  | [] => rfl
  | (name, value) :: rest => by
    rw [Code.memberLines, run_append, run_lines (name ++ ": ") "," (Or.inl rfl) parts outer value,
      run_memberLines _ outer rest, Code.memberOutlines]
    simp

end

end Reading

end OperationCatalog.TypeScript
