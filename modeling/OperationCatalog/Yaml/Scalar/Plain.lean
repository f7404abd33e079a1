import OperationCatalog.Yaml.Cursor

/-!
# Plain scalars

A plain scalar has no quotes around it and ends where something else can only begin:
at a colon before a blank, at a comment, at a line that is not indented enough. Inside
a flow collection the indicators of the collection end it as well.

It may run over several lines. A single break between two of its lines is one blank;
of several, the first is dropped and the others stay.
-/

namespace OperationCatalog.Yaml.Plain

/-- The indicators of flow collections that end a scalar inside one. -/
def isFlowIndicator (c : Char) : Bool :=
  c == ',' || c == '?' || c == '[' || c == ']' || c == '\x7b' || c == '\x7d'

/-- Whether a colon before this character ends a scalar. -/
def endsKey (inFlow : Bool) (c : Char) : Bool :=
  isSeparator c || (inFlow && c != '?' && isFlowIndicator c)

/-- **The characters of a scalar up to the next blank** or its end. -/
def word (inFlow : Bool) : List Char → List Char
  | [] => []
  | c :: rest =>
    if isSeparator c || (c == ':' && rest.head?.all (endsKey inFlow)) ||
        (inFlow && isFlowIndicator c) then []
    else c :: word inFlow rest

/-- What stands between two words of a scalar. -/
structure Gap where
  /-- The characters it amounts to; none when the scalar cannot go on. -/
  text : List Char
  /-- The cursor after it. -/
  cursor : Cursor
  /-- Whether it has a line break. -/
  broken : Bool

/-- The breaks of empty lines, first to last, and the cursor at the next character; `none` at a
document mark. -/
def emptyLines : (bound : Nat) → Cursor → Option (List Char) × Cursor
  | 0, c => (some [], c)
  | bound + 1, c =>
    if c.head? == some ' ' then emptyLines bound c.next
    else match c.lineBreak? with
      | none => (some [], c)
      | some (ch, after) =>
        if after.atDocumentMark then (none, after)
        else
          let (breaks, last) := emptyLines bound after
          (breaks.map (ch :: ·), last)

/-- The characters that a first break and those of the empty lines after it amount to. -/
def foldBreaks (first : Char) (breaks : List Char) : List Char :=
  if first != '\n' then first :: breaks
  else if breaks.isEmpty then [' ']
  else breaks

/-- **What stands between two words.** -/
def gap (c : Cursor) : Gap :=
  let (blanks, after) := c.span (· == ' ')
  match after.lineBreak? with
  | none => ⟨blanks, after, false⟩
  | some (first, start) =>
    if start.atDocumentMark then ⟨[], start, true⟩
    else match emptyLines (start.rest.length + 1) start with
      | (none, last) => ⟨[], last, true⟩
      | (some breaks, last) => ⟨foldBreaks first breaks, last, true⟩

/-- A scalar read: its text, the cursor after it, and whether it was left behind at the
beginning of a line, where a key may start. -/
structure Result where
  /-- The text. -/
  text : List Char
  /-- The cursor after the scalar and the gap that ended it. -/
  cursor : Cursor
  /-- Whether a line break was read after its last word. -/
  atLineStart : Bool

/-- The words of a scalar from the next one on; `between` is the gap before it. -/
def words (inFlow : Bool) (indent : Int) :
    (bound : Nat) → (between : List Char) → (atLineStart : Bool) → Cursor → Result
  | 0, _, atLineStart, c => ⟨[], c, atLineStart⟩
  | bound + 1, between, atLineStart, c =>
    let here := if c.head? == some '#' then [] else word inFlow c.rest
    if here.isEmpty then ⟨[], c, atLineStart⟩
    else
      let g := gap (c.skip here.length)
      if g.text.isEmpty || g.cursor.head? == some '#' ||
          (!inFlow && (g.cursor.column : Int) < indent) then
        ⟨between ++ here, g.cursor, g.broken⟩
      else
        let more := words inFlow indent bound g.text g.broken g.cursor
        ⟨between ++ here ++ more.text, more.cursor, more.atLineStart⟩

/-- **A plain scalar.** Its further lines are indented by at least `indent`. -/
def scan (inFlow : Bool) (indent : Int) (c : Cursor) : Result :=
  words inFlow indent (c.rest.length + 1) [] false c

end OperationCatalog.Yaml.Plain
