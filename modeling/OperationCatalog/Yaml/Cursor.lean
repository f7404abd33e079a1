import OperationCatalog.Yaml.Fault

/-!
# A place in a YAML text

YAML is a notation of columns: what a character means depends on how far it is from
the start of its line. A `OperationCatalog.Yaml.Cursor` is what is left of a text
together with the index, line and column of its first character, and
`OperationCatalog.Yaml.Cursor.next` is the one way forward. Everything else – runs of
characters, line breaks, blank lines – is built from that one step, so no scanner
keeps a count of its own.

The classes of characters are the notation's: five characters break a line, and
a word ends at a blank, at a break or at the end of the text.
-/

namespace OperationCatalog.Yaml

/-! ### Characters -/

/-- Whether a character may occur in a text at all. -/
def isPrintable (c : Char) : Bool :=
  let n := c.toNat
  n == 0x9 || n == 0xa || n == 0xd || (0x20 ≤ n && n ≤ 0x7e) || n == 0x85 ||
    (0xa0 ≤ n && n ≤ 0xd7ff) || (0xe000 ≤ n && n ≤ 0xfffd) || 0x10000 ≤ n

/-- Whether a character breaks a line. -/
def isBreak (c : Char) : Bool :=
  c == '\n' || c == '\r' || c == '\u0085' || c == '\u2028' || c == '\u2029'

/-- Whether a character is a blank or a tab. -/
def isBlank (c : Char) : Bool := c == ' ' || c == '\t'

/-- Whether a character ends a word. -/
def isSeparator (c : Char) : Bool := isBlank c || isBreak c

/-- Whether a character may occur in the name of an anchor, a handle or a directive. -/
def isNameChar (c : Char) : Bool := c.isAlphanum || c == '-' || c == '_'

/-! ### Cursors -/

/-- What is left of a text, and where it starts. -/
structure Cursor where
  /-- The characters left. -/
  rest : List Char
  /-- The number of characters before. -/
  index : Nat := 0
  /-- The number of lines before. -/
  line : Nat := 0
  /-- The number of characters before on this line, byte order marks left out. -/
  column : Nat := 0

namespace Cursor

/-- The first character left. -/
def head? (c : Cursor) : Option Char := c.rest.head?

/-- Whether nothing is left. -/
def atEnd (c : Cursor) : Bool := c.rest.isEmpty

/-- Whether the first character left is in a class. -/
def headIs (c : Cursor) (p : Char → Bool) : Bool := c.rest.head?.any p

/-- Whether the character so many places on is in a class or lies past the end. -/
def endsAt (c : Cursor) (offset : Nat) (p : Char → Bool) : Bool :=
  (c.rest.drop offset).head?.all p

/-- **One character on.** A carriage return before a line feed leaves the breaking of the
line to the line feed. -/
def next (c : Cursor) : Cursor :=
  match c.rest with
  | [] => c
  | ch :: rest =>
    if isBreak ch && !(ch == '\r' && rest.head? == some '\n') then
      ⟨rest, c.index + 1, c.line + 1, 0⟩
    else if ch == '\ufeff' then ⟨rest, c.index + 1, c.line, c.column⟩
    else ⟨rest, c.index + 1, c.line, c.column + 1⟩

/-- Several characters on. -/
def skip (c : Cursor) : Nat → Cursor
  | 0 => c
  | n + 1 => c.next.skip n

/-- The characters of a class that stand here, and the cursor after them. -/
def span (c : Cursor) (p : Char → Bool) : List Char × Cursor :=
  let taken := c.rest.takeWhile p
  (taken, c.skip taken.length)

/-- The cursor after the characters of a class that stand here. -/
def skipWhile (c : Cursor) (p : Char → Bool) : Cursor := (c.span p).2

/-- The cursor after the blanks that stand here. -/
def skipSpaces (c : Cursor) : Cursor := c.skipWhile (· == ' ')

/-- **A line break**, if one stands here: the break as it counts inside a scalar, where the
ASCII breaks are one. -/
def lineBreak? (c : Cursor) : Option (Char × Cursor) :=
  match c.rest with
  | '\r' :: '\n' :: _ => some ('\n', c.skip 2)
  | ch :: _ =>
    if ch == '\u2028' || ch == '\u2029' then some (ch, c.next)
    else if isBreak ch then some ('\n', c.next)
    else none
  | [] => none

/-- The cursor after a line break, if one stands here. -/
def skipBreak (c : Cursor) : Cursor := (c.lineBreak?.map (·.2)).getD c

/-- Whether three characters that mark the start or the end of a document stand here. -/
def atDocumentMark (c : Cursor) : Bool :=
  (c.rest.take 3 == ['-', '-', '-'] || c.rest.take 3 == ['.', '.', '.']) && c.endsAt 3 isSeparator

/-- The cursor after the blanks and the comment that may end a line; anything else before the
end of the line is a fault. -/
def restOfLine (c : Cursor) : Except Fault Cursor :=
  let c := c.skipSpaces
  let c := if c.head? == some '#' then c.skipWhile (!isBreak ·) else c
  if c.endsAt 0 isBreak then .ok c.skipBreak else .error .malformed

end Cursor

end OperationCatalog.Yaml
