import OperationCatalog.Decimal.Digits
import OperationCatalog.Value.Basic

/-!
# Writing values as JSON

JSON has no dates, byte strings or sets, and its keys are texts. Writing therefore decides for every
value: what has no notation of its own is written as the text of the value, where the layout allows
that, a scalar key is written as the text it would have as a value, and a key that is neither text,
number, truth value nor null is refused.

A value with shared collections is written by writing each collection wherever it
occurs. This ends unless a collection contains itself, so the walk keeps the
collections it is inside of and refuses to enter one again:
`OperationCatalog.Json.writeShared` is the walk into the store, bounded by the size of
the store, and `OperationCatalog.Json.writeValue` the walk over one tree. A walk meets
faults from left to right and depth first, so the first of two faults is reported.

How the text is laid out is a record, `OperationCatalog.Json.Layout`.
-/

namespace OperationCatalog.Json

/-- Why a value has no JSON text. -/
inductive WriteFault where
  /-- A collection contains itself. -/
  | circular
  /-- A mapping has a key of this kind. -/
  | badKey (kind : String)
  /-- An integer is too long to be written in decimal. -/
  | integerTooLong
  /-- A value has no notation. -/
  | noNotation
  deriving DecidableEq, Repr

/-- The text of a fault, where it has one. -/
def WriteFault.message? : WriteFault → Option String
  | circular => some "Circular reference detected"
  | badKey kind => some ("keys must be str, int, float, bool or None, not " ++ kind)
  | integerTooLong | noNotation => none

/-- How JSON text is laid out. -/
structure Layout where
  /-- Whether characters beyond ASCII are escaped. -/
  asciiOnly : Bool
  /-- Columns by which a nested line is set in; `none` writes everything on one line. -/
  indent : Option Nat
  /-- Between a key and its value. -/
  keySeparator : String
  /-- Whether a value without a notation is written as its text. -/
  lenient : Bool

/-- **The compact layout**: one line, no blanks, characters as they are. -/
def Layout.compact : Layout := ⟨false, none, ":", true⟩

/-- **The layout of metadata files**: a line for each value, ASCII only, and nothing without a
notation. -/
def Layout.file : Layout := ⟨true, some 2, ": ", false⟩

/-- The layout of a summary on the screen: a line for each value, characters as they are. -/
def Layout.screen : Layout := ⟨false, some 2, ": ", true⟩

/-! ### Texts -/

/-- The escape of a code unit by its number. -/
def unitEscape (unit : Nat) : List Char :=
  '\\' :: 'u' :: Text.hexDigits 4 unit

/-- The escape of a character by number: two code units beyond the basic plane. -/
def numericEscape (c : Char) : List Char :=
  let n := c.toNat
  if n < 0x10000 then unitEscape n
  else unitEscape (0xd800 + (n - 0x10000) / 0x400) ++ unitEscape (0xdc00 + (n - 0x10000) % 0x400)

/-- One character inside a JSON text. -/
def writeChar (asciiOnly : Bool) (c : Char) : List Char :=
  if c == '"' then ['\\', '"']
  else if c == '\\' then ['\\', '\\']
  else if c == '\n' then ['\\', 'n']
  else if c == '\r' then ['\\', 'r']
  else if c == '\t' then ['\\', 't']
  else if c == '\x0c' then ['\\', 'f']
  else if c == '\x08' then ['\\', 'b']
  else if c < ' ' then numericEscape c
  else if asciiOnly && '~' < c then numericEscape c
  else [c]

/-- A text between double quotes. -/
def writeText (asciiOnly : Bool) (s : List Char) : List Char :=
  '"' :: s.flatMap (writeChar asciiOnly) ++ ['"']

/-! ### Scalars and keys -/

/-- Floating-point numbers as in plain text, with names for what has no digits. -/
def numberLayout : Decimal.Layout :=
  { plainNumberLayout with nan := "NaN", infinity := "Infinity" }

/-- The decimal text of an integer. -/
def writeInt (i : Int) : Except WriteFault (List Char) :=
  if Decimal.isWritable i then .ok (toString i).toList else .error .integerTooLong

/-- The characters of a scalar. Bytes and dates are written as their own text. -/
def scalarText : Scalar → Except WriteFault (List Char)
  | .null => .ok "null".toList
  | .bool b => .ok (if b then "true" else "false").toList
  | .int i => writeInt i
  | .float x => .ok (numberLayout.write x)
  | .str s => .ok s.toList
  | .bytes b => .ok (Text.quotedBytes b)
  | .date d => .ok d.text
  | .instant t => .ok t.text
  | .constant name => .ok name.toList

/-- Whether a scalar stands without quotes. -/
def isBare : Scalar → Bool
  | .null | .bool _ | .int _ | .float _ => true
  | _ => false

/-- Whether a scalar has a notation, or is text. -/
def hasNotation : Scalar → Bool
  | .null | .bool _ | .int _ | .float _ | .str _ => true
  | _ => false

/-- **A scalar.** -/
def writeScalar (layout : Layout) (s : Scalar) : Except WriteFault (List Char) :=
  if layout.lenient || hasNotation s then
    (scalarText s).map fun text => if isBare s then text else writeText layout.asciiOnly text
  else .error .noNotation

/-- **The key of a mapping**, between quotes whatever it was; bytes and dates are refused. -/
def writeKey (asciiOnly : Bool) (key : Scalar) : Except WriteFault (List Char) :=
  match key with
  | .bytes _ => .error (.badKey "bytes")
  | .date _ => .error (.badKey "datetime.date")
  | .instant _ => .error (.badKey "datetime.datetime")
  | .constant _ => .error (.badKey "constant")
  | other => (scalarText other).map (writeText asciiOnly)

/-- A set is written as its text. -/
def writeSet (layout : Layout) (members : List Scalar) : Except WriteFault (List Char) :=
  if !layout.lenient then .error .noNotation
  else if members.all (fun m => m.asInt?.all Decimal.isWritable) then
    .ok (writeText layout.asciiOnly (Scalar.setText members))
  else .error .integerTooLong

/-! ### Collections -/

/-- A line break and the indentation of a level, or nothing on a single line. -/
def Layout.lineBreak (layout : Layout) (level : Nat) : List Char :=
  layout.indent.elim [] fun columns => '\n' :: List.replicate (columns * level) ' '

/-- The parts of a collection between its brackets; an empty one stays on its line. -/
def Layout.enclose (layout : Layout) (level : Nat) (opening closing : Char)
    (parts : List (List Char)) : List Char :=
  if parts.isEmpty then [opening, closing]
  else
    opening :: layout.lineBreak (level + 1) ++
      List.intercalate (',' :: layout.lineBreak (level + 1)) parts ++
      layout.lineBreak level ++ [closing]

mutual

/-- **The walk over one tree.** `enter level index` is the text of a shared collection. -/
def writeValue (layout : Layout) (enter : Nat → Nat → Except WriteFault (List Char))
    (level : Nat) : Value → Except WriteFault (List Char)
  | .scalar s => writeScalar layout s
  | .list items => do
    let parts ← writeItems layout enter (level + 1) items
    return layout.enclose level '[' ']' parts
  | .map entries => do
    let parts ← writeEntries layout enter (level + 1) entries
    return layout.enclose level '\x7b' '\x7d' parts
  | .set members => writeSet layout members
  | .pair first second => do
    let left ← writeValue layout enter (level + 1) first
    let right ← writeValue layout enter (level + 1) second
    return layout.enclose level '[' ']' [left, right]
  | .shared index => enter level index

/-- The texts of the items of a sequence. -/
def writeItems (layout : Layout) (enter : Nat → Nat → Except WriteFault (List Char))
    (level : Nat) : List Value → Except WriteFault (List (List Char))
  | [] => .ok []
  | item :: rest => do
    let part ← writeValue layout enter level item
    let parts ← writeItems layout enter level rest
    return part :: parts

/-- The texts of the entries of a mapping, key and value. -/
def writeEntries (layout : Layout) (enter : Nat → Nat → Except WriteFault (List Char))
    (level : Nat) : List (Scalar × Value) → Except WriteFault (List (List Char))
  | [] => .ok []
  | (key, value) :: rest => do
    let name ← writeKey layout.asciiOnly key
    let part ← writeValue layout enter level value
    let parts ← writeEntries layout enter level rest
    return (name ++ layout.keySeparator.toList ++ part) :: parts

end

/-- **The walk into the store.** `inside` are the collections the walk is in; as none of them
is entered again, `depth` need not exceed the size of the store. -/
def writeShared (layout : Layout) (nodes : Array Value) :
    (depth : Nat) → (inside : List Nat) → (level index : Nat) → Except WriteFault (List Char)
  | 0, _, _, _ => .error .circular
  | depth + 1, inside, level, index =>
    if inside.contains index then .error .circular
    else
      writeValue layout (writeShared layout nodes depth (index :: inside)) level
        (nodes.getD index .null)

/-- **The JSON text of a value.** -/
def write (layout : Layout) (g : ValueGraph) : Except WriteFault (List Char) :=
  writeValue layout (writeShared layout g.nodes (g.nodes.size + 1) []) 0 g.root

/-- The text of a value on one line, as it stands inside generated code. -/
def compactText (g : ValueGraph) : Except WriteFault String :=
  (write .compact g).map String.ofList

end OperationCatalog.Json
