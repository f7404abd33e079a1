import OperationCatalog.Decimal.Digits
import OperationCatalog.Yaml.Scalar.Quoted
import OperationCatalog.Yaml.Token

/-!
# Anchors, tags and directives

The tokens that say something about what follows them. A tag is a handle and a suffix;
the suffix is written like an address, in which a percent sign and two digits stand for
a byte, and runs of such bytes must be text. A directive stands on a line of its own, and
the two that mean something are the version and the handle of tags.
-/

namespace OperationCatalog.Yaml.Property

/-- The characters of an address. -/
def isAddressChar (c : Char) : Bool :=
  isNameChar c || ";/?:@&=+$,.!~*'()[]%".toList.contains c

/-- The bytes that percent signs stand for, and the cursor after them. -/
def escapedBytes : (bound : Nat) → Cursor → Except Fault (List UInt8 × Cursor)
  | 0, c => .ok ([], c)
  | bound + 1, c =>
    match c.rest with
    | '%' :: high :: low :: _ =>
      match Quoted.hexValue? high, Quoted.hexValue? low with
      | some h, some l => do
        let (bytes, last) ← escapedBytes bound (c.skip 3)
        return (UInt8.ofNat (h * 16 + l) :: bytes, last)
      | _, _ => .error .malformed
    | '%' :: _ => .error .malformed
    | _ => .ok ([], c)

/-- The characters of an address, escapes read. -/
def addressChars : (bound : Nat) → Cursor → Except Fault (List Char × Cursor)
  | 0, c => .ok ([], c)
  | bound + 1, c =>
    if c.head? == some '%' then do
      let (bytes, after) ← escapedBytes (c.rest.length + 1) c
      match String.fromUTF8? ⟨bytes.toArray⟩ with
      | none => .error .malformed
      | some text =>
        let (more, last) ← addressChars bound after
        return (text.toList ++ more, last)
    else if c.headIs isAddressChar then do
      let (run, after) := c.span fun ch => isAddressChar ch && ch != '%'
      let (more, last) ← addressChars bound after
      return (run ++ more, last)
    else .ok ([], c)

/-- **An address** of at least one character. -/
def address (c : Cursor) : Except Fault (String × Cursor) := do
  let (chars, after) ← addressChars (c.rest.length + 1) c
  if after.index = c.index then .error .malformed
  return (String.ofList chars, after)

/-- **The handle of a tag**: an exclamation mark, or a name between two. -/
def handle (c : Cursor) : Except Fault (String × Cursor) :=
  match c.rest with
  | '!' :: ' ' :: _ => .ok ("!", c.next)
  | '!' :: rest =>
    let name := rest.takeWhile isNameChar
    if (rest.drop name.length).head? == some '!' then
      .ok (String.ofList ('!' :: name ++ ['!']), c.skip (name.length + 2))
    else .error .malformed
  | _ => .error .malformed

/-- **The name of an anchor or an alias**, after its indicator. -/
def name (c : Cursor) : Except Fault (String × Cursor) :=
  let (chars, after) := c.next.span isNameChar
  let closes (ch : Char) := isSeparator ch || "?:,]\x7d%@`".toList.contains ch
  if chars.isEmpty || !after.endsAt 0 closes then .error .malformed
  else .ok (String.ofList chars, after)

/-- Whether a word with a handle of its own stands here: an exclamation mark comes before the
next blank or break. -/
def hasHandle (word : List Char) : Bool :=
  (word.takeWhile fun ch => !(ch == ' ' || isBreak ch)).contains '!'

/-- **A tag** whose exclamation mark stands here. -/
def tag (c : Cursor) : Except Fault (TagText × Cursor) := do
  let (text, after) ← match c.rest.tail with
    | '<' :: _ => do
      let (suffix, after) ← address (c.skip 2)
      if after.head? == some '>' then pure (⟨none, suffix⟩, after.next) else .error .malformed
    | [] => pure (⟨none, "!"⟩, c.next)
    | next :: rest =>
      if isSeparator next then pure (⟨none, "!"⟩, c.next)
      else do
        let (mark, start) ← if hasHandle (next :: rest) then handle c else pure ("!", c.next)
        let (suffix, after) ← address start
        pure (⟨some mark, suffix⟩, after)
  if after.endsAt 0 (fun ch => ch == ' ' || isBreak ch) then return (text, after)
  else .error .malformed

/-! ### Directives -/

/-- Whether a blank, a break or the end of the text stands here. -/
def endsField (c : Cursor) : Bool := c.endsAt 0 fun ch => ch == ' ' || isBreak ch

/-- A number, of no more digits than integers have. -/
def number (c : Cursor) : Except Fault (Nat × Cursor) :=
  let (digits, after) := c.span Char.isDigit
  if digits.isEmpty then .error .malformed
  else if Decimal.maxDigits < digits.length then .error .badNumber
  else .ok (digits.foldl (fun n ch => n * 10 + (ch.toNat - 48)) 0, after)

/-- The value of a version directive. -/
def version (c : Cursor) : Except Fault (Token × Cursor) := do
  let (major, c) ← number c.skipSpaces
  if c.head? != some '.' then .error .malformed
  let (_, c) ← number c.next
  if endsField c then return (.version major, c) else .error .malformed

/-- The value of a directive that gives a handle its meaning. -/
def handleMeaning (c : Cursor) : Except Fault (Token × Cursor) := do
  let (mark, c) ← handle c.skipSpaces
  if c.head? != some ' ' then .error .malformed
  let (meaning, c) ← address c.skipSpaces
  if endsField c then return (.handle mark meaning, c) else .error .malformed

/-- **A directive** whose percent sign stands here, with the rest of its line. -/
def directive (c : Cursor) : Except Fault (Token × Cursor) := do
  let (word, c) := c.next.span isNameChar
  if word.isEmpty || !endsField c then .error .malformed
  let (token, c) ←
    if word == "YAML".toList then version c
    else if word == "TAG".toList then handleMeaning c
    else pure (.reserved, c.skipWhile (!isBreak ·))
  let c ← c.restOfLine
  return (token, c)

end OperationCatalog.Yaml.Property
