import OperationCatalog.Text.Glyph

/-!
# Quoted text and bytes

The text of a value that is not text itself – a byte string, a set, a calendar
date inside a set – quotes the text it contains. The rule: a text stands between
single quotes, unless it holds a single quote and no double quote, when double
quotes are shorter. Inside, the quote in use and the backslash are escaped, the
three common control characters have letters, and whatever has no glyph of its own is
written by its number in the shortest of three widths.
-/

namespace OperationCatalog.Text

/-- The lower-case hexadecimal digit of a value below sixteen. -/
def hexDigit (n : Nat) : Char :=
  if n < 10 then Char.ofNat (48 + n) else Char.ofNat (87 + n)

/-- The last `width` hexadecimal digits of a number, leading zeros included. -/
def hexDigits : (width : Nat) → Nat → List Char
  | 0, _ => []
  | width + 1, n => hexDigits width (n / 16) ++ [hexDigit (n % 16)]

/-- The quote that a text is put between. -/
def quoteFor (text : List Char) : Char :=
  if text.contains '\'' && !text.contains '"' then '"' else '\''

/-- One character inside quotes. -/
def quotedChar (quote c : Char) : List Char :=
  if c == quote || c == '\\' then ['\\', c]
  else if c == '\n' then ['\\', 'n']
  else if c == '\r' then ['\\', 'r']
  else if c == '\t' then ['\\', 't']
  else if isUnprintable c then
    if c.toNat < 0x100 then '\\' :: 'x' :: hexDigits 2 c.toNat
    else if c.toNat < 0x10000 then '\\' :: 'u' :: hexDigits 4 c.toNat
    else '\\' :: 'U' :: hexDigits 8 c.toNat
  else [c]

/-- **Quoted text.** -/
def quoted (text : List Char) : List Char :=
  let quote := quoteFor text
  quote :: text.flatMap (quotedChar quote) ++ [quote]

/-- One byte inside quotes: as the character of its number, when that is a visible ASCII
character, and by its number otherwise. -/
def quotedByte (quote : Char) (byte : UInt8) : List Char :=
  if byte < 0x7f then quotedChar quote (Char.ofNat byte.toNat)
  else '\\' :: 'x' :: hexDigits 2 byte.toNat

/-- **Quoted bytes**, marked by a letter before the opening quote. -/
def quotedBytes (bytes : List UInt8) : List Char :=
  let quote := quoteFor (bytes.map fun byte => Char.ofNat byte.toNat)
  'b' :: quote :: bytes.flatMap (quotedByte quote) ++ [quote]

end OperationCatalog.Text
