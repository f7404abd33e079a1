import OperationCatalog.Value.Basic
import OperationCatalog.Json.Writer

/-!
# Reading JSON

A text is read from left to right into a tree of values. Beyond the strict notation
the reader knows the three names for numbers without digits. A key that occurs twice
keeps its first place and its last value.

A fault names its cause and its place. The place is kept, while reading, as the
number of characters that were left, which needs no counter on the way; it becomes an
offset, a line and a column at the end (`OperationCatalog.Json.Place.ofOffset`), where
only a line feed ends a line.

Reading recurses on a bound that each step lowers by one. Each step also takes at
least one character, so the length of the text is bound enough.
-/

namespace OperationCatalog.Json

/-! ### Faults -/

/-- What is wrong at a place of a text. -/
inductive Cause where
  /-- No value starts here. -/
  | expectingValue
  /-- A key should start here. -/
  | expectingPropertyName
  /-- A colon should stand here. -/
  | expectingColon
  /-- A comma or the end of the collection should stand here. -/
  | expectingComma
  /-- The value has ended and the text has not. -/
  | extraData
  /-- The text that starts here has no end. -/
  | unterminatedString
  /-- A backslash before a character that has no escape. -/
  | invalidEscape
  /-- A numeric escape without its four digits. -/
  | invalidUnicodeEscape
  /-- A control character stands as it is. -/
  | invalidControl
  /-- The text starts with a byte order mark. -/
  | byteOrderMark
  deriving DecidableEq, Repr

/-- The words for a cause. -/
def Cause.text : Cause → String
  | expectingValue => "Expecting value"
  | expectingPropertyName => "Expecting property name enclosed in double quotes"
  | expectingColon => "Expecting ':' delimiter"
  | expectingComma => "Expecting ',' delimiter"
  | extraData => "Extra data"
  | unterminatedString => "Unterminated string starting at"
  | invalidEscape => "Invalid \\escape"
  | invalidUnicodeEscape => "Invalid \\uXXXX escape"
  | invalidControl => "Invalid control character at"
  | byteOrderMark => "Unexpected UTF-8 BOM (decode using utf-8-sig)"

/-- A place in a text: line and column count from one, the offset from zero. -/
structure Place where
  /-- The line. -/
  line : Nat
  /-- The column. -/
  column : Nat
  /-- The number of characters before. -/
  offset : Nat
  deriving DecidableEq, Repr

/-- The place that many characters into a text. -/
def Place.ofOffset (text : List Char) (offset : Nat) : Place :=
  let before := text.take offset
  ⟨before.count '\n' + 1, (before.reverse.takeWhile (· != '\n')).length + 1, offset⟩

/-- Why a text is not read. -/
inductive ReadFault where
  /-- It is not JSON. -/
  | malformed (cause : Cause) (place : Place)
  /-- It holds an integer with too many digits. -/
  | integerTooLong
  deriving DecidableEq, Repr

/-- The message of a fault: cause, line, column and offset. -/
def ReadFault.message? : ReadFault → Option String
  | malformed cause place =>
    some (cause.text ++ ": line " ++ toString place.line ++ " column " ++ toString place.column ++
      " (char " ++ toString place.offset ++ ")")
  | integerTooLong => none

/-- A fault while reading: its cause and how many characters were left. -/
inductive Stop where
  /-- A malformed place. -/
  | at (cause : Cause) (left : Nat)
  /-- An integer with too many digits. -/
  | integerTooLong

/-- The fault in a text that a stop amounts to. -/
def Stop.toFault (text : List Char) : Stop → ReadFault
  | .at cause left => .malformed cause (.ofOffset text (text.length - left))
  | .integerTooLong => .integerTooLong

/-- Stop with a cause in front of the remaining characters. -/
def stop {α : Type} (cause : Cause) (rest : List Char) : Except Stop α :=
  .error (.at cause rest.length)

/-! ### Blanks and numbers -/

/-- The characters that may stand between the parts of a text. -/
def isBlank (c : Char) : Bool :=
  c == ' ' || c == '\t' || c == '\n' || c == '\r'

/-- The text without the blanks in front. -/
def skipBlanks (cs : List Char) : List Char := cs.dropWhile isBlank

/-- The number of a string of digits. -/
def digitsValue (digits : List Char) : Nat :=
  digits.foldl (fun n c => n * 10 + (c.toNat - 48)) 0

/-- The digits of a fraction: a point and at least one digit, or nothing. -/
def readFraction : List Char → List Char × List Char
  | '.' :: rest =>
    match rest.takeWhile Char.isDigit with
    | [] => ([], '.' :: rest)
    | digits => (digits, rest.dropWhile Char.isDigit)
  | rest => ([], rest)

/-- The exponent of a number, if a whole one stands here. -/
def readExponent : List Char → Option Int × List Char
  | e :: rest =>
    if e == 'e' || e == 'E' then
      let (negative, unsigned) := match rest with
        | '-' :: more => (true, more)
        | '+' :: more => (false, more)
        | more => (false, more)
      match unsigned.takeWhile Char.isDigit with
      | [] => (none, e :: rest)
      | digits =>
        (some (Binary64.signed negative (digitsValue digits)), unsigned.dropWhile Char.isDigit)
    else (none, e :: rest)
  | [] => (none, [])

/-- **A number** after its sign: an integer unless it has a fraction or an exponent. `none` when
no digit stands here. -/
def readNumber? (negative : Bool) (cs : List Char) :
    Option (Except Stop (Value × List Char)) :=
  let whole := match cs with
    | '0' :: _ => ['0']
    | _ => cs.takeWhile Char.isDigit
  if whole.isEmpty then none
  else
    let (fraction, rest) := readFraction (cs.drop whole.length)
    let (exponent, rest) := readExponent rest
    if fraction.isEmpty && exponent.isNone then
      if whole.length ≤ Decimal.maxDigits then
        some (.ok (.scalar (.int (Binary64.signed negative (digitsValue whole))), rest))
      else some (.error .integerTooLong)
    else
      let number := Binary64.ofDecimal negative (digitsValue (whole ++ fraction))
        (exponent.getD 0 - fraction.length)
      some (.ok (.scalar (.float number), rest))

/-! ### Texts -/

/-- The value of a hexadecimal digit. -/
def hexValue? (c : Char) : Option Nat :=
  if c.isDigit then some (c.toNat - 48)
  else if 'a' ≤ c && c ≤ 'f' then some (c.toNat - 87)
  else if 'A' ≤ c && c ≤ 'F' then some (c.toNat - 55)
  else none

/-- The code unit of four hexadecimal digits that are not the last characters of the text. -/
def readUnit? : List Char → Option (Nat × List Char)
  | a :: b :: c :: d :: next :: rest => do
    let a ← hexValue? a
    let b ← hexValue? b
    let c ← hexValue? c
    let d ← hexValue? d
    return (((a * 16 + b) * 16 + c) * 16 + d, next :: rest)
  | _ => none

/-- Whether a code unit is the first half of a pair. -/
def isHighHalf (unit : Nat) : Bool := 0xd800 ≤ unit && unit ≤ 0xdbff

/-- Whether a code unit is the second half of a pair. -/
def isLowHalf (unit : Nat) : Bool := 0xdc00 ≤ unit && unit ≤ 0xdfff

/-- The character of a code unit; half of a pair has none, and is replaced. -/
def unitChar (unit : Nat) : Char :=
  if 0xd800 ≤ unit && unit ≤ 0xdfff then '\ufffd' else Char.ofNat unit

/-- Whether at least two characters follow six others. -/
def hasPairRoom (rest : List Char) : Bool := !(rest.drop 6).isEmpty

/-- **A numeric escape** after its letter; `left` counts from the letter on. Two halves of
a pair make one character. -/
def readNumericEscape (rest : List Char) : Except Stop (Char × List Char) :=
  match readUnit? rest with
  | none => .error (.at .invalidUnicodeEscape (rest.length + 1))
  | some (high, after) =>
    match after with
    | '\\' :: 'u' :: more =>
      if isHighHalf high && hasPairRoom after then
        match readUnit? more with
        | none => .error (.at .invalidUnicodeEscape (more.length + 1))
        | some (low, last) =>
          if isLowHalf low then
            .ok (Char.ofNat (0x10000 + (high - 0xd800) * 0x400 + (low - 0xdc00)), last)
          else .ok (unitChar high, after)
      else .ok (unitChar high, after)
    | _ => .ok (unitChar high, after)

/-- The character of an escape letter. -/
def escapeChar? (c : Char) : Option Char :=
  match c with
  | '"' => some '"'
  | '\\' => some '\\'
  | '/' => some '/'
  | 'b' => some '\x08'
  | 'f' => some '\x0c'
  | 'n' => some '\n'
  | 'r' => some '\r'
  | 't' => some '\t'
  | _ => none

/-- **The characters of a text** up to its closing quote. `opened` characters were left at its
opening quote; `seen` are the characters so far, last first. -/
def readText (opened : Nat) :
    (bound : Nat) → (seen : List Char) → List Char → Except Stop (List Char × List Char)
  | 0, _, _ => .error (.at .unterminatedString opened)
  | bound + 1, seen, cs =>
    match cs with
    | [] => .error (.at .unterminatedString opened)
    | '"' :: rest => .ok (seen.reverse, rest)
    | ['\\'] => .error (.at .unterminatedString opened)
    | '\\' :: 'u' :: rest => do
      let (c, rest) ← readNumericEscape rest
      readText opened bound (c :: seen) rest
    | '\\' :: c :: rest =>
      match escapeChar? c with
      | some c => readText opened bound (c :: seen) rest
      | none => stop .invalidEscape cs
    | c :: rest =>
      if c < ' ' then stop .invalidControl cs
      else readText opened bound (c :: seen) rest

/-- A text after its opening quote. -/
def readQuoted (cs : List Char) : Except Stop (String × List Char) := do
  let (s, rest) ← readText (cs.length + 1) (cs.length + 1) [] cs
  return (String.ofList s, rest)

/-! ### Values -/

/-- The text after a word, if it starts with it. -/
def afterWord? (word : String) (cs : List Char) : Option (List Char) :=
  if word.toList.isPrefixOf cs then some (cs.drop word.length) else none

/-- The names of values. -/
def namedValues : List (String × Scalar) :=
  [("null", .null), ("true", .bool true), ("false", .bool false), ("NaN", .float .nan),
    ("Infinity", .float (.infinite false)), ("-Infinity", .float (.infinite true))]

/-- A value that is written as a name, or a number. -/
def readAtom (cs : List Char) : Except Stop (Value × List Char) :=
  match namedValues.findSome? fun (word, s) => (afterWord? word cs).map (Value.scalar s, ·) with
  | some found => .ok found
  | none =>
    let number := match cs with
      | '-' :: rest => readNumber? true rest
      | _ => readNumber? false cs
    number.getD (stop .expectingValue cs)

mutual

/-- **A value** that starts at the first character. -/
def readValue : (bound : Nat) → List Char → Except Stop (Value × List Char)
  | 0, cs => stop .expectingValue cs
  | bound + 1, cs =>
    match cs with
    | '"' :: rest => do
      let (s, rest) ← readQuoted rest
      return (.text s, rest)
    | '[' :: rest =>
      match skipBlanks rest with
      | ']' :: rest => .ok (.list [], rest)
      | rest => readItems bound [] rest
    | '\x7b' :: rest =>
      match skipBlanks rest with
      | '\x7d' :: rest => .ok (.map [], rest)
      | rest => readEntries bound [] rest
    | _ => readAtom cs

/-- The items of a sequence from the next one on; `seen` are those before, last first. -/
def readItems : (bound : Nat) → (seen : List Value) → List Char →
    Except Stop (Value × List Char)
  | 0, _, cs => stop .expectingValue cs
  | bound + 1, seen, cs => do
    let (item, rest) ← readValue bound cs
    match skipBlanks rest with
    | ']' :: rest => return (.list (item :: seen).reverse, rest)
    | ',' :: rest => readItems bound (item :: seen) (skipBlanks rest)
    | rest => stop .expectingComma rest

/-- The entries of a mapping from the next key on; `seen` are those before, last first. -/
def readEntries : (bound : Nat) → (seen : List (Scalar × Value)) → List Char →
    Except Stop (Value × List Char)
  | 0, _, cs => stop .expectingPropertyName cs
  | bound + 1, seen, cs =>
    match cs with
    | '"' :: rest => do
      let (key, rest) ← readQuoted rest
      match skipBlanks rest with
      | ':' :: rest => do
        let (value, rest) ← readValue bound (skipBlanks rest)
        let seen := (Scalar.str key, value) :: seen
        match skipBlanks rest with
        | '\x7d' :: rest => return (.ofEntries seen.reverse, rest)
        | ',' :: rest => readEntries bound seen (skipBlanks rest)
        | rest => stop .expectingComma rest
      | rest => stop .expectingColon rest
    | _ => stop .expectingPropertyName cs

end

/-- The one value of a text, with blanks around it. -/
def readWhole (cs : List Char) : Except Stop Value := do
  if cs.head? = some '\ufeff' then stop .byteOrderMark cs
  let (value, rest) ← readValue (2 * cs.length + 2) (skipBlanks cs)
  match skipBlanks rest with
  | [] => return value
  | rest => stop .extraData rest

/-- **The value of a JSON text.** -/
def read (cs : List Char) : Except ReadFault Value :=
  (readWhole cs).mapError (Stop.toFault cs)

end OperationCatalog.Json
