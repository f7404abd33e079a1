import OperationCatalog.GraphQL.Document
import OperationCatalog.Json.Reader

/-!
# What a literal stands for

Without a type to go by, a literal stands for the value it looks like: a number for a number,
text for text, and a name for its own text. Of two fields of one name in an object, the later one
counts. An integer with more digits than are read stands for a number that is none.
-/

namespace OperationCatalog.GraphQL

/-- The sign and the rest of the text of a number. -/
def splitSign : List Char → Bool × List Char
  | '-' :: rest => (true, rest)
  | rest => (false, rest)

/-- The integer that a text writes, if it has not too many digits. -/
def intOf? (text : String) : Option Int :=
  let (negative, digits) := splitSign text.toList
  if digits.length ≤ Decimal.maxDigits then
    some (Binary64.signed negative (Json.digitsValue digits))
  else none

/-- The floating-point number that a text writes. -/
def floatOf (text : String) : Binary64 :=
  let (negative, rest) := splitSign text.toList
  let whole := rest.takeWhile Char.isDigit
  let (fraction, rest) := Json.readFraction (rest.dropWhile Char.isDigit)
  let (exponent, _) := Json.readExponent rest
  Binary64.ofDecimal negative (Json.digitsValue (whole ++ fraction))
    (exponent.getD 0 - fraction.length)

mutual

/-- **The value of a literal** without a type. -/
def Literal.value : Literal → Value
  | .variableName _ => .null
  | .int text =>
    match intOf? text with
    | some i => .scalar (.int i)
    | none => .scalar (.float .nan)
  | .float text => .scalar (.float (floatOf text))
  | .string s => .text s
  | .bool b => .scalar (.bool b)
  | .null => .null
  | .enum name => .text name
  | .list items => .list (itemValues items)
  | .object fields => .ofEntries (fieldValues fields)

/-- The values of the items of a list. -/
def itemValues : List Literal → List Value
  | [] => []
  | item :: rest => item.value :: itemValues rest

/-- The values of the fields of an object. -/
def fieldValues : List (String × Literal) → List (Scalar × Value)
  | [] => []
  | (name, field) :: rest => (.str name, field.value) :: fieldValues rest

end

end OperationCatalog.GraphQL
