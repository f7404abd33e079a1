import OperationCatalog.Json.Writer

/-!
# Literals of generated code

Three kinds of literal stand in a generated module. A text stands between single
quotes, with the four characters that could end it early or break its line escaped;
a truth value is one of two words; and an opaque value is its compact JSON text,
which is an expression of the language as it is.
-/

namespace OperationCatalog.TypeScript

/-- One character of a text literal. -/
def escapeChar (c : Char) : List Char :=
  if c == '\\' then ['\\', '\\']
  else if c == '\'' then ['\\', '\'']
  else if c == '\n' then ['\\', 'n']
  else if c == '\r' then ['\\', 'r']
  else [c]

/-- **A text literal**, in characters. -/
def textChars (s : List Char) : List Char :=
  '\'' :: s.flatMap escapeChar ++ ['\'']

/-- A text literal. -/
def textLiteral (s : String) : String := String.ofList (textChars s.toList)

/-- A truth value. -/
def boolLiteral (b : Bool) : String := if b then "true" else "false"

/-- An opaque value, if it has a JSON text. -/
def valueLiteral (g : ValueGraph) : Except Json.WriteFault String := Json.compactText g

end OperationCatalog.TypeScript
