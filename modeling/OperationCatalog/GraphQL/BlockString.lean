/-!
# Block strings

A block string is written over several lines between triple quotes, indented like the text
around it. Its value leaves out what only that text needs: the indentation common to all lines
but the first, and the blank lines at either end.
-/

namespace OperationCatalog.GraphQL.BlockString

/-- Whether a character indents a line. -/
def isIndent (c : Char) : Bool := c == ' ' || c == '\t'

/-- Whether a line has nothing but indentation. -/
def isBlankLine (line : List Char) : Bool := line.all isIndent

/-- The indentation of a line. -/
def indentation (line : List Char) : Nat := (line.takeWhile isIndent).length

/-- **The indentation common to all lines but the first**, blank lines left out; `none` if no line
counts. -/
def commonIndent (lines : List (List Char)) : Option Nat :=
  ((lines.tail.filter (!isBlankLine ·)).map indentation).min?

/-- The lines without the blank ones at either end. -/
def withoutBlankEnds (lines : List (List Char)) : List (List Char) :=
  ((lines.dropWhile isBlankLine).reverse.dropWhile isBlankLine).reverse

/-- **The lines of the value.** -/
def dedent (lines : List (List Char)) : List (List Char) :=
  match lines with
  | [] => []
  | first :: rest =>
    withoutBlankEnds <| first :: rest.map fun line =>
      line.drop ((commonIndent lines).getD line.length)

/-- The value of a block string from its lines. -/
def value (lines : List (List Char)) : List Char :=
  List.intercalate ['\n'] (dedent lines)

end OperationCatalog.GraphQL.BlockString
