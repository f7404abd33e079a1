/-!
# Lines of a text

A line ends with a line feed, a carriage return, or the two together. All of them are one
line break (`OperationCatalog.Text.unifyNewlines`).

* **Reading a file** unifies its line breaks, so a scanner that is given a file never sees a
  carriage return.
* **Locating a fault** counts lines: `OperationCatalog.Text.Position.ofPreceding` is the line and
  column of what follows a text.
* **Writing** ends each line with a line feed (`OperationCatalog.Text.unlines`).
-/

namespace OperationCatalog.Text

/-! ### One spelling of the line break -/

/-- **Unified line breaks**: a carriage return, with the line feed after it if
there is one, becomes one line feed. -/
def unifyNewlines : List Char → List Char
  | [] => []
  | '\r' :: '\n' :: rest => '\n' :: unifyNewlines rest
  | '\r' :: rest => '\n' :: unifyNewlines rest
  | c :: rest => c :: unifyNewlines rest

/-- The same on a string. -/
def withUnifiedNewlines (text : String) : String :=
  String.ofList (unifyNewlines text.toList)

/-! ### Writing lines -/

/-- **The text of some lines**, each with a line feed at its end. -/
def unlines (lines : List String) : String := String.join (lines.map (· ++ "\n"))

/-! ### Positions -/

/-- A line and a column, both counted from one. -/
structure Position where
  /-- The line. -/
  line : Nat
  /-- The column, in characters. -/
  column : Nat
  deriving Repr, DecidableEq

/-- **The position of what follows a text**: one line more than it has line breaks, and one column
past what it has after the last of them. -/
def Position.ofPreceding (text : List Char) : Position :=
  let unified := unifyNewlines text
  ⟨unified.count '\n' + 1, (unified.reverse.takeWhile (· != '\n')).length + 1⟩

end OperationCatalog.Text
