import OperationCatalog.Text.Width

/-!
# Text in lines of limited width

A line that is too wide is broken between its words. A word keeps the blanks after it, and these may
stand beyond the width: only what can be seen must fit. A word that is wider than a line is cut into
pieces that fill lines, and the first piece starts a line. A tab goes on to the next of the columns
that are multiples of eight.

What is still beyond the width after that is blanks. They are dropped, though no more of them than
there are characters too many, and then the line is cut off.
-/

namespace OperationCatalog.Text

/-! ### Tabs -/

/-- The blanks from a column to the next stop, if it is not at one. -/
def toStop (column : Nat) : Nat := if column % 8 = 0 then 0 else 8 - column % 8

/-- Parts of a line with a tab between each two, from a column on: a tab is at least one blank. -/
def joinTabs (column : Nat) : List (List Char) → List Char
  | [] => []
  | [part] => part
  | part :: rest =>
    let after := column + width (part ++ [' '])
    part ++ List.replicate (1 + toStop after) ' ' ++ joinTabs (after + toStop after) rest

/-- **A line with its tabs written as blanks.** -/
def withoutTabs (line : List Char) : List Char := joinTabs 0 (line.splitOn '\t')

/-! ### Words -/

/-- The blank characters between words. -/
def separatesWords (c : Char) : Bool :=
  let n := c.toNat
  (9 ≤ n && n ≤ 13) || (0x1c ≤ n && n ≤ 0x20) || n == 0x85 || n == 0xa0 || n == 0x1680 ||
    (0x2000 ≤ n && n ≤ 0x200a) || n == 0x2028 || n == 0x2029 || n == 0x202f || n == 0x205f ||
    n == 0x3000

/-- The words after some characters of a word, each with the blanks after it. -/
def wordsFrom : (word : List Char) → List Char → List (List Char)
  | word, [] => if word.isEmpty then [] else [word.reverse]
  | word, c :: rest =>
    let ended := match word with
      | last :: _ => separatesWords last && !separatesWords c && word.any (!separatesWords ·)
      | [] => false
    if ended then word.reverse :: wordsFrom [c] rest else wordsFrom (c :: word) rest

/-- **The words of a line**, each with the blanks after it; the first one has those before it, too.
-/
def words (line : List Char) : List (List Char) := wordsFrom [] line

/-- A word without the blanks after it. -/
def withoutBlanks (word : List Char) : List Char :=
  (word.reverse.dropWhile separatesWords).reverse

/-! ### Lines -/

/-- Cut clusters into pieces that are not wider than a limit; `piece` is the current one and `used`
its width. A last piece without width is left out. -/
def piecesFrom (limit : Nat) : (piece : List Char) → (used : Nat) → List Cluster → List (List Char)
  | piece, used, [] => if used = 0 then [] else [piece]
  | piece, used, k :: rest =>
    if limit < used + k.width then piece :: piecesFrom limit k.chars k.width rest
    else piecesFrom limit (piece ++ k.chars) (used + k.width) rest

/-- The lines of some words after a line that has begun; `used` is the width of what it holds. -/
def linesFrom (limit : Nat) : (line : List Char) → (used : Nat) → List (List Char) →
    List (List Char)
  | line, _, [] => [line]
  | line, used, word :: rest =>
    let seen := width (withoutBlanks word)
    if used + seen ≤ limit then linesFrom limit (line ++ word) (used + width word) rest
    else
      let before := if line.isEmpty then [] else [line]
      if seen ≤ limit then before ++ linesFrom limit word (width word) rest
      else
        let pieces := piecesFrom limit [] 0 (clusters word)
        let last := pieces.getLastD []
        before ++ pieces.dropLast ++ linesFrom limit last (width last) rest

/-- A line without the blanks at its end, as far as it has more characters than a limit. -/
def withinLimit (limit : Nat) (line : List Char) : List Char :=
  let blanks := line.length - (withoutBlanks line).length
  line.take (line.length - min blanks (line.length - limit))

/-- **The lines of a text** in a width. -/
def wrapped (limit : Nat) (text : List Char) : List (List Char) :=
  (text.splitOn '\n').flatMap fun line =>
    (linesFrom limit [] 0 (words (withoutTabs line))).map fun line =>
      cut limit (withinLimit limit line)

end OperationCatalog.Text
