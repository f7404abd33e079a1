import OperationCatalog.TypeScript.Literal

/-!
# Code of constants

The constants of a generated module are nested literals: objects whose members are
literals, arrays of literals, and at the leaves expressions that fit on a line. Such code is a
tree, `OperationCatalog.TypeScript.Code`, and its layout is a matter of the tree alone: an
object or an array opens on the line it is mentioned on, has each of its parts on
lines of their own, two columns further in and followed by a comma, and closes on a line of its
own – also when it is empty.
-/

namespace OperationCatalog.TypeScript

/-- The code of a literal. -/
inductive Code where
  /-- An expression on one line. -/
  | line (text : String)
  /-- An array. -/
  | array (items : List Code)
  /-- An object: names and what they stand for. -/
  | object (members : List (String × Code))
  deriving Repr

namespace Code

/-- A text literal. -/
def text (s : String) : Code := line (textLiteral s)

/-- A truth value. -/
def bool (b : Bool) : Code := line (boolLiteral b)

/-- A line that is set in. -/
def indented (columns : Nat) (text : String) : String :=
  String.ofList (List.replicate columns ' ') ++ text

mutual

/-- **The lines of some code**, set in by some columns, between what stands before it on its first
line and after it on its last. -/
def lines (columns : Nat) (before after : String) : Code → List String
  | line text => [indented columns (before ++ text ++ after)]
  | array items =>
    indented columns (before ++ "[") :: itemLines (columns + 2) items ++
      [indented columns ("]" ++ after)]
  | object members =>
    indented columns (before ++ "\x7b") :: memberLines (columns + 2) members ++
      [indented columns ("\x7d" ++ after)]

/-- The lines of the items of an array. -/
def itemLines (columns : Nat) : List Code → List String
  | [] => []
  | item :: rest => lines columns "" "," item ++ itemLines columns rest

/-- The lines of the members of an object. -/
def memberLines (columns : Nat) : List (String × Code) → List String
  | [] => []
  | (name, value) :: rest => lines columns (name ++ ": ") "," value ++ memberLines columns rest

end

/-- The lines of an exported constant of a type. -/
def constantLines (columns : Nat) (name type : String) (value : Code) : List String :=
  lines columns ("export const " ++ name ++ ": " ++ type ++ " = ") ";" value

end Code

end OperationCatalog.TypeScript
