/-!
# Paths

A path is written as components with slashes between, and two writings are the same
path when they have the same components: doubled slashes and components that are a
single dot say nothing and are dropped. Two dots are kept, for what they lead to depends on
the directories before them. A path is relative, or it starts at the root, which is written
with one slash or – a place of its own – with exactly two.

Paths are compared component by component, so a directory and what is in it stand
together: `a/b` comes before `a-b`, though the texts compare the other way.
-/

namespace OperationCatalog

/-- A path. -/
structure Path where
  /-- The slashes it starts with: none, one, or two. -/
  root : String
  /-- Its components. -/
  parts : List String
  deriving DecidableEq, Repr

namespace Path

/-- The slashes that a text starts with, as they count. -/
def rootOf (text : List Char) : String :=
  match text with
  | '/' :: '/' :: '/' :: _ => "/"
  | '/' :: '/' :: _ => "//"
  | '/' :: _ => "/"
  | _ => ""

/-- The components of a text between slashes. -/
def components (text : String) : List String :=
  (text.toList.splitOn '/').map String.ofList

/-- **The path that a text writes.** -/
def ofString (text : String) : Path :=
  ⟨rootOf text.toList, (components text).filter fun part => part != "" && part != "."⟩

/-- The text of a path; a relative path without components is a dot. -/
def text (p : Path) : String :=
  if p.parts.isEmpty && p.root == "" then "."
  else p.root ++ "/".intercalate p.parts

/-- Whether a path starts at the root. -/
def isAbsolute (p : Path) : Bool := p.root != ""

/-- The last component. -/
def name (p : Path) : String := p.parts.getLastD ""

/-- **The suffix of the last component**: its last point and what follows, unless the point is its
first or last character. -/
def suffix (p : Path) : String :=
  let back := p.name.toList.reverse
  let tail := back.takeWhile (· != '.')
  if tail.isEmpty || back.length ≤ tail.length + 1 then ""
  else String.ofList ('.' :: tail.reverse)

/-- The path without its last component; without components it stays as it is. -/
def parent (p : Path) : Path := { p with parts := p.parts.dropLast }

/-- The path that another one is, seen from this one. -/
def join (base p : Path) : Path :=
  if p.isAbsolute then p else { base with parts := base.parts ++ p.parts }

/-- The components with the root as the first of them. -/
def allParts (p : Path) : List String :=
  if p.isAbsolute then p.root :: p.parts else p.parts

/-- Whether some components come before others or are the same: the first that differ decide, and
fewer come before more. -/
def leParts : List String → List String → Bool
  | [], _ => true
  | _ :: _, [] => false
  | a :: as, b :: bs => if a = b then leParts as bs else decide (a ≤ b)

/-- **Whether one path comes before or is another**, component by component. -/
def le (p q : Path) : Bool := leParts p.allParts q.allParts

/-- Paths in ascending order, each once. -/
def sorted (paths : List Path) : List Path := (paths.eraseDups).mergeSort le

end Path

end OperationCatalog
