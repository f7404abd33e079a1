import OperationCatalog.Files.Tree

/-!
# Patterns of file names

A pattern is a path in which some components stand for many names. Within a component a star stands
for any characters, a question mark for one, and brackets for one of a set. A component that is two
stars stands for any number of directories. A name that starts with a dot is only found by a pattern
that does too. A pattern whose directories cannot be listed is a fault; one whose directories are
not there finds nothing.

`OperationCatalog.Glob.NamePattern` is one component, read into its items, and
`OperationCatalog.Glob.expand` walks the directories of a workspace along a whole pattern. A
pattern that ends with a slash finds directories only, and a pattern without special characters
finds itself if it is there.
-/

namespace OperationCatalog.Glob

/-! ### One component -/

/-- One item of the pattern of a name. -/
inductive Item where
  /-- This character. -/
  | char (c : Char)
  /-- Any character. -/
  | any
  /-- Any characters. -/
  | many
  /-- A character that lies in one of these ranges, or in none of them. -/
  | oneOf (negated : Bool) (ranges : List (Char × Char))
  deriving DecidableEq, Repr

/-- The pattern of a name. -/
abbrev NamePattern := List Item

/-- Whether a text has a character that is special in patterns. -/
def hasMagic (s : String) : Bool := s.toList.any fun c => c == '*' || c == '?' || c == '['

/-- A set as runs of characters: between the last of one run and the first of the next lies a
range. `run` is the current run, last first, and `apart` how many more characters must come
before a hyphen makes a range. -/
def rangeRuns : (run : List Char) → (apart : Nat) → List Char → List (List Char)
  | run, _, [] => [run.reverse]
  | run, 0, '-' :: rest => run.reverse :: rangeRuns [] 2 rest
  | run, apart, c :: rest => rangeRuns (c :: run) (apart - 1) rest

/-- A last run without characters means that the hyphen before it was no range. -/
def closeRuns : List (List Char) → List (List Char)
  | [run, []] => [run ++ ['-']]
  | run :: rest => run :: closeRuns rest
  | [] => []

/-- Drop the ranges that run downwards, with their ends, from the last on. -/
def dropDescending : List (List Char) → List (List Char)
  | [] => []
  | run :: rest =>
    match dropDescending rest with
    | [] => [run]
    | next :: more =>
      match run.getLast?, next.head? with
      | some low, some high =>
        if high < low then (run.dropLast ++ next.tail) :: more else run :: next :: more
      | _, _ => run :: next :: more

/-- The ranges of a list of runs. `low` is the end of the run before, if it may start a range. -/
def runRanges : (low : Option Char) → List (List Char) → List (Char × Char)
  | low, [] => (low.map fun c => (c, c)).toList
  | low, [] :: rest => runRanges low rest
  | some low, (high :: middle) :: rest =>
    match middle.getLast? with
    | none => (low, high) :: (if rest.isEmpty then [] else ('-', '-') :: runRanges none rest)
    | some last =>
      (low, high) :: (middle.dropLast.map fun c => (c, c)) ++ runRanges (some last) rest
  | none, (c :: more) :: rest =>
    (((c :: more).dropLast.map fun c => (c, c)) ++ runRanges (c :: more).getLast? rest)

/-- **A set of characters** from the text between its brackets, without the mark of negation. A set
without characters holds none. A mark of negation that comes first because the range before it
was dropped counts as one. -/
def charSet (negated : Bool) (content : List Char) : Item :=
  match negated, dropDescending (closeRuns (rangeRuns [] 1 content)) with
  | false, ('!' :: run) :: rest => .oneOf true (runRanges none (run :: rest))
  | negated, runs => .oneOf negated (runRanges none runs)

/-- Where a set ends: the text between the brackets and the text after them. A closing bracket that
comes first belongs to the set. -/
def splitSet? (rest : List Char) : Option (List Char × List Char) :=
  let first := rest.take 1
  if first.isEmpty then none
  else
    let inside := (rest.drop 1).takeWhile (· != ']')
    match (rest.drop 1).drop inside.length with
    | ']' :: after => some (first ++ inside, after)
    | _ => none

/-- The items of a pattern; a bracket that opens no set stands for itself. The bound is the number
of characters. -/
def items : (bound : Nat) → List Char → NamePattern
  | 0, _ => []
  | _, [] => []
  | bound + 1, '*' :: rest => .many :: items bound rest
  | bound + 1, '?' :: rest => .any :: items bound rest
  | bound + 1, '[' :: rest =>
    let (negated, body) := match rest with
      | '!' :: body => (true, body)
      | body => (false, body)
    match splitSet? body with
    | some (content, after) => charSet negated content :: items bound after
    | none => .char '[' :: items bound rest
  | bound + 1, c :: rest => .char c :: items bound rest

/-- **The pattern that a text writes.** -/
def NamePattern.ofString (s : String) : NamePattern := items s.length s.toList

/-- A text and all its ends. -/
def ends : List Char → List (List Char)
  | [] => [[]]
  | c :: rest => (c :: rest) :: ends rest

/-- Whether an item stands for a character. -/
def Item.admits (c : Char) : Item → Bool
  | char d => c == d
  | any => true
  | many => true
  | oneOf negated ranges => ranges.any (fun (low, high) => low ≤ c && c ≤ high) != negated

/-- **Whether a name has a pattern.** -/
def NamePattern.admits : NamePattern → List Char → Bool
  | [], s => s.isEmpty
  | .many :: more, s => (ends s).any (NamePattern.admits more)
  | item :: more, c :: s => item.admits c && NamePattern.admits more s
  | _ :: _, [] => false

/-! ### Texts of paths -/

/-- Whether a name starts with a dot. -/
def isHidden (name : String) : Bool := name.startsWith "."

/-- Whether a component stands for any number of directories. -/
def isRecursive (component : String) : Bool := component == "**"

/-- **A text before and after its last slash.** Slashes between the two are dropped, unless nothing
else stands before. -/
def splitLast (s : String) : String × String :=
  let back := s.toList.reverse
  let name := (back.takeWhile (· != '/')).reverse
  let front := back.dropWhile (· != '/')
  let dir := front.dropWhile (· == '/')
  (String.ofList (if dir.isEmpty then front else dir).reverse, String.ofList name)

/-- A name below a directory, in writing. -/
def joinText (dir name : String) : String :=
  if name.startsWith "/" || dir == "" then name
  else if dir.endsWith "/" then dir ++ name
  else dir ++ "/" ++ name

/-- The same, where an empty text is no component. -/
def joinPlace (dir name : String) : String :=
  if dir == "" then name else if name == "" then dir else joinText dir name

/-! ### Walking -/

mutual

/-- The names below a directory, at any depth, hidden ones left out with all that is in them. -/
def namesBelow (dirsOnly : Bool) : FileTree → List String
  | .file _ => []
  | .dir entries => namesOfEntries dirsOnly entries

/-- The names of some entries and of all that is in them. -/
def namesOfEntries (dirsOnly : Bool) : List (String × FileTree) → List String
  | [] => []
  | (name, t) :: rest =>
    (if isHidden name || (dirsOnly && !t.isDir) then []
      else name :: (namesBelow dirsOnly t).map (joinText name)) ++ namesOfEntries dirsOnly rest

end

/-- Whether a directory can be listed at all: no path holds this character. -/
def isListable (place : String) : Bool := !place.toList.contains '\x00'

/-- The names in a directory of a workspace. -/
def namesIn (w : Workspace) (place : String) (dirsOnly : Bool) : List String :=
  match w.lookup place with
  | .ok (.dir entries) => (entries.filter fun (_, t) => !dirsOnly || t.isDir).map (·.1)
  | _ => []

/-- The names in a directory that a component with special characters stands for. Any number of
directories may be none, and then the component stands for the place itself, whatever is there. -/
def listedNames (w : Workspace) (place component : String) (dirsOnly : Bool) : List String :=
  if isRecursive component then
    "" :: (match w.lookup place with
      | .ok t => namesBelow dirsOnly t
      | .error _ => [])
  else
    let pattern := NamePattern.ofString component
    (namesIn w place dirsOnly).filter fun name =>
      (isHidden component || !isHidden name) && pattern.admits name.toList

/-- **The names in a directory that a component stands for.** -/
def matchingNames (w : Workspace) (place component : String) (dirsOnly : Bool) :
    Except FileFault (List String) :=
  if hasMagic component then
    if isListable place then .ok (listedNames w place component dirsOnly) else .error .badName
  else if component == "" then .ok (if w.isDir place then [""] else [])
  else .ok (if w.contains (joinPlace place component) then [component] else [])

/-- **The paths that a pattern stands for**, relative ones below a root. Each step looks at the last
component and leaves a shorter pattern, whose length is the bound. -/
def expandFrom (w : Workspace) (root : String) :
    (bound : Nat) → (pattern : String) → (dirsOnly : Bool) → Except FileFault (List String)
  | 0, _, _ => .ok []
  | bound + 1, pattern, dirsOnly =>
    let (dir, component) := splitLast pattern
    if !hasMagic pattern then
      if component == "" then .ok (if w.isDir (joinPlace root dir) then [pattern] else [])
      else .ok (if w.contains (joinPlace root pattern) then [pattern] else [])
    else if dir == "" then matchingNames w root component dirsOnly
    else do
      let dirs ←
        if dir != pattern && hasMagic dir then expandFrom w root bound dir true else .ok [dir]
      let found ← dirs.mapM fun found =>
        (matchingNames w (joinPlace root found) component dirsOnly).map fun names =>
          names.map (joinText found)
      return found.flatten

/-- **The paths that a pattern stands for.** The root itself, which a pattern of directories at any
depth stands for too, has no path and is left out. -/
def expand (w : Workspace) (root pattern : String) : Except FileFault (List String) :=
  (expandFrom w root (pattern.length + 1) pattern false).map fun found =>
    if pattern == "" || isRecursive (String.ofList (pattern.toList.take 2)) then
      match found with
      | "" :: rest => rest
      | all => all
    else found

end OperationCatalog.Glob
