import OperationCatalog.Files.Path
import OperationCatalog.Text.Lines

/-!
# Files and directories

The files a run works on are a value: a tree of directories with a current one. Reading
looks a path up in it, and writing gives another tree; nothing else changes, which
is why a run that fails before it writes leaves all files as they were. Only directories are made
one by one, so some of them may be there where others could not be made.

A path is followed component by component from the current directory or the root. Each
component but the last must lead to a directory, and two dots lead to the directory
around (`OperationCatalog.Workspace.locate`).
-/

namespace OperationCatalog

/-- A file with its bytes, or a directory with its entries. -/
inductive FileTree where
  /-- A file. -/
  | file (content : ByteArray)
  /-- A directory. -/
  | dir (entries : List (String × FileTree))

/-- Why a path does not lead to what is wanted. -/
inductive FileFault where
  /-- It leads nowhere. -/
  | notFound
  /-- A component before the last is a file. -/
  | notADirectory
  /-- A file is wanted and a directory is there. -/
  | isADirectory
  /-- A directory is wanted and a file is there. -/
  | exists
  /-- The path holds a character no path can hold. -/
  | badName
  /-- The path, or one of its components, is longer than names can be. -/
  | nameTooLong
  /-- The bytes of the file are not text. -/
  | notText
  deriving DecidableEq, Repr

namespace FileTree

/-- The entries of a directory. -/
def entries : FileTree → List (String × FileTree)
  | file _ => []
  | dir entries => entries

/-- Whether this is a directory. -/
def isDir : FileTree → Bool
  | file _ => false
  | dir _ => true

/-- The file or directory at some names from here. -/
def at? : List String → FileTree → Option FileTree
  | [], t => some t
  | name :: names, t => (t.entries.lookup name).bind (at? names)

/-- Put an entry in the place of the one with its name, or last. -/
def putEntry (name : String) (t : FileTree) : List (String × FileTree) → List (String × FileTree)
  | [] => [(name, t)]
  | (n, u) :: rest => if n == name then (n, t) :: rest else (n, u) :: putEntry name t rest

/-- **Put a file or directory at some names from here**; missing directories on the way are
made. -/
def put (new : FileTree) : List String → FileTree → FileTree
  | [], _ => new
  | name :: names, t =>
    dir (putEntry name (put new names ((t.entries.lookup name).getD (dir []))) t.entries)

/-! ### Everything in a directory -/

mutual

/-- The paths of all files in a directory, at any depth, below a path. -/
def filesIn (path : List String) : FileTree → List (List String)
  | .file _ => [path]
  | .dir entries => filesInEntries path entries

/-- The paths of all files in some entries. -/
def filesInEntries (path : List String) : List (String × FileTree) → List (List String)
  | [] => []
  | (name, t) :: rest => filesIn (path ++ [name]) t ++ filesInEntries path rest

end

mutual

/-- The places of all directories from here on, below a path, the outer ones first. -/
def directoriesIn (path : List String) : FileTree → List (List String)
  | .file _ => []
  | .dir entries => path :: directoriesInEntries path entries

/-- The places of all directories in some entries. -/
def directoriesInEntries (path : List String) : List (String × FileTree) → List (List String)
  | [] => []
  | (name, t) :: rest => directoriesIn (path ++ [name]) t ++ directoriesInEntries path rest

end

/-- The directories that one tree has where another has nothing, the outer ones first. -/
def newDirectories (before after : FileTree) : List (List String) :=
  (directoriesIn [] after).filter fun place => (before.at? place).isNone

/-- The files that one tree has and another has not, or not with the same content, with their
content. -/
def changes (before after : FileTree) : List (List String × ByteArray) :=
  (filesIn [] after).filterMap fun place =>
    match after.at? place, before.at? place with
    | some (.file new), some (.file old) => if old == new then none else some (place, new)
    | some (.file new), _ => some (place, new)
    | _, _ => none

end FileTree

/-- **The files of a run**: a tree and the names that lead to the current directory. -/
structure Workspace where
  /-- Everything from the root on. -/
  root : FileTree
  /-- The current directory. -/
  current : List String

namespace Workspace

/-- How many bytes a component may have. -/
def maxNameSize : Nat := 255

/-- How many bytes a path may have. -/
def maxPathSize : Nat := 4095

/-- Follow one component from a directory. -/
def step (w : Workspace) (here : List String) (part : String) : Except FileFault (List String) :=
  match w.root.at? here with
  | some (.dir entries) =>
    if part == "" || part == "." then .ok here
    else if part == ".." then .ok here.dropLast
    else if maxNameSize < part.utf8ByteSize then .error .nameTooLong
    else if (entries.lookup part).isSome then .ok (here ++ [part])
    else .error .notFound
  | some (.file _) => .error .notADirectory
  | none => .error .notFound

/-- **The place that a text leads to**, as names from the root. A slash at the end wants a
directory. -/
def locate (w : Workspace) (text : String) : Except FileFault (List String) :=
  if text.toList.contains '\x00' then .error .badName
  else if text == "" then .error .notFound
  else if maxPathSize < text.utf8ByteSize then .error .nameTooLong
  else
    (Path.components text).foldlM w.step (if text.startsWith "/" then [] else w.current)

/-- What a text leads to. -/
def lookup (w : Workspace) (text : String) : Except FileFault FileTree :=
  (w.locate text).bind fun place =>
    match w.root.at? place with
    | some t => .ok t
    | none => .error .notFound

/-- Whether a text leads to a file. -/
def isFile (w : Workspace) (text : String) : Bool :=
  match w.lookup text with
  | .ok (.file _) => true
  | _ => false

/-- Whether a text leads to a directory. -/
def isDir (w : Workspace) (text : String) : Bool :=
  match w.lookup text with
  | .ok (.dir _) => true
  | _ => false

/-- Whether a text leads anywhere. -/
def contains (w : Workspace) (text : String) : Bool :=
  match w.lookup text with
  | .ok _ => true
  | .error _ => false

/-- The current directory as a path. -/
def currentPath (w : Workspace) : Path := ⟨"/", w.current⟩

/-! ### Reading -/

/-- The text of a file, as its bytes say. -/
def readRaw (w : Workspace) (path : Path) : Except FileFault String :=
  (w.lookup path.text).bind fun
    | .dir _ => .error .isADirectory
    | .file content =>
      match String.fromUTF8? content with
      | some text => .ok text
      | none => .error .notText

/-- **The text of a file**, with unified line breaks. -/
def readText (w : Workspace) (path : Path) : Except FileFault String :=
  (w.readRaw path).map Text.withUnifiedNewlines

/-! ### Writing -/

/-- Make one directory, whose parent must be there. One that is there already is left. -/
def makeDirectory (w : Workspace) (path : Path) : Except FileFault Workspace :=
  match w.lookup path.text with
  | .ok (.dir _) => .ok w
  | .ok (.file _) => .error .exists
  | .error .notFound => do
    let place ← w.locate path.parent.text
    match w.root.at? place with
    | some (.dir _) =>
      return { w with root := FileTree.put (.dir []) (place ++ [path.name]) w.root }
    | _ => .error .notADirectory
  | .error fault => .error fault

/-- The files after an attempt to change them, and how it went. If it failed, they are as they
were. -/
def attempt (w : Workspace) : Except FileFault Workspace → Workspace × Except FileFault Unit
  | .ok changed => (changed, .ok ())
  | .error fault => (w, .error fault)

/-- **Make a directory** and those it is in, from the outermost missing one on. If one of them cannot
be made, those that were made before it stay. The bound is the number of components. -/
def makeDirectories (w : Workspace) : (bound : Nat) → Path → Workspace × Except FileFault Unit
  | 0, path => w.attempt (w.makeDirectory path)
  | bound + 1, path =>
    match w.makeDirectory path with
    | .error .notFound =>
      if path.parts.isEmpty then (w, .error .notFound)
      else
        match w.makeDirectories bound path.parent with
        | (made, .ok ()) => made.attempt (made.makeDirectory path)
        | failed => failed
    | other => w.attempt other

/-- **The place at which a file is written**, as names from the root. Its directory must be there,
and no directory may be at the place itself. -/
def target (w : Workspace) (path : Path) : Except FileFault (List String) :=
  match w.lookup path.text with
  | .ok (.dir _) => .error .isADirectory
  | .error .badName => .error .badName
  | .error .nameTooLong => .error .nameTooLong
  | .error .notADirectory => .error .notADirectory
  | _ => do
    let place ← w.locate path.parent.text
    match w.root.at? place with
    | some (.dir _) => return place ++ [path.name]
    | _ => .error .notADirectory

/-- The files after one was put at a place. -/
def putFile (w : Workspace) (place : List String) (content : ByteArray) : Workspace :=
  { w with root := FileTree.put (.file content) place w.root }

/-- **Write a file** whose directory is there. -/
def write (w : Workspace) (path : Path) (content : ByteArray) : Except FileFault Workspace :=
  (w.target path).map fun place => w.putFile place content

/-- Make the directories that a path is in. -/
def makeParents (w : Workspace) (path : Path) : Workspace × Except FileFault Unit :=
  w.makeDirectories path.parent.parts.length path.parent

/-! ### Everything in a directory -/

/-- **The files below a path**, at any depth. -/
def filesBelow (w : Workspace) (path : Path) : List Path :=
  match w.lookup path.text with
  | .ok t => (FileTree.filesIn [] t).map fun parts => { path with parts := path.parts ++ parts }
  | .error _ => []

end Workspace

end OperationCatalog
