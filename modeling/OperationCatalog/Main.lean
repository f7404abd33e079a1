import OperationCatalog.Command.Run
import Std.Time

/-!
# The program

The program reads the files that a run may look at, runs the command line on them, writes what
changed and prints what was recorded and shown.

A run looks at the files below the current directory, at the files that an argument names, and – for
the patterns of a configuration file are relative to where it is – at those beside an argument that
is a YAML file. Links to directories are not followed, and nothing is looked for in more than
`OperationCatalog.Program.depth` directories one in another.
-/

namespace OperationCatalog.Program

/-- How deep files are looked for. -/
def depth : Nat := 64

/-- Whether an entry is a link to a directory. -/
def isDirectoryLink (entry : IO.FS.DirEntry) : IO Bool := do
  let isLink := (← entry.path.symlinkMetadata).type == .symlink
  return isLink && (← entry.path.isDir)

/-- **The tree at an entry of a directory.** Of a link to a directory only the directory is kept,
and of a link that leads nowhere nothing. -/
def readEntry : (depth : Nat) → IO.FS.DirEntry → IO FileTree
  | 0, _ => return .dir []
  | depth + 1, entry => do
    if ← entry.path.isDir then
      let found ← entry.path.readDir
      let there ← found.toList.filterM fun inner => inner.path.pathExists
      let entries ← there.mapM fun inner => do
        let tree ← if ← isDirectoryLink inner then pure (.dir []) else readEntry depth inner
        return (inner.fileName, tree)
      return .dir entries
    else return .file (← IO.FS.readBinFile entry.path)

/-- The paths that an argument may hold: itself, what follows an equals sign, and what follows a
letter. -/
def pathsIn (argument : String) : List Path :=
  let value := (Command.splitValue argument.toList).2.toList
  let attached := if argument.startsWith "-" then [String.ofList (argument.toList.drop 2)] else []
  (argument :: value ++ attached).map fun text =>
    let path := Path.ofString text
    { path with parts := path.parts.takeWhile fun part => !Glob.hasMagic part }

/-- The paths to look at for one that an argument holds. -/
def lookedAt (path : Path) : List Path :=
  if yamlSuffixes.contains path.suffix then [path.parent, path] else [path]

/-- Whether a path leads out of the current directory. -/
def leadsOut (path : Path) : Bool := path.isAbsolute || path.parts.contains ".."

/-- Add what a path leads to, and the directory that it is in. -/
def addPath (w : Workspace) (path : Path) : IO Workspace := do
  let here ← IO.currentDir
  let directory : IO.FS.DirEntry := ⟨here, path.parent.text⟩
  let place := (Command.normalized w path).parts
  let mut w := w
  if (← directory.path.isDir) && (w.root.at? place.dropLast).isNone then
    w := { w with root := FileTree.put (.dir []) place.dropLast w.root }
  let entry : IO.FS.DirEntry := ⟨here, path.text⟩
  if ← entry.path.pathExists then
    w := { w with root := FileTree.put (← readEntry depth entry) place w.root }
  return w

/-- **The files that a run may look at.** -/
def readWorkspace (arguments : List String) : IO Workspace := do
  let here ← IO.currentDir
  let current := (Path.ofString here.toString).parts
  let tree ← readEntry depth ⟨here, "."⟩
  let w : Workspace := ⟨FileTree.put tree current (.dir []), current⟩
  let outside := ((arguments.flatMap pathsIn).flatMap lookedAt).filter leadsOut
  outside.foldlM addPath w

/-- Make the directories that a run made, and write the files that it changed. -/
def writeChanges (before after : Workspace) : IO Unit := do
  (FileTree.newDirectories before.root after.root).forM fun place =>
    IO.FS.createDirAll (Path.text ⟨"/", place⟩)
  (FileTree.changes before.root after.root).forM fun (place, content) =>
    IO.FS.writeBinFile (Path.text ⟨"/", place⟩) content

end OperationCatalog.Program

/-- **The program.** Its status is that of the run. -/
def main (arguments : List String) : IO UInt32 := do
  let now ← Std.Time.PlainDateTime.now
  let before ← OperationCatalog.Program.readWorkspace arguments
  let stamp := now.format "uuuu-MM-dd HH:mm:ss,SSS"
  let outcome := OperationCatalog.Command.run stamp before arguments
  OperationCatalog.Program.writeChanges before outcome.files
  outcome.records.forM fun r => IO.println (r.level.name ++ " " ++ r.fullText)
  IO.print outcome.screen
  match outcome.result with
  | .ok status => return status.toUInt32
  | .error failure =>
    IO.eprintln ("Error: " ++ failure.message)
    return failure.status.toUInt32
