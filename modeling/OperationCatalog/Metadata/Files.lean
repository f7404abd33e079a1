import OperationCatalog.Files.Glob
import OperationCatalog.Log

/-!
# The metadata files of a run

A run names its metadata files by patterns. The files of each pattern come in ascending
order, and the patterns keep theirs, so that what a later pattern finds overrides what an earlier
one found. No path is listed twice.

What a pattern finds in a directory named `node_modules` is left out – those are the files of
others – unless the pattern itself leads there in so many words: only the part of a path below the
pattern's first special component is looked at.
-/

namespace OperationCatalog.Metadata

/-- The directories that patterns do not search. -/
def ignoredDirectories : List String := ["node_modules"]

/-- The components of a pattern before the first special one. -/
def literalParts (pattern : String) : List String :=
  (Path.ofString pattern).allParts.takeWhile fun part => !Glob.hasMagic part

/-- **Whether what a pattern found is left out.** -/
def isIgnored (pattern found : String) : Bool :=
  ((Path.ofString found).allParts.drop (literalParts pattern).length).any
    ignoredDirectories.contains

/-- The files that a pattern stands for, in ascending order of the paths found. -/
def filesOfPattern (w : Workspace) (root : Path) (pattern : String) :
    Except FileFault (List Path) :=
  (Glob.expand w root.text pattern).map fun found =>
    let kept := (found.mergeSort fun a b => decide (a ≤ b)).filter fun path =>
      !isIgnored pattern path && w.isFile (root.join (.ofString path)).text
    kept.map fun path => root.join (.ofString path)

/-- Why a run has no metadata files. -/
inductive FilesFault where
  /-- Neither patterns nor a schema were given. -/
  | noMetadata
  /-- A pattern names directories that cannot be listed. -/
  | unlistable (fault : FileFault)
  deriving DecidableEq, Repr

/-- The text of a run without metadata. -/
def noMetadataText : String :=
  "The metadata option is required and must be a glob pattern of metadata files"

/-- The record of a pattern that found nothing. -/
def unmatchedText (pattern : String) : String :=
  "Metadata pattern '" ++ pattern ++ "' did not match any file"

/-- The files of some patterns, pattern by pattern, with a warning for each that finds nothing. -/
def filesOfEach (w : Workspace) (root : Path) : List String → Logged FilesFault (List Path)
  | [] => .pure []
  | pattern :: rest => do
    let files ← Logged.lift ((filesOfPattern w root pattern).mapError .unlistable)
    if files.isEmpty then Logged.record .warning (unmatchedText pattern)
    let more ← filesOfEach w root rest
    return files ++ more

/-- **The metadata files of a run**, which has at least one pattern: those of its patterns, each
once, at its first place. -/
def resolveFiles (w : Workspace) (root : Option Path) (patterns : List String) :
    Logged FilesFault (List Path) :=
  if patterns.isEmpty then .fail .noMetadata
  else do
    let files ← filesOfEach w (root.getD w.currentPath) patterns
    return files.eraseDups

end OperationCatalog.Metadata
