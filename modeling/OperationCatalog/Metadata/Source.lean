import OperationCatalog.Files.Document
import OperationCatalog.Metadata.Files
import OperationCatalog.Metadata.Shape

/-!
# Where the types of a run come from

The types of a run come from metadata files, from a schema, or from both; then the files win.
A file that cannot be read and one that has not the shape of metadata are failures that name the
file. An empty file declares nothing.
-/

namespace OperationCatalog.Metadata

/-- Why the types of a run are not loaded. -/
inductive SourceFault where
  /-- Neither patterns nor a schema with types were given. -/
  | noMetadata
  /-- A pattern names directories that cannot be listed. -/
  | unlistable (cause : FileFault)
  /-- A file cannot be read. -/
  | unreadable (path : Path) (cause : DocumentFault)
  /-- A file does not have the shape of metadata. -/
  | invalid (path : Path) (issues : List Issue)
  /-- A file holds what nobody can hold. -/
  | unspeakable (cause : DocumentFault)
  deriving DecidableEq, Repr

/-- The text of a fault, up to the text of its cause. -/
def SourceFault.message : SourceFault → String
  | noMetadata => noMetadataText
  | unlistable cause => DocumentFault.message (.file cause)
  | unreadable path _ => "Cannot read metadata file " ++ path.text
  | invalid path _ => "Invalid metadata file " ++ path.text
  | unspeakable cause => cause.message

/-- The record of a file that was loaded. -/
def loadedText (count : Nat) (path : Path) : String :=
  "Loaded " ++ toString count ++ " input types from " ++ path.text

/-- **The types that a file declares.** -/
def loadFile (w : Workspace) (path : Path) : Logged SourceFault Table :=
  match w.readDocument path with
  | .error cause =>
    .fail (if cause.isReading then .unreadable path cause else .unspeakable cause)
  | .ok document =>
    if document.isNull then .pure .empty
    else match Shape.document document with
      | .error issues => .fail (.invalid path issues)
      | .ok table => ⟨[⟨.debug, loadedText table.size path, none⟩], .ok table⟩

/-- The types that some files declare, file by file. -/
def loadFiles (w : Workspace) : List Path → Logged SourceFault (List Table)
  | [] => .pure []
  | path :: rest => do
    let table ← loadFile w path
    let tables ← loadFiles w rest
    return table :: tables

/-- The record of a table that was put together from files. -/
def mergedText (size files : Nat) : String :=
  "Loaded " ++ toString size ++ " input types from " ++ toString files ++ " metadata file(s)"

/-- A fault of resolving patterns as one of loading. -/
def SourceFault.ofFiles : FilesFault → SourceFault
  | .noMetadata => noMetadata
  | .unlistable cause => unlistable cause

/-- The types of the files of some patterns, over those of a base. -/
def loadPatterns (w : Workspace) (root : Option Path) (patterns : List String) (base : Table) :
    Logged SourceFault Table := do
  let files ← (resolveFiles w root patterns).mapError .ofFiles
  let tables ← loadFiles w files
  let table := Table.merge (base :: tables)
  Logged.record .info (mergedText table.size files.length)
  return table

/-- **The table of a run**: the types of a schema, if there is one, under those of the metadata
files. -/
def buildTable (w : Workspace) (root : Option Path) (patterns : List String)
    (schema : Option Table) : Logged SourceFault Table :=
  let base := schema.getD .empty
  if patterns.isEmpty then
    if base.types.isEmpty then .fail .noMetadata else .pure base
  else loadPatterns w root patterns base

end OperationCatalog.Metadata
