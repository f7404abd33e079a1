import OperationCatalog.Files.Tree
import OperationCatalog.GraphQL.Parser
import OperationCatalog.Log

/-!
# Documents and schemas in files

A run names files and directories. A file stands for itself, whatever its suffix; a directory
stands for the files of the language in it, at any depth
(`OperationCatalog.GraphQL.filesAt`). All of them together are one list in ascending order, so
it does not matter in which order they were named, or how often.

Every file is a document of its own: it must parse before anything is made of it. Operations
are read file by file. A schema may be spread over several files; its text is that of
the files, each followed by a line break.
-/

namespace OperationCatalog.GraphQL

/-- The suffixes of files of the language. -/
def fileSuffixes : List String := [".graphql", ".graphqls", ".gql"]

/-- What one path stands for. A path that leads nowhere stands for nothing. -/
def filesAt (w : Workspace) (path : Path) : List Path :=
  if w.isFile path.text then [path]
  else if w.isDir path.text then
    (w.filesBelow path).filter fun file => fileSuffixes.contains file.suffix
  else []

/-- **The files that some paths stand for**, in ascending order, each once. -/
def filesOf (w : Workspace) (paths : List Path) : List Path :=
  Path.sorted (paths.flatMap (filesAt w))

/-! ### Reading -/

/-- Why a file is not read as a document. -/
inductive SourceFault where
  /-- It is not there, or it is no text. -/
  | file (fault : FileFault)
  /-- Its text is not a document. -/
  | malformed (path : Path) (fault : SyntaxFault)
  deriving DecidableEq, Repr

/-- A document with the text it was read from. -/
structure Source where
  /-- The text. -/
  text : String
  /-- The document. -/
  document : Document

/-- A path from the root on, with its dots followed. -/
def absolute (w : Workspace) (path : Path) : Path :=
  match w.locate path.text with
  | .ok place => ⟨if path.root == "//" then "//" else "/", place⟩
  | .error _ => path

/-- **The document in a file.** -/
def readSource (w : Workspace) (path : Path) : Except SourceFault Source := do
  let text ← (w.readText path).mapError .file
  let document ← (parse text.toList).mapError (.malformed (absolute w path))
  return ⟨text, document⟩

/-! ### Operations -/

/-- The record of a document that was read. -/
def parsedText (path : Path) : String := "Parsed operation document " ++ path.text

/-- The record of all documents of a run. -/
def loadedText (count : Nat) : String := "Loaded " ++ toString count ++ " operation document(s)"

/-- The documents in some files, one after the other. -/
def loadEach (w : Workspace) : List Path → Logged SourceFault (List Document)
  | [] => .pure []
  | path :: rest => do
    let source ← Logged.lift (readSource w path)
    Logged.record .debug (parsedText path)
    let documents ← loadEach w rest
    return source.document :: documents

/-- **The documents that some paths stand for.** -/
def loadDocuments (w : Workspace) (paths : List Path) : Logged SourceFault (List Document) := do
  let documents ← loadEach w (filesOf w paths)
  Logged.record .info (loadedText documents.length)
  return documents

/-! ### Schemas -/

/-- **The text of a schema** that is spread over files. -/
def schemaText (w : Workspace) (paths : List Path) : Except SourceFault String := do
  let sources ← (filesOf w paths).mapM (readSource w)
  return Text.unlines (sources.map (·.text))

end OperationCatalog.GraphQL
