import OperationCatalog.Files.Tree
import OperationCatalog.Json.Reader
import OperationCatalog.Yaml.Graph

/-!
# Documents of data in files

A file of data is YAML or JSON, by its suffix. It is read as text first – so a file that is
no text is no document either – and the fault, if there is one, says at which of the steps it
arose.
-/

namespace OperationCatalog

/-- Why a file of data is not read. -/
inductive DocumentFault where
  /-- The file is not there, or it is no text. -/
  | file (fault : FileFault)
  /-- It is not JSON. -/
  | json (fault : Json.ReadFault)
  /-- It is not YAML. -/
  | yaml (fault : Yaml.Fault)
  deriving DecidableEq, Repr

namespace DocumentFault

/-- **Whether a fault is one of reading**: of the file, or of the notation. What remains are values
that the notation allows and that nobody can hold, and paths that nobody can write. -/
def isReading : DocumentFault → Bool
  | file .badName => false
  | file _ => true
  | json (.malformed _ _) => true
  | json .integerTooLong => false
  | yaml fault => fault == .malformed

/-- The text of a fault. -/
def message : DocumentFault → String
  | file .notFound => "No such file or directory"
  | file .notADirectory => "Not a directory"
  | file .isADirectory => "Is a directory"
  | file .exists => "File exists"
  | file .badName => "embedded null byte"
  | file .nameTooLong => "File name too long"
  | file .notText => "the file is not UTF-8 text"
  | json fault => fault.message?.getD "an integer has too many digits"
  | yaml _ => "the file is not a YAML document"

end DocumentFault

/-- The suffixes of YAML files. -/
def yamlSuffixes : List String := [".yaml", ".yml"]

/-- The value of a YAML file. -/
def Workspace.readYaml (w : Workspace) (path : Path) : Except DocumentFault ValueGraph := do
  let text ← (w.readText path).mapError .file
  (Yaml.read text.toList).mapError .yaml

/-- The value of a JSON file. -/
def Workspace.readJson (w : Workspace) (path : Path) : Except DocumentFault ValueGraph := do
  let text ← (w.readText path).mapError .file
  ((Json.read text.toList).mapError .json).map .ofTree

/-- **The value of a file of data.** -/
def Workspace.readDocument (w : Workspace) (path : Path) : Except DocumentFault ValueGraph :=
  if yamlSuffixes.contains path.suffix then w.readYaml path else w.readJson path

end OperationCatalog
