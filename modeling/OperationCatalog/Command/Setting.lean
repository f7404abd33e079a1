import OperationCatalog.Log

/-!
# The settings of the command line

What can be set on a command line is fixed: eleven settings, each with one or two names. Most
of them take a value, and three of those may be given several times; all values count then, and
otherwise the last one does.

**Two settings are urgent**: whoever asks for help or for the version is answered before
anything else on the line is looked at.

A command understands some of the settings and requires some of those
(`OperationCatalog.Command.Form`).
-/

namespace OperationCatalog.Command

/-- What can be set. -/
inductive Setting where
  /-- How important a record must be to be kept. -/
  | logLevel
  /-- The file that records are written to. -/
  | logFile
  /-- Show the version. -/
  | version
  /-- Show how the command is used. -/
  | help
  /-- The operation documents. -/
  | documents
  /-- The patterns of metadata files. -/
  | metadata
  /-- The files of the schema. -/
  | schemas
  /-- The configuration file. -/
  | config
  /-- The namespace of the generated declarations. -/
  | namespaceName
  /-- The module that documents are imported from. -/
  | documentsImport
  /-- The file to write. -/
  | output
  deriving DecidableEq, Repr

/-- What a setting takes. -/
inductive Taking where
  /-- No value. -/
  | nothing
  /-- Any text. -/
  | text
  /-- The name of a level. -/
  | level
  /-- A path that leads to a file or, perhaps, to a directory. -/
  | source (directories : Bool)
  /-- A path that a file can be written to. -/
  | target
  deriving DecidableEq, Repr

namespace Setting

/-- The names of a setting, as messages list them. -/
def names : Setting → List String
  | logLevel => ["-l", "--log-level"]
  | logFile => ["--log-file"]
  | version => ["--version"]
  | help => ["--help"]
  | documents => ["--documents", "-d"]
  | metadata => ["--metadata", "-m"]
  | schemas => ["--schema", "-s"]
  | config => ["--config", "-c"]
  | namespaceName => ["--namespace", "-n"]
  | documentsImport => ["--documents-import"]
  | output => ["--output", "-o"]

/-- What a setting takes. -/
def takes : Setting → Taking
  | logLevel => .level
  | logFile | output => .target
  | version | help => .nothing
  | documents | schemas => .source true
  | config => .source false
  | metadata | namespaceName | documentsImport => .text

/-- Whether all values of a setting count. -/
def isRepeated : Setting → Bool
  | documents | metadata | schemas => true
  | _ => false

/-- Whether a setting is answered before all others. -/
def isUrgent : Setting → Bool
  | version | help => true
  | _ => false

end Setting

/-- Whether a name has more than one letter; such names start with two hyphens. -/
def isLongName (name : String) : Bool := name.startsWith "--"

/-- **What a command understands.** -/
structure Form where
  /-- The settings it has, in the order in which it lists them. -/
  settings : List Setting
  /-- The settings that must be given. -/
  required : List Setting := []

namespace Form

/-- The setting with a name. -/
def named? (form : Form) (name : String) : Option Setting :=
  form.settings.find? fun s => s.names.contains name

/-- The long names of all settings. -/
def longNames (form : Form) : List String :=
  (form.settings.flatMap Setting.names).filter isLongName

end Form

end OperationCatalog.Command
