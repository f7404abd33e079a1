import OperationCatalog.Files.Document
import OperationCatalog.Log
import OperationCatalog.Validation

/-!
# The configuration of a run

Four settings: where the metadata files are, the namespace of the generated declarations, what is
appended to the name of an operation to name its document, and the module the documents are
imported from. They come from a YAML file, which may use another name for two of them and may hold
nothing else; every setting has a default.

The namespace has to be an identifier of the generated language and the suffix a part of one. A
line break at the very end does not count against either
(`OperationCatalog.Config.isIdentifier`).
-/

namespace OperationCatalog

/-- The settings of a run. -/
structure Config where
  /-- The patterns of the metadata files. -/
  metadata : List String := []
  /-- The namespace of the generated declarations. -/
  namespaceName : String := "GraphQLInputTypes"
  /-- What names the document of an operation, after the operation's name. -/
  documentSuffix : String := "Document"
  /-- The module that documents are imported from. -/
  documentsImport : Option String := none
  deriving DecidableEq, Repr

namespace Config

open Validation

/-- Whether a character may occur in an identifier. -/
def isIdentifierChar (c : Char) : Bool := c.isAlphanum || c == '_' || c == '$'

/-- A text without a line break at its end. -/
def withoutFinalBreak (s : List Char) : List Char :=
  if s.getLast? == some '\n' then s.dropLast else s

/-- Whether a text can stand inside an identifier. -/
def isIdentifierPart (s : String) : Bool :=
  (withoutFinalBreak s.toList).all isIdentifierChar

/-- **Whether a text is an identifier**: it is not empty and does not start with a digit. -/
def isIdentifier (s : String) : Bool :=
  isIdentifierPart s && s.toList.head?.any fun c => isIdentifierChar c && !c.isDigit

/-- Why a namespace is refused. -/
def namespaceReason (s : String) : String :=
  "Namespace '" ++ s ++ "' is not a valid TypeScript identifier"

/-- Why a suffix is refused. -/
def suffixReason (s : String) : String :=
  "Document suffix '" ++ s ++ "' must only contain identifier characters"

/-- Text with a property; otherwise it is refused for a reason. -/
def textWith (property : String → Bool) (reason : String → String) (g : ValueGraph) :
    Checked String :=
  (text g).bind fun s => if property s then .ok s else Checked.wrong (.refused (reason s))

/-- The names under which settings are given: the usual one and, for two of them, another. -/
def settingNames : List String :=
  ["metadata", "namespace", "documentSuffix", "document_suffix", "documentsImport",
    "documents_import"]

/-- The names that the settings with two names go by. -/
def secondNames : List (String × String) :=
  [("document_suffix", "documentSuffix"), ("documents_import", "documentsImport")]

/-- A key that is no setting is refused, and so is the second name of a setting that is given
under its first. -/
def strangerIssue? (e : Entries) (key : Scalar) : Option Issue :=
  match key with
  | .str s =>
    let shadowed := match secondNames.lookup s with
      | some first => (e.get? first).isSome
      | none => false
    if settingNames.contains s && !shadowed then none else some ⟨[.name s], .extra⟩
  | other => some ⟨[keyStep other], .badKey⟩

/-- The check that a mapping holds nothing but settings. -/
def noStrangers (e : Entries) : Checked Unit :=
  match e.list.filterMap fun (key, _) => strangerIssue? e key with
  | [] => .ok ()
  | issues => .error issues

/-- **The settings that a mapping gives.** -/
def ofEntries (e : Entries) : Checked Config :=
  Checked.map5 (fun metadata namespaceName documentSuffix documentsImport (_ : Unit) =>
      { metadata, namespaceName, documentSuffix, documentsImport })
    (e.optional "metadata" [] [] (listOf text))
    (e.optional "namespace" [] ({} : Config).namespaceName (textWith isIdentifier namespaceReason))
    (e.optional "documentSuffix" ["document_suffix"] ({} : Config).documentSuffix
      (textWith isIdentifierPart suffixReason))
    (e.optional "documentsImport" ["documents_import"] none (nullable text))
    (noStrangers e)

/-- The settings that a value gives. -/
def ofValue (g : ValueGraph) : Checked Config := (entries .notRecord g).bind ofEntries

/-! ### Files -/

/-- Why a configuration is not read. -/
inductive Fault where
  /-- The file is not read. -/
  | document (fault : DocumentFault)
  /-- The file holds something of this kind where a mapping is wanted. -/
  | notMapping (kind : String)
  /-- The settings are wrong. -/
  | invalid (issues : List Issue)
  deriving DecidableEq, Repr

/-- The text of a file that holds something else than a mapping. -/
def notMappingText (kind : String) : String :=
  "Generator config root must be a mapping (YAML object), got " ++ kind

/-- The settings of a document. An empty document leaves all at their defaults. -/
def ofDocument (g : ValueGraph) : Except Fault Config :=
  match g.top with
  | .scalar .null => .ok {}
  | .map _ => (ofValue g).mapError .invalid
  | other => .error (.notMapping other.kindName)

/-- **The settings of a file**, or the defaults where there is none. -/
def load (w : Workspace) (path : Option Path) : Logged Fault Config :=
  match path with
  | none => ⟨[⟨.debug, "No generator config provided", none⟩], .ok {}⟩
  | some path =>
    match w.readYaml path with
    | .error fault => .fail (.document fault)
    | .ok document =>
      ⟨[⟨.debug, "Loaded generator config from " ++ path.text, none⟩], ofDocument document⟩

/-! ### Overriding -/

/-- The settings as a mapping, under the names that need no other. -/
def toEntries (c : Config) : List (Scalar × Value) :=
  [(.str "metadata", .list (c.metadata.map .text)),
    (.str "namespace", .text c.namespaceName),
    (.str "document_suffix", .text c.documentSuffix),
    (.str "documents_import", (c.documentsImport.map Value.text).getD .null)]

/-- Entries with the values of others put over them, where those are values. -/
def override (entries others : List (Scalar × Value)) : List (Scalar × Value) :=
  others.foldl (fun acc (key, value) =>
    match value with
    | .scalar .null => acc
    | value => Value.put key value acc) entries

/-- **The settings of a run**: those of the file, with settings and patterns of the command line put
over them. The result is checked again. -/
def overridden (c : Config) (overrides : List (Scalar × Value)) (patterns : List String) :
    Checked Config :=
  let entries := override c.toEntries overrides
  let entries :=
    if patterns.isEmpty then entries
    else Value.put (.str "metadata") (.list (patterns.map .text)) entries
  ofValue (.ofTree (.map entries))

/-- **The directory that the patterns of a run are relative to**: that of the configuration file, if
its patterns are used. -/
def patternRoot (path : Option Path) (patterns : List String) : Option Path :=
  if patterns.isEmpty then path.map Path.parent else none

/-- The settings of a run and the directory its patterns are relative to. -/
def resolve (w : Workspace) (path : Option Path) (overrides : List (Scalar × Value))
    (patterns : List String) : Logged Fault (Config × Option Path) := do
  let file ← load w path
  let config ← Logged.lift ((file.overridden overrides patterns).mapError .invalid)
  return (config, patternRoot path patterns)

end Config

end OperationCatalog
