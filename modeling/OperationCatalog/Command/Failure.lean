import OperationCatalog.Command.Notice
import OperationCatalog.Command.Usage
import OperationCatalog.Config
import OperationCatalog.GraphQL.Schema.Load
import OperationCatalog.Metadata.Extraction
import OperationCatalog.Metadata.Source
import OperationCatalog.TypeScript.Generate

/-!
# How a run fails

A run fails for one of four reasons: the command line is wrong, the configuration is wrong, what the
task was given is at fault, or something else went wrong. The third kind is **reported**: there is a
record of it, and the failure names the task. The fourth kind is passed on as it is.

Which faults are reported is `OperationCatalog.Command.Cause.isReported`. The rule: whatever is
wrong with metadata, schemas or documents as such is reported. Files that cannot be read as text,
values that cannot be written, and a schema that is a document but breaks the rules of schemas are
not – with one exception, a directive that is used wrongly.
-/

namespace OperationCatalog.Command

/-- What a run does. -/
inductive Task where
  /-- Generate a module from operation documents. -/
  | generate
  /-- Write the metadata of a schema to a file. -/
  | extract
  /-- Show how many types there are. -/
  | count
  deriving DecidableEq, Repr

/-- The record of a task that fails. -/
def Task.recordText : Task → String
  | generate => "Generation failed"
  | extract => "Extraction failed"
  | count => "Loading metadata failed"

/-- The text of the failure of a task. -/
def Task.failureText : Task → String
  | generate => "Operation metadata generation failed"
  | extract => "Metadata extraction failed"
  | count => "Loading metadata failed"

/-- Why a task fails. -/
inductive Cause where
  /-- The types of the run are not loaded. -/
  | source (fault : Metadata.SourceFault)
  /-- There is no schema. -/
  | schema (fault : GraphQL.SchemaLoadFault)
  /-- The schema has no metadata. -/
  | extraction (fault : Metadata.ExtractionFault)
  /-- The operation documents are not read. -/
  | documents (fault : GraphQL.SourceFault)
  /-- No module is generated. -/
  | generation (fault : TypeScript.Fault)
  /-- The configuration file is not read. -/
  | configuration (fault : DocumentFault)
  /-- A file is not there or not written. -/
  | file (fault : FileFault)
  /-- A value cannot be written. -/
  | value (fault : Json.WriteFault)
  /-- A notice cannot be shown. -/
  | notice (fault : NoticeFault)
  deriving DecidableEq, Repr

/-- How a run fails. -/
inductive Failure where
  /-- The command line is wrong. -/
  | usage (fault : UsageFault)
  /-- The configuration is wrong. -/
  | configuration (fault : Config.Fault)
  /-- The task fails, and there is a record of it. -/
  | reported (task : Task) (cause : Cause)
  /-- Something else went wrong. -/
  | passedOn (cause : Cause)
  deriving DecidableEq, Repr

/-! ### Which faults are reported -/

/-- A file that is no document is reported. -/
def isReportedFile : GraphQL.SourceFault → Bool
  | .file _ => false
  | .malformed .. => true

namespace Cause

/-- **Whether a fault is reported.** -/
def isReported : Cause → Bool
  | source (.unlistable _) | source (.unspeakable _) => false
  | source _ => true
  | schema (.source fault) => isReportedFile fault
  | schema (.malformed _) => true
  | schema (.schema fault) => fault == .badDirective
  | extraction (.unsupportedItem ..) => true
  | extraction .noValues => false
  | documents fault => isReportedFile fault
  | generation (.value _) => false
  | generation _ => true
  | configuration _ | file _ | value _ | notice _ => false

end Cause

/-! ### Texts -/

/-- The text of some issues: their number and the place of the first. -/
def issuesText (issues : List Issue) : String :=
  let place (i : Issue) := ".".intercalate (i.place.map fun
    | .name s => s
    | .index n => toString n)
  toString issues.length ++ " issue(s)" ++
    (match issues with
      | issue :: _ => ", the first at " ++ place issue
      | [] => "")

/-- The text of a syntax fault. -/
def syntaxText (fault : GraphQL.SyntaxFault) : String :=
  "Syntax Error at line " ++ toString fault.place.line ++ ", column " ++
    toString fault.place.column

/-- The text of a file that is not read as a document. -/
def sourceText : GraphQL.SourceFault → String
  | .file fault => DocumentFault.message (.file fault)
  | .malformed path fault => "Could not load " ++ path.text ++ ": " ++ syntaxText fault

/-- The text of a value that is not written. -/
def valueText (fault : Json.WriteFault) : String :=
  fault.message?.getD <|
    match fault with
    | .noNotation => "a value has no notation"
    | _ => "an integer has too many digits"

/-- The text of types that are not loaded, with that of the cause. -/
def metadataText (fault : Metadata.SourceFault) : String :=
  match fault with
  | .unreadable _ cause => fault.message ++ ": " ++ cause.message
  | .invalid _ issues => fault.message ++ ": " ++ issuesText issues
  | _ => fault.message

/-- The text of a configuration fault. -/
def configText : Config.Fault → String
  | .document fault => fault.message
  | .notMapping kind => Config.notMappingText kind
  | .invalid issues => issuesText issues

/-- **The text of a cause**, as it stands in the record of a failure. -/
def Cause.message : Cause → String
  | source fault => metadataText fault
  | schema (.source fault) => sourceText fault
  | schema (.malformed fault) => syntaxText fault
  | schema (.schema .misuse) | schema (.schema .noValues) =>
    "the document breaks the rules of schemas"
  | schema (.schema .badDirective) => "a directive is used wrongly"
  | extraction (.unsupportedItem type owner field) =>
    Metadata.unsupportedFieldText type owner field
  | extraction .noValues => issuesText Metadata.noValuesIssues
  | documents fault => sourceText fault
  | generation (.catalog fault) => fault.message
  | generation (.closure fault) => fault.message
  | generation (.value fault) => valueText fault
  | configuration fault => fault.message
  | file fault => DocumentFault.message (.file fault)
  | value fault => valueText fault
  | notice .badMark => "a style ends that has not begun"
  | notice .incompleteColor => "a color lacks a part"

/-- The text of a wrong configuration. -/
def badConfigurationText : String := "Invalid generator configuration"

/-- **The text of a failure.** -/
def Failure.message : Failure → String
  | usage fault => fault.message
  | configuration fault => badConfigurationText ++ ": " ++ configText fault
  | reported task cause => task.failureText ++ ": " ++ cause.message
  | passedOn cause => cause.message

/-- The status of a run that fails: two if the command line is wrong. -/
def Failure.status : Failure → Nat
  | usage _ => 2
  | _ => 1

end OperationCatalog.Command
