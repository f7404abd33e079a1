import OperationCatalog.Command.Request
import OperationCatalog.Command.Summary
import OperationCatalog.Metadata.Dump

/-!
# Running a command line

A run takes the files as they are and a command line, and gives the files as they are afterwards,
what was recorded and shown, and how it ended (`OperationCatalog.Command.run`). Its steps:

* **Opening.** The settings of the run are read and the command is looked up. Then the log file, if
  there is one, is emptied, so it exists even if the rest of the line is wrong.
* **The task.** It is computed from the files as they are after that, and it changes none of them:
  its result is a product, a text to be written or to be shown (`OperationCatalog.Command.Product`).
* **Records.** Those that are important enough go to the log file, whether the task failed or not.
* **The product** is written last, so a task that fails leaves every file but the log file as it
  was.
-/

namespace OperationCatalog.Command

/-! ### Tasks -/

/-- What a task makes. -/
inductive Product where
  /-- A text that is written to a file, and the notices that are shown then. The text may turn out
  not to exist, and so may the notices. -/
  | file (path : Path) (text : Except Json.WriteFault String)
    (notices : Except NoticeFault String)
  /-- A text that is shown. -/
  | shown (text : String)

/-- **A task, with its faults reported** where they are of the kind that is. -/
def reporting {α : Type} (task : Task) (x : Logged Cause α) : Logged Stop α :=
  match x.outcome with
  | .ok a => ⟨x.records, .ok a⟩
  | .error cause =>
    if cause.isReported then
      ⟨x.records ++ [⟨.error, task.recordText, some cause.message⟩],
        .error (.failed (.reported task cause))⟩
    else ⟨x.records, .error (.failed (.passedOn cause))⟩

/-- The metadata of the schema in some files. -/
def schemaTable (w : Workspace) (files : List Path) : Logged Cause Metadata.Table := do
  let schema ← (GraphQL.loadSchema w files).mapError .schema
  (Metadata.extract schema).mapError .extraction

/-- The metadata of the schema of a run, which has one if it names files of a schema. -/
def schemaTable? (w : Workspace) (files : List Path) : Logged Cause (Option Metadata.Table) :=
  if files.isEmpty then .pure none
  else (schemaTable w files).bind fun table => .pure (some table)

/-- **The types of a run**, from metadata files and from the schema, if there is one. -/
def typesOf (w : Workspace) (root : Option Path) (patterns : List String) (files : List Path) :
    Logged Cause Metadata.Table := do
  let schema ← schemaTable? w files
  (Metadata.buildTable w root patterns schema).mapError .source

/-- How a wrong configuration ends a run. -/
def configurationStop : Config.Fault → Stop
  | .document fault => .failed (.passedOn (.configuration fault))
  | fault => .failed (.configuration fault)

/-- The settings that the command line puts over those of the configuration file. -/
def overrides (given : Given) : List (Scalar × Value) :=
  let value (s : Setting) := ((given.last? s).map Value.text).getD .null
  [(.str "namespace", value .namespaceName), (.str "documents_import", value .documentsImport)]

/-- The notice that a module was written. -/
def moduleNotice (path : Path) : String :=
  successText ("Operation metadata written to " ++ path.text)

/-- What a module without an import of its documents calls for. -/
def importHint : String :=
  "Use --documents-import to import the operation documents in the generated module"

/-- The notices that are shown when a module was written. -/
def moduleNotices (config : Config) (path : Path) : Except NoticeFault String := do
  let written ← notice (moduleNotice path)
  let imports := config.documentsImport.any fun m => m != ""
  return if imports then written else written ++ noticeText importHint.toList

/-- **Generate a module.** -/
def generate (w : Workspace) (given : Given) : Logged Stop Product := do
  let output ← Logged.lift (given.path .output)
  let (config, root) ← (Config.resolve w ((given.last? .config).map Path.ofString)
    (overrides given) (given.values .metadata)).mapError configurationStop
  let module_ ← reporting .generate do
    let table ← typesOf w root config.metadata (given.files w .schemas)
    let documents ← (GraphQL.loadDocuments w (given.files w .documents)).mapError .documents
    (TypeScript.generate config table documents).mapError .generation
  return .file output (.ok module_.render) (moduleNotices config output)

/-- The notice that metadata was written. -/
def metadataNotice (count : Nat) (path : Path) : String :=
  successText ("Metadata for " ++ toString count ++ " input types written to " ++ path.text)

/-- **Write the metadata of a schema.** -/
def extract (w : Workspace) (given : Given) : Logged Stop Product := do
  let output ← Logged.lift (given.path .output)
  let table ← reporting .extract (schemaTable w (given.files w .schemas))
  return .file output (Metadata.Dump.text table) (notice (metadataNotice table.size output))

/-- **Show how many types there are.** -/
def count (w : Workspace) (given : Given) : Logged Stop Product := do
  let table ← reporting .count
    (typesOf w none (given.values .metadata) (given.files w .schemas))
  let text ← Logged.lift ((summary table).mapError fun f => .failed (.passedOn (.value f)))
  return .shown text

/-- A task with its settings. -/
def Task.run (task : Task) (w : Workspace) (given : Given) : Logged Stop Product :=
  match task with
  | .generate => Command.generate w given
  | .extract => Command.extract w given
  | .count => Command.count w given

/-- **What is left of a command line after the name of a group.** -/
def runGroup (w : Workspace) (tasks : List (String × Task)) (arguments : List String) :
    Logged Stop Product := do
  let (_, task, rest) ← Logged.lift (readGroup innerForm tasks w arguments)
  let given ← Logged.lift (readTask task.form w rest)
  task.run w given

/-! ### Runs -/

/-- **What comes of a run.** -/
structure Outcome where
  /-- The files afterwards. -/
  files : Workspace
  /-- What was recorded, as far as it is important enough. -/
  records : List Record
  /-- What was shown. -/
  screen : String
  /-- The status or the failure. -/
  result : Except Failure Nat

/-- What comes of a run that stops. -/
def Stop.outcome (w : Workspace) (records : List Record) : Stop → Outcome
  | answered text status => ⟨w, records, text, .ok status⟩
  | failed failure => ⟨w, records, "", .error failure⟩

/-- A record as a line of a log file. -/
def logLine (stamp : String) (r : Record) : String :=
  stamp ++ ":" ++ r.level.name ++ ":" ++ r.fullText

/-- The text of a log file. -/
def logText (stamp : String) (records : List Record) : String :=
  Text.unlines (records.map (logLine stamp))

/-- A path from the root on. What its dots lead to is not looked up: two dots take away the
component before them. -/
def normalized (w : Workspace) (path : Path) : Path :=
  let parts := if path.isAbsolute then path.parts else w.current ++ path.parts
  ⟨"/", parts.foldl (fun acc part => if part == ".." then acc.dropLast else acc ++ [part]) []⟩

/-- The place of the log file of a run. -/
def logPlace (w : Workspace) (session : Session) : Except FileFault (Option (List String)) :=
  match session.logFile with
  | none => .ok none
  | some path => (w.target (normalized w path)).map some

/-- The files after some text was written to the log file. -/
def withLog (w : Workspace) (place : Option (List String)) (text : String) : Workspace :=
  match place with
  | some place => w.putFile place text.toUTF8
  | none => w

/-- The files after a text was written to a path, with the directories that it needs. These are
made first, and they stay if there is no text or it cannot be written. -/
def writeProduct (w : Workspace) (path : Path) (text : Except Json.WriteFault String) :
    Workspace × Except Cause Unit :=
  match w.makeParents path with
  | (made, .error fault) => (made, .error (.file fault))
  | (made, .ok ()) =>
    match text with
    | .error fault => (made, .error (.value fault))
    | .ok text =>
      match made.write path text.toUTF8 with
      | .error fault => (made, .error (.file fault))
      | .ok written => (written, .ok ())

/-- **The end of a run**: its product is written or shown. -/
def conclude (w : Workspace) (records : List Record) : Product → Outcome
  | .shown text => ⟨w, records, text, .ok 0⟩
  | .file path text notices =>
    match writeProduct w path text with
    | (w, .error cause) => ⟨w, records, "", .error (.passedOn cause)⟩
    | (w, .ok ()) =>
      match notices with
      | .ok shown => ⟨w, records, shown, .ok 0⟩
      | .error fault => ⟨w, records, "", .error (.passedOn (.notice fault))⟩

/-- **A run of the command line.** `stamp` is the time that records carry in a log file. -/
def run (stamp : String) (w : Workspace) (arguments : List String) : Outcome :=
  match readGroup outerForm groups w arguments with
  | .error stop => stop.outcome w []
  | .ok (given, tasks, rest) =>
    let session := Session.ofGiven given
    match logPlace w session with
    | .error fault => ⟨w, [], "", .error (.passedOn (.file fault))⟩
    | .ok place =>
      let opened := withLog w place ""
      let done := runGroup opened tasks rest
      let records := done.records.filter fun r => session.level.rank ≤ r.level.rank
      let recorded := withLog opened place (logText stamp records)
      match done.outcome with
      | .error stop => stop.outcome recorded records
      | .ok product => conclude recorded records product

end OperationCatalog.Command
