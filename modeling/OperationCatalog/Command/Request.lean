import OperationCatalog.Command.Arguments
import OperationCatalog.Command.Failure
import OperationCatalog.GraphQL.Files

/-!
# What a command line asks for

The arguments of a command are read first, then its settings are settled one after the other
(`OperationCatalog.Command.Form.settle`), and last it is checked that no word is left over.
The urgent settings come first, then those that were given, in the order in which they
were given first, and then the others. To settle one means to check its values – a path that must
be there is looked up in the files – and that it is given if it is required.

Not every line asks for something to be done: a line that asks for help or for the version is
answered at once, and a group of commands without any argument shows its help
(`OperationCatalog.Command.Stop`).
-/

namespace OperationCatalog.Command

/-- Why a run ends before its task does. -/
inductive Stop where
  /-- It is answered with a text. -/
  | answered (text : String) (status : Nat)
  /-- It fails. -/
  | failed (failure : Failure)

/-- The answer to the question for the version. -/
def versionText : String := "opmeta, version 0.1.0\n"

/-- Stop because of a wrong command line. -/
def misused {α : Type} (fault : UsageFault) : Except Stop α := .error (.failed (.usage fault))

/-! ### Values -/

/-- Check a path: whether something must be there, and whether that may be a directory. -/
def checkPath (w : Workspace) (s : Setting) (wanted directories : Bool) (text : String) :
    Except Stop Unit :=
  match w.lookup text with
  | .ok (.dir _) =>
    if directories then .ok () else misused (.badValue s (.directory text))
  | .ok (.file _) => .ok ()
  | .error .badName => .error (.failed (.passedOn (.file .badName)))
  | .error _ => if wanted then misused (.badValue s (.absent directories text)) else .ok ()

/-- The level with a name, whatever its case. -/
def levelNamed? (text : String) : Option Level :=
  Level.all.find? fun level => level.name.toLower == text.toLower

/-- Check one value of a setting. -/
def checkValue (w : Workspace) (s : Setting) (text : String) : Except Stop Unit :=
  match s.takes with
  | .nothing | .text => .ok ()
  | .level =>
    match levelNamed? text with
    | some _ => .ok ()
    | none => misused (.badValue s (.noLevel text))
  | .source directories => checkPath w s true directories text
  | .target => checkPath w s false false text

/-! ### Settling -/

namespace Form

/-- Settle one setting. -/
def settleOne (form : Form) (w : Workspace) (given : Given) (s : Setting) : Except Stop Unit :=
  match s, given.effective s with
  | .help, _ :: _ => .error (.answered "" 0)
  | .version, _ :: _ => .error (.answered versionText 0)
  | s, [] => if form.required.contains s then misused (.missing s) else .ok ()
  | s, values => values.forM (checkValue w s)

/-- The order in which settings are settled. -/
def settlingOrder (form : Form) (given : Given) : List Setting :=
  let first := (given.map (·.1)).eraseDups
  let order := first ++ form.settings.filter fun s => !first.contains s
  order.filter (·.isUrgent) ++ order.filter fun s => !s.isUrgent

/-- **Settle all settings.** -/
def settle (form : Form) (w : Workspace) (given : Given) : Except Stop Unit :=
  (form.settlingOrder given).forM (form.settleOne w given)

end Form

/-- The settings of a task. -/
def readTask (form : Form) (w : Workspace) (arguments : List String) : Except Stop Given := do
  let (given, words) ← (readArguments form true arguments).mapError fun f => .failed (.usage f)
  form.settle w given
  if words.isEmpty then return given else misused (.extraWords words)

/-- The settings of a group and the words after them, without an eye on what these name. -/
def readGroupSettings (form : Form) (w : Workspace) (arguments : List String) :
    Except Stop (Given × List String) := do
  if arguments.isEmpty then throw (.answered "" 2)
  let (given, words) ← (readArguments form false arguments).mapError fun f => .failed (.usage f)
  form.settle w given
  return (given, words)

/-- **The settings of a group, the command in it that a line names, and what is left for that.** A
name that nothing has and that looks like an option is read as one, for what is wrong with it says
more. -/
def readGroup {α : Type} (form : Form) (commands : List (String × α)) (w : Workspace)
    (arguments : List String) : Except Stop (Given × α × List String) := do
  let (given, words) ← readGroupSettings form w arguments
  match words with
  | [] => misused .noCommand
  | name :: rest =>
    match commands.lookup name with
    | some command => return (given, command, rest)
    | none =>
      if name.startsWith "-" then
        let _ ← readGroupSettings form w words
      misused (.unknownCommand name (Text.similarTo (commands.map (·.1)) name))

/-! ### The commands -/

/-- The settings of every group of commands inside another. -/
def innerForm : Form := { settings := [.help] }

/-- The settings of all runs. -/
def outerForm : Form := { settings := [.logLevel, .logFile, .version, .help] }

/-- **The tasks**, by group and by name. -/
def groups : List (String × List (String × Task)) :=
  [("generate", [("typescript", .generate)]), ("extract", [("metadata", .extract)]),
    ("stats", [("metadata", .count)])]

/-- The settings of a task. -/
def Task.form : Task → Form
  | generate =>
    { settings := [.documents, .metadata, .schemas, .config, .namespaceName, .documentsImport,
        .output, .help]
      required := [.documents, .output] }
  | extract => { settings := [.schemas, .output, .help], required := [.schemas, .output] }
  | count => { settings := [.metadata, .schemas, .help] }

/-- How a run keeps its records. -/
structure Session where
  /-- How important a record must be. -/
  level : Level
  /-- The file that records are written to. -/
  logFile : Option Path

/-- The settings of a run. -/
def Session.ofGiven (given : Given) : Session where
  level := ((given.last? .logLevel).bind levelNamed?).getD .info
  logFile := (given.last? .logFile).map Path.ofString

/-! ### The settings of a task -/

namespace Given

/-- The files of the language that the paths of a setting stand for. -/
def files (given : Given) (w : Workspace) (s : Setting) : List Path :=
  GraphQL.filesOf w ((given.values s).map Path.ofString)

/-- The path of a setting that is required. -/
def path (given : Given) (s : Setting) : Except Stop Path :=
  match given.last? s with
  | some text => .ok (Path.ofString text)
  | none => misused (.missing s)

end Given

end OperationCatalog.Command
