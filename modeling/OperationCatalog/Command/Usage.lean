import OperationCatalog.Command.Setting
import OperationCatalog.Text.Quoted

/-!
# Wrong use of the command line

A command line can be wrong in eight ways. `OperationCatalog.Command.UsageFault.message` is
the text of each. A setting is named by all its names, in quotes; words that come from
the line are quoted too, by the rule of `OperationCatalog.Text.quoted`.
-/

namespace OperationCatalog.Command

/-- What is wrong with the value of a setting. -/
inductive ValueFault where
  /-- The path leads nowhere. -/
  | absent (directories : Bool) (text : String)
  /-- The path leads to a directory. -/
  | directory (text : String)
  /-- No level has this name. -/
  | noLevel (text : String)
  deriving DecidableEq, Repr

/-- What is wrong with a command line. -/
inductive UsageFault where
  /-- There is no such option. Some names are similar. -/
  | unknownOption (name : String) (similar : List String)
  /-- An option comes last and takes a value. -/
  | valueWanted (name : String)
  /-- An option is given a value and takes none. -/
  | noValueWanted (name : String)
  /-- The value of a setting is wrong. -/
  | badValue (setting : Setting) (fault : ValueFault)
  /-- A setting that is required is not given. -/
  | missing (setting : Setting)
  /-- There are words that nothing asks for. -/
  | extraWords (words : List String)
  /-- A command is wanted. -/
  | noCommand
  /-- There is no such command. Some names are similar. -/
  | unknownCommand (word : String) (similar : List String)
  deriving DecidableEq, Repr

/-- A text in quotes. -/
def inQuotes (text : String) : String := String.ofList (Text.quoted text.toList)

/-- Some texts in quotes, with commas between. -/
def quotedList (texts : List String) : String := ", ".intercalate (texts.map inQuotes)

/-- A setting by all its names. -/
def Setting.hint (s : Setting) : String := " / ".intercalate (s.names.map inQuotes)

/-- The names of the levels as they are listed. -/
def levelNames : List String := Level.all.map (·.name.toLower)

/-- The text of a wrong value. -/
def ValueFault.message : ValueFault → String
  | absent true text => "Path " ++ inQuotes text ++ " does not exist."
  | absent false text => "File " ++ inQuotes text ++ " does not exist."
  | directory text => "File " ++ inQuotes text ++ " is a directory."
  | noLevel text => inQuotes text ++ " is not one of " ++ quotedList levelNames ++ "."

/-- What similar names add to the text of an unknown one. They are listed in ascending order. -/
def suggestion (similar : List String) : String :=
  match similar.mergeSort fun a b => decide (a ≤ b) with
  | [] => ""
  | [name] => " Did you mean " ++ inQuotes name ++ "?"
  | names => " (Did you mean one of: " ++ quotedList names ++ "?)"

namespace UsageFault

/-- **The text of a wrong use.** -/
def message : UsageFault → String
  | unknownOption name similar =>
    "No such option " ++ inQuotes name ++ "." ++ suggestion similar
  | valueWanted name => "Option " ++ inQuotes name ++ " requires an argument."
  | noValueWanted name => "Option " ++ inQuotes name ++ " does not take a value."
  | badValue setting fault => "Invalid value for " ++ setting.hint ++ ": " ++ fault.message
  | missing setting => "Missing option " ++ setting.hint ++ "."
  | extraWords [word] => "Got unexpected extra argument (" ++ word ++ ")"
  | extraWords words => "Got unexpected extra arguments (" ++ " ".intercalate words ++ ")"
  | noCommand => "Missing command."
  | unknownCommand word similar =>
    "No such command " ++ inQuotes word ++ "." ++ suggestion similar

end UsageFault

end OperationCatalog.Command
