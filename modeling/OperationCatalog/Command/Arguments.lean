import OperationCatalog.Command.Usage
import OperationCatalog.Text.Similarity

/-!
# Reading arguments

An argument that starts with a hyphen and has more than one character is an option; two hyphens
alone end the options; all else are words.

* **A long option** has its value after an equals sign or as the next argument, whatever that looks
  like.
* **A short option** has one letter. What follows the letter is its value; if nothing does, the next
  argument is.
* **Words** may stand between the options of a task. In front of the name of a command only options
  may stand, and its name ends them: what comes after it belongs to the command.

`OperationCatalog.Command.readArguments` goes from left to right, so the first fault is reported.
-/

namespace OperationCatalog.Command

/-- The settings that were given, with their values, in order. -/
abbrev Given := List (Setting × String)

/-- What one argument is. -/
inductive Argument where
  /-- A word. -/
  | word
  /-- The end of the options. -/
  | stop
  /-- An option with its value. -/
  | given (setting : Setting) (value : String)
  /-- An option whose value is the next argument. -/
  | wants (setting : Setting) (name : String)
  deriving DecidableEq, Repr

/-- An option by its name and the value that is attached to it. -/
def longOption (s : Setting) (name : String) (value : Option String) :
    Except UsageFault Argument :=
  match s.takes, value with
  | .nothing, some _ => .error (.noValueWanted name)
  | .nothing, none => .ok (.given s "")
  | _, some value => .ok (.given s value)
  | _, none => .ok (.wants s name)

/-- An option by its letter; the rest of the argument is its value. -/
def shortOption (form : Form) (letter : Char) (rest : List Char) : Except UsageFault Argument :=
  let name := String.ofList ['-', letter]
  match form.named? name with
  | none => .error (.unknownOption name [])
  | some s => .ok (if rest.isEmpty then .wants s name else .given s (String.ofList rest))

/-- The part of an argument before the first equals sign, and the part after it. -/
def splitValue (argument : List Char) : String × Option String :=
  let name := argument.takeWhile (· != '=')
  match argument.drop name.length with
  | _ :: value => (String.ofList name, some (String.ofList value))
  | [] => (String.ofList name, none)

/-- An argument that starts with a hyphen. -/
def optionOf (form : Form) (argument : List Char) : Except UsageFault Argument :=
  let (name, value) := splitValue argument
  let unknown : Except UsageFault Argument :=
    .error (.unknownOption name (Text.similarTo form.longNames name))
  match argument with
  | '-' :: letter :: rest =>
    match if isLongName name then form.named? name else none with
    | some s => longOption s name value
    | none => if letter == '-' then unknown else shortOption form letter rest
  | _ => unknown

/-- **What an argument is.** -/
def argumentOf (form : Form) (argument : String) : Except UsageFault Argument :=
  match argument.toList with
  | ['-', '-'] => .ok .stop
  | '-' :: c :: rest => optionOf form ('-' :: c :: rest)
  | _ => .ok .word

/-- **The settings and the words of some arguments.** If no words may stand between options, the
first word ends them. -/
def readArguments (form : Form) (wordsBetween : Bool) :
    List String → Except UsageFault (Given × List String)
  | [] => .ok ([], [])
  | argument :: rest =>
    match argumentOf form argument with
    | .error fault => .error fault
    | .ok .stop => .ok ([], rest)
    | .ok .word =>
      if wordsBetween then
        (readArguments form wordsBetween rest).map fun (given, words) => (given, argument :: words)
      else .ok ([], argument :: rest)
    | .ok (.given s value) =>
      (readArguments form wordsBetween rest).map fun (given, words) => ((s, value) :: given, words)
    | .ok (.wants s name) =>
      match rest with
      | [] => .error (.valueWanted name)
      | value :: rest =>
        (readArguments form wordsBetween rest).map fun (given, words) =>
          ((s, value) :: given, words)

namespace Given

/-- All values of a setting. -/
def values (given : Given) (s : Setting) : List String :=
  given.filterMap fun (t, value) => if t = s then some value else none

/-- The last value of a setting. -/
def last? (given : Given) (s : Setting) : Option String := (given.values s).getLast?

/-- **The values that count.** -/
def effective (given : Given) (s : Setting) : List String :=
  if s.isRepeated then given.values s else (given.last? s).toList

end Given

end OperationCatalog.Command
