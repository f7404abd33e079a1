import OperationCatalog.Catalog.Basic
import OperationCatalog.Log
import OperationCatalog.Metadata.Closure

/-!
# From documents to a catalog

The catalog lists the operations of some documents that declare variables, in the order in
which they are met. Fragments and other definitions are passed over, and an operation without
variables is skipped. An operation that declares variables must have a name, and no two of
them may share one.

A variable is described by its type. Without the outermost exclusion of null, that is a name or a
list; the items of a list, again without the exclusion of null, must be given by a name. Of which
kind a name is, the table of input types says.
-/

namespace OperationCatalog.Catalog

open GraphQL Metadata

/-- Why there is no catalog. -/
inductive Fault where
  /-- An operation with variables has no name. -/
  | anonymous
  /-- Two operations with variables share this name. -/
  | duplicate (name : String)
  /-- A type is not in the table. -/
  | missing (name : String)
  /-- A variable has a type that cannot be described. -/
  | unsupported (type : TypeRef)
  /-- The items of a list have a type that cannot be described. -/
  | unsupportedItem (type : TypeRef)
  deriving DecidableEq, Repr

/-- The word for the form of a type. -/
def formWord : TypeRef → String
  | .named _ => "named_type"
  | .list _ => "list_type"
  | .nonNull _ => "non_null_type"

/-- The text of a fault. -/
def Fault.message : Fault → String
  | anonymous => "Operations declaring variables must be named"
  | duplicate name => "Operation " ++ name ++ " is defined more than once"
  | missing name => missingTypeText name
  | unsupported type => "Unsupported variable type " ++ formWord type
  | unsupportedItem type => unsupportedItemText (formWord type)

/-! ### Variables -/

/-- The kind of a type by its name. -/
def kindOf (table : Table) (name : String) : Except Fault TypeKind :=
  match table.find? name with
  | some t => .ok t.kind
  | none => .error (.missing name)

/-- What a type says, without the outermost exclusion of null: the type it names and the shape. -/
def describeType (table : Table) : TypeRef → Except Fault (String × ParameterShape)
  | .named name => do
    let kind ← kindOf table name
    return (name, .one kind)
  | .list item =>
    match item.nullable with
    | .named name => do
      let kind ← kindOf table name
      return (name, .list kind item.isNonNull)
    | other => .error (.unsupportedItem other)
  | other => .error (.unsupported other)

/-- **The parameter that a variable makes.** -/
def describeVariable (table : Table) (v : Variable) : Except Fault Parameter := do
  let (type, shape) ← describeType table v.type.nullable
  return ⟨v.name, type, v.type.isNonNull, v.directives.map (·.name), shape⟩

/-! ### Operations -/

/-- **The entry that an operation makes**: none if it declares no variables. `suffix` is what names
the document of an operation, after the operation's name. -/
def describeOperation (table : Table) (suffix : String) (o : Operation) :
    Except Fault (Option Entry) :=
  if o.vars.isEmpty then .ok none
  else match o.name with
    | none => .error .anonymous
    | some name => do
      let parameters ← o.vars.mapM (describeVariable table)
      return some ⟨name, o.kind, name ++ suffix, parameters⟩

/-- The operations of a document. -/
def operationsOf (d : Document) : List Operation :=
  d.filterMap fun
    | .operation o => some o
    | _ => none

/-- The record of an operation without variables. -/
def skippedText (o : Operation) : String :=
  "Skipping operation " ++ o.name.getD "<anonymous>"

/-- The record of a whole catalog. -/
def analyzedText (count : Nat) : String :=
  "Analyzed " ++ toString count ++ " operation(s) with variables"

/-- The entries of some operations after others, whose names are taken. -/
def entriesAfter (table : Table) (suffix : String) :
    (taken : List String) → List Operation → Logged Fault (List Entry)
  | _, [] => .pure []
  | taken, o :: rest => do
    match ← Logged.lift (describeOperation table suffix o) with
    | none =>
      Logged.record .debug (skippedText o)
      entriesAfter table suffix taken rest
    | some entry =>
      if taken.contains entry.name then .fail (.duplicate entry.name)
      else
        let entries ← entriesAfter table suffix (entry.name :: taken) rest
        return entry :: entries

/-- **The catalog of some documents.** -/
def build (table : Table) (suffix : String) (documents : List Document) :
    Logged Fault (List Entry) := do
  let entries ← entriesAfter table suffix [] (documents.flatMap operationsOf)
  Logged.record .info (analyzedText entries.length)
  return entries

end OperationCatalog.Catalog
