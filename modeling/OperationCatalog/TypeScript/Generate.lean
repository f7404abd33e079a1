import OperationCatalog.Catalog.Build
import OperationCatalog.Config
import OperationCatalog.TypeScript.Module

/-!
# From documents to a generated module

A module is generated in three steps: the catalog of the documents is built, every type that it
refers to is collected together with the types those refer to, and the collected types
and the catalog are put into a module. The first fault of the earliest step ends the run.

The namespace, the names of documents and the import come from the settings of the run.
-/

namespace OperationCatalog.TypeScript

open Metadata

/-- Why no module is generated. -/
inductive Fault where
  /-- There is no catalog. -/
  | catalog (fault : Catalog.Fault)
  /-- A type that is referred to cannot be declared. -/
  | closure (fault : ClosureFault)
  /-- An opaque value has no text. -/
  | value (fault : Json.WriteFault)
  deriving DecidableEq, Repr

/-! ### Declarations -/

/-- An opaque value that may be missing, as code. -/
def optionalLiteral : Option ValueGraph → Except Json.WriteFault (Option String)
  | some g => (valueLiteral g).map some
  | none => .ok none

/-- A rule with its values as code. -/
def ruleCode (r : Rule) : Except Json.WriteFault RuleCode := do
  let constraints ← (r.constraints.getD []).mapM valueLiteral
  let context ← optionalLiteral r.context
  let options ← optionalLiteral r.options
  return ⟨r.type, constraints, r.each.getD false, context, options⟩

/-- What a field holds; the kind of the items of a list is looked up if it is not stated. -/
def shapeOf (table : Table) (f : Field) : Except Fault Shape :=
  match f.shape with
  | .one kind => .ok (.one kind)
  | .list stated allowsEmpty =>
    match table.itemKind? f.type stated with
    | some itemKind => .ok (.list itemKind allowsEmpty)
    | none => .error (.closure (.missing f.type))

/-- A field of a declared object. -/
def fieldOf (table : Table) (f : Field) : Except Fault FieldCode := do
  let rules ← ((f.validation.getD []).mapM ruleCode).mapError .value
  let shape ← shapeOf table f
  return ⟨f.name, f.type, f.required, shape, rules⟩

/-- **The declaration of a type.** -/
def declarationOf (table : Table) (t : InputType) : Except Fault Declaration :=
  match t.shape with
  | .enum values => .ok ⟨t.name, t.description, .enum values⟩
  | _ => do
    let fields ← t.fields.mapM (fieldOf table)
    return ⟨t.name, t.description, .object fields⟩

/-! ### Operations -/

/-- A parameter of an operation. -/
def parameterOf (p : Catalog.Parameter) : ParameterCode :=
  ⟨p.name, p.type, p.required,
    match p.shape with
    | .one kind => .one kind
    | .list itemKind itemsRequired => .list itemKind (!itemsRequired)⟩

/-- **The operation of an entry.** -/
def operationOf (e : Catalog.Entry) : OperationCode :=
  ⟨e.name, e.kind, e.document, e.parameters.map parameterOf⟩

/-! ### Modules -/

/-- The record of a type that is declared. -/
def declaringText (t : InputType) : String :=
  "Declaring " ++ t.kind.word ++ " type " ++ t.name

/-- **Everything that some entries refer to.** -/
def closureOf (table : Table) (entries : List Catalog.Entry) : Logged Fault Closure :=
  let (closure, fault) := Closure.empty.resolveAll table (entries.flatMap Catalog.Entry.types)
  ⟨closure.declared.map fun t => ⟨.debug, declaringText t, none⟩,
    match fault with
    | some fault => .error (.closure fault)
    | none => .ok closure⟩

/-- The record of all types that are declared. -/
def resolvedText (count : Nat) : String :=
  "Resolved " ++ toString count ++ " input type declarations"

/-- The module of some entries. -/
def moduleOf (config : Config) (table : Table) (entries : List Catalog.Entry) :
    Logged Fault Module := do
  let closure ← closureOf table entries
  Logged.record .debug (resolvedText closure.declared.length)
  let declarations ← Logged.lift (closure.declared.mapM (declarationOf table))
  return ⟨config.namespaceName, config.documentsImport, declarations, entries.map operationOf⟩

/-- The record of the beginning of a run. -/
def startText (count : Nat) : String :=
  "Generating TypeScript operation metadata with " ++ toString count ++ " input types"

/-- The record of the end of a run. -/
def doneText (count : Nat) : String :=
  "Successfully generated metadata for " ++ toString count ++ " operation(s)"

/-- **The module that is generated for some documents.** -/
def generate (config : Config) (table : Table) (documents : List GraphQL.Document) :
    Logged Fault Module := do
  Logged.record .info (startText table.size)
  let entries ← (Catalog.build table config.documentSuffix documents).mapError .catalog
  let m ← moduleOf config table entries
  Logged.record .info (doneText entries.length)
  return m

end OperationCatalog.TypeScript
