import OperationCatalog.GraphQL.Name
import OperationCatalog.GraphQL.Schema.Build
import OperationCatalog.Log
import OperationCatalog.Metadata.Table
import OperationCatalog.Validation

/-!
# Metadata from a schema

Every type of a schema that values can be given for has metadata: scalars, enumerations and input
objects, but for the types of introspection. A field is described by its type. Without the outermost
exclusion of null, that is a name or a list; the items of a list, again without the exclusion of
null, must be given by a name.

**The directives on a field are rules on its values**, except for those that say something about the
schema. The arguments of a rule stand in the order in which the directive declares them, whatever
order they are given in: what is not given has the value it has where none is given, or is null. Of
a directive without a definition, the arguments stand as they are given.
-/

namespace OperationCatalog.Metadata

open GraphQL

/-- Why a schema has no metadata. -/
inductive ExtractionFault where
  /-- The items of a list field have a type that cannot be described. -/
  | unsupportedItem (type : TypeRef) (owner field : String)
  /-- An enumeration has no values. -/
  | noValues
  deriving DecidableEq, Repr

/-- The text of a list field that cannot be described. -/
def unsupportedFieldText (type : TypeRef) (owner field : String) : String :=
  unsupportedItemText type.text ++ " in " ++ owner ++ "." ++ field

/-- What is wrong with an enumeration without values. -/
def noValuesIssues : List Issue := [⟨[.name "values"], .tooShort⟩]

/-! ### Rules -/

/-- The arguments that a directive is given, each name once. -/
def givenArguments (use : Directive) : List (String × Value) :=
  byName (·.1) (use.arguments.map fun (name, l) => (name, l.value))

/-- **The arguments of a rule.** -/
def ruleArguments (schema : Schema) (use : Directive) : List Value :=
  let given := givenArguments use
  match schema.directive? use.name with
  | none => given.map (·.2)
  | some d => d.arguments.map fun (name, default) =>
      ((given.lookup name).orElse fun _ => default).getD .null

/-- The rule that a directive on a field is. -/
def ruleOf (schema : Schema) (use : Directive) : Rule :=
  let arguments := (ruleArguments schema use).map ValueGraph.ofTree
  { type := use.name, constraints := if arguments.isEmpty then none else some arguments }

/-- The rules on a field. -/
def rulesOf (schema : Schema) (directives : List Directive) : Option (List Rule) :=
  let rules := (directives.filter fun use => isValidationDirective use.name).map (ruleOf schema)
  if rules.isEmpty then none else some rules

/-! ### Fields -/

/-- The kind of what values a type has. -/
def kindOfForm : TypeForm → TypeKind
  | .enum _ => .enum
  | .input _ => .object
  | _ => .scalar

/-- The kind of a type of a schema. -/
def kindIn (schema : Schema) (name : String) : TypeKind :=
  match schema.type? name with
  | some t => kindOfForm t.form
  | none => .scalar

/-- What a type says, without the outermost exclusion of null: the type it names and the shape. An
item type that is no name is what cannot be described. -/
def shapeOfType (schema : Schema) : TypeRef → Except TypeRef (String × FieldShape)
  | .list item =>
    match item.nullable with
    | .named name => .ok (name, .list (some (kindIn schema name)) true)
    | other => .error other
  | other => .ok (other.baseName, .one (kindIn schema other.baseName))

/-- **The metadata of a field.** -/
def fieldOf (schema : Schema) (owner : String) (f : InputField) : Except ExtractionFault Field :=
  match shapeOfType schema f.type.nullable with
  | .ok (type, shape) =>
    .ok ⟨f.name, type, f.type.isNonNull, rulesOf schema f.directives, shape⟩
  | .error type => .error (.unsupportedItem type owner f.name)

/-! ### Types -/

/-- **The metadata of a type**; a type that is only returned has none. -/
def typeOf (schema : Schema) (t : SchemaType) : Except ExtractionFault (Option InputType) :=
  match t.form with
  | .scalar => .ok (some ⟨t.name, t.description, .scalar⟩)
  | .enum values =>
    if values.isEmpty then .error .noValues else .ok (some ⟨t.name, t.description, .enum values⟩)
  | .input fields => do
    let fields ← fields.mapM (fieldOf schema t.name)
    return some ⟨t.name, t.description, .object fields⟩
  | .output => .ok none

/-- The types of a schema but for those of introspection. -/
def describedTypes (schema : Schema) : List SchemaType :=
  schema.types.filter fun t => !isIntrospectionName t.name

/-- The record of the metadata of a schema. -/
def extractedText (count : Nat) : String :=
  "Extracted metadata for " ++ toString count ++ " input types from the schema"

/-- **The metadata of a schema.** -/
def extract (schema : Schema) : Logged ExtractionFault Table := do
  let types ← Logged.lift ((describedTypes schema).mapM (typeOf schema))
  let table := Table.ofTypes (types.filterMap id)
  Logged.record .info (extractedText table.size)
  return table

end OperationCatalog.Metadata
