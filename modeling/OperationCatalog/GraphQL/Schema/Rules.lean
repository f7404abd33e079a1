import OperationCatalog.GraphQL.Schema.Inventory
import OperationCatalog.GraphQL.Schema.Standard

/-!
# The rules on the definition of a schema

A document that defines a schema must keep fifteen rules: what is defined is defined once, what is
used is defined, directives stand where they may and take the arguments they have, and what is added
to a type fits that type. Each rule is a property of the whole document, and
`OperationCatalog.GraphQL.Document.isSchema` is all of them.

The rules do not say that a schema makes sense – whether types are used as they may be is found
out when the schema is built.
-/

namespace OperationCatalog.GraphQL

/-- Whether no item of a list occurs twice. -/
def allDistinct {α : Type} [DecidableEq α] (items : List α) : Bool := decide items.Nodup

namespace Document

/-! ### Definitions of one sort -/

/-- The types that are defined. -/
def typeDefinitions (d : Document) : List TypeDefinition :=
  d.filterMap fun
    | .type t => some t
    | _ => none

/-- What is added to types. -/
def typeExtensions (d : Document) : List TypeDefinition :=
  d.filterMap fun
    | .typeExtension t => some t
    | _ => none

/-- The types that are defined and what is added to types, as they stand. -/
def typeParts (d : Document) : List TypeDefinition :=
  d.filterMap fun
    | .type t | .typeExtension t => some t
    | _ => none

/-- The schemas that are defined. -/
def schemaDefinitions (d : Document) : List SchemaDefinition :=
  d.filterMap fun
    | .schema s => some s
    | _ => none

/-- What is added to the schema. -/
def schemaExtensions (d : Document) : List SchemaDefinition :=
  d.filterMap fun
    | .schemaExtension s => some s
    | _ => none

/-- The directives that are defined. -/
def directiveDefinitions (d : Document) : List DirectiveDefinition :=
  d.filterMap fun
    | .directive definition => some definition
    | _ => none

/-- All places with directives. -/
def sites (d : Document) : List Site := d.flatMap Definition.sites

/-- All uses of directives. -/
def directiveUses (d : Document) : List Directive := d.sites.flatMap (·.directives)

/-- **The definition of a directive**: the last one in the document, or else the one that every
schema has. -/
def directive? (d : Document) (name : String) : Option DirectiveDefinition :=
  (d.directiveDefinitions.reverse ++ Standard.directives).find? (·.name == name)

/-! ### What is defined is defined once -/

/-- At most one schema is defined. -/
def hasOneSchema (d : Document) : Bool := d.schemaDefinitions.length ≤ 1

/-- Each kind of operation has one type to start from. -/
def hasDistinctRoots (d : Document) : Bool :=
  allDistinct (d.filterMap fun
    | .schema s | .schemaExtension s => some (s.operations.map (·.1))
    | _ => none).flatten

/-- No two types have one name. -/
def hasDistinctTypes (d : Document) : Bool := allDistinct (d.typeDefinitions.map (·.name))

/-- The names of the values that a type part has. -/
def enumNames : TypeBody → List String
  | .enum values => values.map (·.name)
  | _ => []

/-- The names of the fields that a type part has. -/
def fieldNames : TypeBody → List String
  | .object _ fields | .interface _ fields => fields.map (·.name)
  | .input fields => fields.map (·.name)
  | _ => []

/-- No enumeration has a value twice. -/
def hasDistinctEnumValues (d : Document) : Bool :=
  allDistinct (d.typeParts.flatMap fun t => (enumNames t.body).map fun name => (t.name, name))

/-- No type has two fields of one name. -/
def hasDistinctFields (d : Document) : Bool :=
  allDistinct (d.typeParts.flatMap fun t => (fieldNames t.body).map fun name => (t.name, name))

/-- The lists of arguments that a definition defines. -/
def parameterLists : Definition → List (List InputValue)
  | .directive d => [d.arguments]
  | .type t | .typeExtension t =>
    match t.body with
    | .object _ fields | .interface _ fields => fields.map (·.arguments)
    | _ => []
  | _ => []

/-- No field or directive has two arguments of one name. -/
def hasDistinctParameters (d : Document) : Bool :=
  (d.flatMap parameterLists).all fun arguments => allDistinct (arguments.map (·.name))

/-- No two directives have one name. -/
def hasDistinctDirectives (d : Document) : Bool :=
  allDistinct (d.directiveDefinitions.map (·.name))

/-! ### What is used is defined -/

/-- Whether a name of a type is known where a definition uses it. The types that every schema has
are known to the definitions of a schema alone. -/
def knowsType (d : Document) (user : Definition) (name : String) : Bool :=
  (d.typeDefinitions.map (·.name)).contains name ||
    (user.isOfSchema && Standard.typeNames.contains name)

/-- All types that are referred to are known. -/
def hasKnownTypes (d : Document) : Bool :=
  d.all fun definition => definition.typeNames.all (d.knowsType definition)

/-- What is added to a type is added to one of its sort. -/
def hasFittingExtensions (d : Document) : Bool :=
  d.typeExtensions.all fun e =>
    match d.typeDefinitions.reverse.find? (·.name == e.name) with
    | some t => t.body.word == e.body.word
    | none => false

/-! ### Directives -/

/-- All directives are known, and stand where they may. -/
def hasPlacedDirectives (d : Document) : Bool :=
  d.sites.all fun site => site.directives.all fun use =>
    match d.directive? use.name with
    | some definition => definition.locations.contains site.location
    | none => false

/-- The names of the directives in a place that may stand there once only, each with the owner of
the place. -/
def onceOnly (d : Document) (site : Site) : List (Owner × String) :=
  (site.directives.filter fun use =>
    match d.directive? use.name with
    | some definition => !definition.repeatable
    | none => false).map fun use => (site.owner, use.name)

/-- No directive is repeated that may not be: within its place, or within all places of its owner.
-/
def hasUnrepeatedDirectives (d : Document) : Bool :=
  let marks := d.sites.map d.onceOnly
  marks.all allDistinct && allDistinct (marks.flatten.filter fun mark => mark.1 != .alone)

/-- All arguments that are given to directives are arguments they have. -/
def hasKnownArguments (d : Document) : Bool :=
  d.directiveUses.all fun use =>
    match d.directive? use.name with
    | some definition =>
      use.arguments.all fun given => (definition.arguments.map (·.name)).contains given.1
    | none => true

/-- Whether an argument must be given. -/
def isRequired (v : InputValue) : Bool := v.type.isNonNull && v.default.isNone

/-- All arguments that must be given to directives are given. -/
def hasRequiredArguments (d : Document) : Bool :=
  d.directiveUses.all fun use =>
    match d.directive? use.name with
    | some definition =>
      (definition.arguments.filter isRequired).all fun v =>
        (use.arguments.map (·.1)).contains v.name
    | none => true

/-! ### Arguments and literals -/

/-- No argument is given twice. -/
def hasDistinctArguments (d : Document) : Bool :=
  (d.flatMap Definition.argumentLists).all fun given => allDistinct (given.map (·.1))

/-- No field of an object literal is given twice. -/
def hasDistinctLiteralFields (d : Document) : Bool :=
  ((d.flatMap Definition.literals).flatMap Literal.fieldLists).all allDistinct

/-! ### All rules -/

/-- **Whether a document keeps all rules on the definition of a schema.** -/
def isSchema (d : Document) : Bool :=
  d.hasOneSchema && d.hasDistinctRoots && d.hasDistinctTypes && d.hasDistinctEnumValues &&
    d.hasDistinctFields && d.hasDistinctParameters && d.hasDistinctDirectives &&
    d.hasKnownTypes && d.hasPlacedDirectives && d.hasUnrepeatedDirectives &&
    d.hasFittingExtensions && d.hasKnownArguments && d.hasDistinctArguments &&
    d.hasDistinctLiteralFields && d.hasRequiredArguments

end Document

end OperationCatalog.GraphQL
