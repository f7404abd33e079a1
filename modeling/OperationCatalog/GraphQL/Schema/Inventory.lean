import OperationCatalog.GraphQL.Document

/-!
# What occurs in a document

The rules on documents speak of everything of one sort, wherever it stands: of all uses of
directives, all lists of arguments, all literals, all names of types. Here these are collected from
a document, in the order in which they stand.
-/

namespace OperationCatalog.GraphQL

/-! ### Inside selections and literals -/

mutual

/-- A selection and all selections inside it. -/
def Selection.all : Selection → List Selection
  | .field label name arguments directives selections =>
    .field label name arguments directives selections :: Selection.allOf selections
  | .spread fragment directives => [.spread fragment directives]
  | .inlineFragment typeName directives selections =>
    .inlineFragment typeName directives selections :: Selection.allOf selections

/-- Some selections and all selections inside them. -/
def Selection.allOf : List Selection → List Selection
  | [] => []
  | s :: rest => s.all ++ Selection.allOf rest

end

mutual

/-- The names of the fields of all objects in a literal, object by object. -/
def Literal.fieldLists : Literal → List (List String)
  | .list items => Literal.fieldListsOf items
  | .object fields => fields.map (·.1) :: Literal.fieldListsIn fields
  | _ => []

/-- The names of the fields of all objects in some literals. -/
def Literal.fieldListsOf : List Literal → List (List String)
  | [] => []
  | item :: rest => item.fieldLists ++ Literal.fieldListsOf rest

/-- The names of the fields of all objects in the values of some fields. -/
def Literal.fieldListsIn : List (String × Literal) → List (List String)
  | [] => []
  | (_, value) :: rest => value.fieldLists ++ Literal.fieldListsIn rest

end

/-! ### Uses of directives -/

/-- Whose directives count together. -/
inductive Owner where
  /-- Those of the schema and of all that is added to it. -/
  | schema
  /-- Those of a type and of all that is added to it. -/
  | type (name : String)
  /-- Those in one place only. -/
  | alone
  deriving DecidableEq, Repr

/-- A place with directives. -/
structure Site where
  /-- What sort of place it is. -/
  location : String
  /-- Whose directives they are. -/
  owner : Owner
  /-- The directives. -/
  directives : List Directive
  deriving Repr

/-- The place of a selection. -/
def Selection.site : Selection → Site
  | .field _ _ _ directives _ => ⟨"FIELD", .alone, directives⟩
  | .spread _ directives => ⟨"FRAGMENT_SPREAD", .alone, directives⟩
  | .inlineFragment _ directives _ => ⟨"INLINE_FRAGMENT", .alone, directives⟩

/-- The place of an argument or input field. -/
def InputValue.site (location : String) (v : InputValue) : Site := ⟨location, .alone, v.directives⟩

/-- The places of the arguments of a field and of the field. -/
def OutputField.sites (f : OutputField) : List Site :=
  ⟨"FIELD_DEFINITION", .alone, f.directives⟩ ::
    f.arguments.map (InputValue.site "ARGUMENT_DEFINITION")

/-- The word for the place of a type. -/
def TypeBody.location : TypeBody → String
  | .scalar => "SCALAR"
  | .object _ _ => "OBJECT"
  | .interface _ _ => "INTERFACE"
  | .union _ => "UNION"
  | .enum _ => "ENUM"
  | .input _ => "INPUT_OBJECT"

/-- The places in what a type is made of. `inputLocation` is what its input fields count as. -/
def TypeBody.sites (inputLocation : String) : TypeBody → List Site
  | .object _ fields | .interface _ fields => fields.flatMap OutputField.sites
  | .enum values => values.map fun v => ⟨"ENUM_VALUE", .alone, v.directives⟩
  | .input fields => fields.map (InputValue.site inputLocation)
  | _ => []

/-- The places in a type. -/
def TypeDefinition.sites (inputLocation : String) (t : TypeDefinition) : List Site :=
  ⟨t.body.location, .type t.name, t.directives⟩ :: t.body.sites inputLocation

/-- The word for the place of an operation. -/
def OperationKind.location : OperationKind → String
  | .query => "QUERY"
  | .mutation => "MUTATION"
  | .subscription => "SUBSCRIPTION"

/-- **The places with directives in a definition.** An input field that is added to a type counts as
an argument. -/
def Definition.sites : Definition → List Site
  | .operation o =>
    ⟨o.kind.location, .alone, o.directives⟩ ::
      (o.vars.map fun v => ⟨"VARIABLE_DEFINITION", .alone, v.directives⟩) ++
      (Selection.allOf o.selections).map Selection.site
  | .fragment f =>
    ⟨"FRAGMENT_DEFINITION", .alone, f.directives⟩ ::
      (Selection.allOf f.selections).map Selection.site
  | .schema s | .schemaExtension s => [⟨"SCHEMA", .schema, s.directives⟩]
  | .type t => t.sites "INPUT_FIELD_DEFINITION"
  | .typeExtension t => t.sites "ARGUMENT_DEFINITION"
  | .directive d => d.arguments.map (InputValue.site "ARGUMENT_DEFINITION")

/-! ### Arguments and literals -/

/-- The selections of a definition, at any depth. -/
def Definition.selections : Definition → List Selection
  | .operation o => Selection.allOf o.selections
  | .fragment f => Selection.allOf f.selections
  | _ => []

/-- The arguments given to a selected field. -/
def Selection.arguments : Selection → List Argument
  | .field _ _ arguments _ _ => arguments
  | _ => []

/-- **The lists of arguments given in a definition.** -/
def Definition.argumentLists (d : Definition) : List (List Argument) :=
  d.selections.map Selection.arguments ++
    (d.sites.flatMap (·.directives)).map (·.arguments)

/-- The arguments and input fields that a type defines. -/
def TypeBody.inputValues : TypeBody → List InputValue
  | .object _ fields | .interface _ fields => fields.flatMap (·.arguments)
  | .input fields => fields
  | _ => []

/-- The literals that stand for values not given. -/
def Definition.defaults : Definition → List Literal
  | .operation o => o.vars.filterMap (·.default)
  | .type t | .typeExtension t => t.body.inputValues.filterMap (·.default)
  | .directive d => d.arguments.filterMap (·.default)
  | _ => []

/-- **The literals in a definition.** -/
def Definition.literals (d : Definition) : List Literal :=
  d.argumentLists.flatten.map (·.2) ++ d.defaults

/-! ### Names of types -/

/-- The name of the type that a selection is conditional on. -/
def Selection.typeName? : Selection → Option String
  | .inlineFragment typeName _ _ => typeName
  | _ => none

/-- The names of types in a field. -/
def OutputField.typeNames (f : OutputField) : List String :=
  f.type.baseName :: f.arguments.map (·.type.baseName)

/-- The names of types in what a type is made of. -/
def TypeBody.typeNames : TypeBody → List String
  | .object interfaces fields | .interface interfaces fields =>
    interfaces ++ fields.flatMap OutputField.typeNames
  | .union members => members
  | .input fields => fields.map (·.type.baseName)
  | _ => []

/-- **The names of types in a definition.** -/
def Definition.typeNames : Definition → List String
  | .operation o =>
    o.vars.map (·.type.baseName) ++
      (Selection.allOf o.selections).filterMap Selection.typeName?
  | .fragment f =>
    f.typeName :: (Selection.allOf f.selections).filterMap Selection.typeName?
  | .schema s | .schemaExtension s => s.operations.map (·.2)
  | .type t | .typeExtension t => t.body.typeNames
  | .directive d => d.arguments.map (·.type.baseName)

/-- Whether a definition belongs to a schema. -/
def Definition.isOfSchema : Definition → Bool
  | .operation _ | .fragment _ => false
  | _ => true

end OperationCatalog.GraphQL
