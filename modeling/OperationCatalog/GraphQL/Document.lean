/-!
# Documents of the query language

A document is a list of definitions. The executable ones are operations and fragments; the others
define a schema – its types, its directives, its entry points – or extend one. Literals are kept as
they are written: what a number or a name means depends on the type that is expected.
-/

namespace OperationCatalog.GraphQL

/-! ### Types and literals -/

/-- A type where it is referred to. -/
inductive TypeRef where
  /-- The type with this name. -/
  | named (name : String)
  /-- A list of items of this type. -/
  | list (item : TypeRef)
  /-- This type without null. -/
  | nonNull (inner : TypeRef)
  deriving DecidableEq, Repr

namespace TypeRef

/-- The name inside all lists. -/
def baseName : TypeRef → String
  | named name => name
  | list item => item.baseName
  | nonNull inner => inner.baseName

/-- The text of a reference. -/
def text : TypeRef → String
  | named name => name
  | list item => "[" ++ item.text ++ "]"
  | nonNull inner => inner.text ++ "!"

/-- Whether null is excluded. -/
def isNonNull : TypeRef → Bool
  | nonNull _ => true
  | _ => false

/-- The reference without the outermost exclusion of null. -/
def nullable : TypeRef → TypeRef
  | nonNull inner => inner
  | t => t

end TypeRef

/-- A value as it is written. -/
inductive Literal where
  /-- The value of a variable. -/
  | variableName (name : String)
  /-- An integer. -/
  | int (text : String)
  /-- A number with a fraction or an exponent. -/
  | float (text : String)
  /-- A string. -/
  | string (value : String)
  /-- A truth value. -/
  | bool (value : Bool)
  /-- Null. -/
  | null
  /-- A name. -/
  | enum (name : String)
  /-- A list. -/
  | list (items : List Literal)
  /-- Named fields. -/
  | object (fields : List (String × Literal))
  deriving Repr

/-- An argument: a name and a value. -/
abbrev Argument := String × Literal

/-- The use of a directive. -/
structure Directive where
  /-- Its name. -/
  name : String
  /-- The arguments given. -/
  arguments : List Argument
  deriving Repr

/-! ### Places of directives -/

/-- The places where a directive may be used in an operation. -/
def executableLocations : List String :=
  ["QUERY", "MUTATION", "SUBSCRIPTION", "FIELD", "FRAGMENT_DEFINITION", "FRAGMENT_SPREAD",
    "INLINE_FRAGMENT", "VARIABLE_DEFINITION"]

/-- The places where a directive may be used in the definition of a schema. -/
def schemaLocations : List String :=
  ["SCHEMA", "SCALAR", "OBJECT", "FIELD_DEFINITION", "ARGUMENT_DEFINITION", "INTERFACE", "UNION",
    "ENUM", "ENUM_VALUE", "INPUT_OBJECT", "INPUT_FIELD_DEFINITION"]

/-- All places where a directive may be used. -/
def locations : List String := executableLocations ++ schemaLocations

/-! ### Executable definitions -/

/-- What an operation does. -/
inductive OperationKind where
  /-- It reads. -/
  | query
  /-- It writes and then reads. -/
  | mutation
  /-- It reads again and again. -/
  | subscription
  deriving DecidableEq, Repr

/-- The word for a kind of operation. -/
def OperationKind.word : OperationKind → String
  | query => "query"
  | mutation => "mutation"
  | subscription => "subscription"

/-- The kinds of operation by their words. -/
def OperationKind.words : List (String × OperationKind) :=
  [("query", .query), ("mutation", .mutation), ("subscription", .subscription)]

/-- What is selected from a value. -/
inductive Selection where
  /-- A field, perhaps under another name. -/
  | field (label : Option String) (name : String) (arguments : List Argument)
      (directives : List Directive) (selections : List Selection)
  /-- What a fragment selects. -/
  | spread (fragment : String) (directives : List Directive)
  /-- What is selected if the value is of a type. -/
  | inlineFragment (typeName : Option String) (directives : List Directive)
      (selections : List Selection)
  deriving Repr

/-- A variable of an operation. -/
structure Variable where
  /-- Its name. -/
  name : String
  /-- Its type. -/
  type : TypeRef
  /-- Its value where none is given. -/
  default : Option Literal
  /-- The directives on it. -/
  directives : List Directive
  deriving Repr

/-- An operation. -/
structure Operation where
  /-- What it does. -/
  kind : OperationKind
  /-- Its name, if it has one. -/
  name : Option String
  /-- Its variables. -/
  vars : List Variable
  /-- The directives on it. -/
  directives : List Directive
  /-- What it selects. -/
  selections : List Selection
  deriving Repr

/-- A fragment. -/
structure Fragment where
  /-- Its name. -/
  name : String
  /-- The type it selects from. -/
  typeName : String
  /-- The directives on it. -/
  directives : List Directive
  /-- What it selects. -/
  selections : List Selection
  deriving Repr

/-! ### Definitions of a schema -/

/-- An argument of a field or directive, or a field of an input object. -/
structure InputValue where
  /-- What it is for. -/
  description : Option String
  /-- Its name. -/
  name : String
  /-- Its type. -/
  type : TypeRef
  /-- Its value where none is given. -/
  default : Option Literal
  /-- The directives on it. -/
  directives : List Directive
  deriving Repr

/-- A field of an object or interface. -/
structure OutputField where
  /-- What it is for. -/
  description : Option String
  /-- Its name. -/
  name : String
  /-- Its arguments. -/
  arguments : List InputValue
  /-- Its type. -/
  type : TypeRef
  /-- The directives on it. -/
  directives : List Directive
  deriving Repr

/-- A value of an enumeration. -/
structure EnumValue where
  /-- What it is for. -/
  description : Option String
  /-- Its name. -/
  name : String
  /-- The directives on it. -/
  directives : List Directive
  deriving Repr

/-- What a type is made of. -/
inductive TypeBody where
  /-- A scalar has no parts. -/
  | scalar
  /-- An object has interfaces and fields. -/
  | object (interfaces : List String) (fields : List OutputField)
  /-- An interface has interfaces and fields too. -/
  | interface (interfaces : List String) (fields : List OutputField)
  /-- A union has members. -/
  | union (members : List String)
  /-- An enumeration has values. -/
  | enum (values : List EnumValue)
  /-- An input object has input fields. -/
  | input (fields : List InputValue)
  deriving Repr

/-- A type, or what is added to one. -/
structure TypeDefinition where
  /-- What it is for. -/
  description : Option String
  /-- Its name. -/
  name : String
  /-- The directives on it. -/
  directives : List Directive
  /-- What it is made of. -/
  body : TypeBody
  deriving Repr

/-- The entry points of a schema, or what is added to them. -/
structure SchemaDefinition where
  /-- What the schema is for. -/
  description : Option String
  /-- The directives on it. -/
  directives : List Directive
  /-- The types that operations start from. -/
  operations : List (OperationKind × String)
  deriving Repr

/-- A directive. -/
structure DirectiveDefinition where
  /-- What it is for. -/
  description : Option String
  /-- Its name. -/
  name : String
  /-- Its arguments. -/
  arguments : List InputValue
  /-- Whether it may be used twice in one place. -/
  repeatable : Bool
  /-- Where it may be used. -/
  locations : List String
  deriving Repr

/-- **A definition.** -/
inductive Definition where
  /-- An operation. -/
  | operation (operation : Operation)
  /-- A fragment. -/
  | fragment (fragment : Fragment)
  /-- The entry points of the schema. -/
  | schema (schema : SchemaDefinition)
  /-- A type. -/
  | type (type : TypeDefinition)
  /-- A directive. -/
  | directive (directive : DirectiveDefinition)
  /-- More entry points. -/
  | schemaExtension (extension : SchemaDefinition)
  /-- More of a type. -/
  | typeExtension (extension : TypeDefinition)
  deriving Repr

/-- A document. -/
abbrev Document := List Definition

/-! ### Words for definitions -/

/-- The word for what a type is made of. -/
def TypeBody.word : TypeBody → String
  | scalar => "scalar_type"
  | object _ _ => "object_type"
  | interface _ _ => "interface_type"
  | union _ => "union_type"
  | enum _ => "enum_type"
  | input _ => "input_object_type"

/-- The word for a kind of definition. -/
def Definition.word : Definition → String
  | operation _ => "operation_definition"
  | fragment _ => "fragment_definition"
  | schema _ => "schema_definition"
  | type t => t.body.word ++ "_definition"
  | directive _ => "directive_definition"
  | schemaExtension _ => "schema_extension"
  | typeExtension t => t.body.word ++ "_extension"

/-- The name of a definition, if it has one. -/
def Definition.name? : Definition → Option String
  | operation o => o.name
  | fragment f => some f.name
  | schema _ => none
  | type t => some t.name
  | directive d => some d.name
  | schemaExtension _ => none
  | typeExtension t => some t.name

end OperationCatalog.GraphQL
