import OperationCatalog.GraphQL.Document
import OperationCatalog.Value.Basic

/-!
# Schemas

What is kept of a schema: its types in order, and its directives with the values that their
arguments have where none is given. Of a type that values can be given for, everything that can be
said about such values is kept; of a type that is only returned, nothing but its name.

A schema has one type of each name: that is the proof `distinct` that every schema carries.
-/

namespace OperationCatalog.GraphQL

/-- A field of an input object. -/
structure InputField where
  /-- Its name. -/
  name : String
  /-- Its type. -/
  type : TypeRef
  /-- Its value where none is given, if it has one. -/
  default : Option Value
  /-- The directives on it. -/
  directives : List Directive
  deriving Repr

/-- What values a type has. -/
inductive TypeForm where
  /-- A scalar. -/
  | scalar
  /-- One of some names. -/
  | enum (values : List String)
  /-- An object with some fields. -/
  | input (fields : List InputField)
  /-- None that can be given: the type is only returned. -/
  | output
  deriving Repr

/-- A type of a schema. -/
structure SchemaType where
  /-- Its name. -/
  name : String
  /-- What it is for, if that is said. -/
  description : Option String
  /-- What values it has. -/
  form : TypeForm
  deriving Repr

/-- A directive of a schema. -/
structure SchemaDirective where
  /-- Its name. -/
  name : String
  /-- Its arguments, each with its value where none is given, if it has one. -/
  arguments : List (String × Option Value)
  deriving Repr

/-- **A schema.** -/
structure Schema where
  /-- Its types, in order. -/
  types : List SchemaType
  /-- Its directives; of two with one name the first counts. -/
  directives : List SchemaDirective
  /-- No name is that of two types. -/
  distinct : (types.map (·.name)).Nodup
  deriving Repr

namespace Schema

/-- The type with a name. -/
def type? (schema : Schema) (name : String) : Option SchemaType :=
  schema.types.find? (·.name == name)

/-- The directive with a name. -/
def directive? (schema : Schema) (name : String) : Option SchemaDirective :=
  schema.directives.find? (·.name == name)

end Schema

end OperationCatalog.GraphQL
