/-!
# Names with a meaning of their own

Three classifications of names. A type whose name starts with two underscores belongs to
introspection; five scalars are part of the language; and of the directives that can
stand on an input field, three say something about the schema, while every other one is taken
for a rule on the values of the field.
-/

namespace OperationCatalog.GraphQL

/-- Whether a name is reserved for introspection. -/
def isIntrospectionName (name : String) : Bool := name.startsWith "__"

/-- The scalars of the language. -/
def standardScalarNames : List String := ["ID", "String", "Int", "Float", "Boolean"]

/-- Whether a name is that of a scalar of the language. -/
def isStandardScalar (name : String) : Bool := standardScalarNames.contains name

/-- The directives that say nothing about the values of a field. -/
def descriptiveDirectives : List String := ["deprecated", "specifiedBy", "oneOf"]

/-- **Whether a directive on an input field is a rule on its values.** -/
def isValidationDirective (name : String) : Bool := !descriptiveDirectives.contains name

end OperationCatalog.GraphQL
