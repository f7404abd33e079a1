import OperationCatalog.GraphQL.Document

/-!
# What every schema has

Five scalars and the types of introspection are part of every schema, and so are five directives. A
type that a document defines under the name of one of these types is not used; a directive that a
document defines takes the place of the one with its name.
-/

namespace OperationCatalog.GraphQL.Standard

/-! ### Scalars -/

/-- A link in a description. -/
def link (label address : String) : String := "[" ++ label ++ "](https:" ++ "//" ++ address ++ ")"

/-- The scalars, with what they are for. -/
def scalars : List (String × String) :=
  [("Int",
      "The `Int` scalar type represents non-fractional signed whole numeric values. " ++
      "Int can represent values between -(2^31) and 2^31 - 1."),
    ("Float",
      "The `Float` scalar type represents signed double-precision fractional values as " ++
      "specified by " ++ link "IEEE 754" "en.wikipedia.org/wiki/IEEE_floating_point" ++ "."),
    ("String",
      "The `String` scalar type represents textual data, represented as UTF-8 character " ++
      "sequences. The String type is most often used by GraphQL to represent free-form " ++
      "human-readable text."),
    ("Boolean", "The `Boolean` scalar type represents `true` or `false`."),
    ("ID",
      "The `ID` scalar type represents a unique identifier, often used to refetch an object " ++
      "or as key for a cache. The ID type appears in a JSON response as a String; however, it " ++
      "is not intended to be human-readable. When expected as an input type, any string (such " ++
      "as `\"4\"`) or integer (such as `4`) input value will be accepted as an ID.")]

/-! ### Introspection -/

/-- The object types of introspection. Each of them refers to text and to truth values. -/
def introspectionObjects : List String :=
  ["__Schema", "__Directive", "__Type", "__Field", "__InputValue", "__EnumValue"]

/-- The enumerations of introspection, each with the name that its values have in common and the
values. -/
def introspectionEnums : List (String × String × List String) :=
  [("__TypeKind", "TypeKind",
      ["SCALAR", "OBJECT", "INTERFACE", "UNION", "ENUM", "INPUT_OBJECT", "LIST", "NON_NULL"]),
    ("__DirectiveLocation", "DirectiveLocation", locations)]

/-- The names of all types that every schema has. -/
def typeNames : List String :=
  scalars.map (·.1) ++ introspectionObjects ++ introspectionEnums.map (·.1)

/-! ### Directives -/

/-- The argument of a directive that every schema has. -/
def parameter (name : String) (type : TypeRef) (default : Option Literal) : InputValue :=
  ⟨none, name, type, default, []⟩

/-- A condition that must be given. -/
def condition : InputValue := parameter "if" (.nonNull (.named "Boolean")) none

/-- **The directives**: two that leave out parts of a selection, one that marks what should not be
used any more, one that says where a scalar is specified, and one for input objects of which one
field is given. -/
def directives : List DirectiveDefinition :=
  [⟨none, "include", [condition], false, ["FIELD", "FRAGMENT_SPREAD", "INLINE_FRAGMENT"]⟩,
    ⟨none, "skip", [condition], false, ["FIELD", "FRAGMENT_SPREAD", "INLINE_FRAGMENT"]⟩,
    ⟨none, "deprecated",
      [parameter "reason" (.named "String") (some (.string "No longer supported"))], false,
      ["FIELD_DEFINITION", "ARGUMENT_DEFINITION", "INPUT_FIELD_DEFINITION", "ENUM_VALUE"]⟩,
    ⟨none, "specifiedBy", [parameter "url" (.nonNull (.named "String")) none], false, ["SCALAR"]⟩,
    ⟨none, "oneOf", [], false, ["INPUT_OBJECT"]⟩]

end OperationCatalog.GraphQL.Standard
