/-!
# The types of generated code

A generated module declares the types of its own constants, so that whoever uses them sees what
they may hold. The types come in two groups: those of descriptions of input
types (`OperationCatalog.TypeScript.inputTypeInterfaces`) and those of descriptions of operations
(`OperationCatalog.TypeScript.operationInterfaces`). Both are the same in every module.

A type is a choice between others, or an interface: members, each with the type of
what it holds, perhaps beside those of another interface. What a literal must have to be of
an interface can be read off here.
-/

namespace OperationCatalog.TypeScript

/-- A member of an interface. -/
structure Member where
  /-- Its name. -/
  name : String
  /-- Whether it may be missing. -/
  optional : Bool
  /-- The type of what it holds. -/
  type : String
  deriving DecidableEq, Repr

/-- A member that must be there. -/
def needs (name type : String) : Member := ⟨name, false, type⟩

/-- A member that may be missing. -/
def allows (name type : String) : Member := ⟨name, true, type⟩

/-- A type of generated code. -/
inductive TypeDeclaration where
  /-- A choice between types. -/
  | choice (name : String) (alternatives : List String)
  /-- An interface, exported or not, with the members of another one and some of its own. -/
  | interface (exported : Bool) (name : String) (base : Option String) (members : List Member)
  deriving DecidableEq, Repr

/-! ### Layout -/

/-- The line of a member. -/
def Member.line (m : Member) : String :=
  "  readonly " ++ m.name ++ (if m.optional then "?" else "") ++ ": " ++ m.type ++ ";"

/-- The lines of the alternatives of a choice. -/
def alternativeLines : List String → List String
  | [] => []
  | [last] => ["  " ++ last ++ ";"]
  | first :: rest => ("  " ++ first ++ " |") :: alternativeLines rest

/-- The lines of a type. -/
def TypeDeclaration.lines : TypeDeclaration → List String
  | choice name alternatives => ("export type " ++ name ++ " =") :: alternativeLines alternatives
  | interface exported name base members =>
    ((if exported then "export " else "") ++ "interface " ++ name ++
        (base.map (" extends " ++ ·)).getD "" ++ " \x7b") ::
      members.map Member.line ++ ["\x7d"]

/-- The lines of some types, with an empty line between two of them. -/
def declarationLines : List TypeDeclaration → List String
  | [] => []
  | [last] => last.lines
  | first :: rest => first.lines ++ "" :: declarationLines rest

/-! ### Input types -/

/-- An array type. -/
def readonlyArray (item : String) : String := "ReadonlyArray<" ++ item ++ ">"

/-- **The types of descriptions of input types.** -/
def inputTypeInterfaces : List TypeDeclaration :=
  [.choice "GraphQLInputTypeMetadata"
      ["GraphQLInputScalarTypeMetadata", "GraphQLInputEnumTypeMetadata",
        "GraphQLInputObjectTypeMetadata"],
    .interface false "BaseGraphQLInputTypeMetadata" none
      [needs "type" "string", allows "description" "string"],
    .interface true "GraphQLInputScalarTypeMetadata" (some "BaseGraphQLInputTypeMetadata")
      [needs "kind" "'scalar'"],
    .interface true "GraphQLInputEnumTypeMetadata" (some "BaseGraphQLInputTypeMetadata")
      [needs "kind" "'enum'", needs "values" (readonlyArray "string")],
    .interface true "GraphQLInputObjectTypeMetadata" (some "BaseGraphQLInputTypeMetadata")
      [needs "kind" "'object'", needs "fields" (readonlyArray "GraphQLInputObjectFieldMetadata")],
    .choice "GraphQLInputObjectFieldMetadata"
      ["GraphQLInputObjectScalarFieldMetadata", "GraphQLInputObjectEnumFieldMetadata",
        "GraphQLInputObjectObjectFieldMetadata", "GraphQLInputObjectListFieldMetadata",
        "GraphQLInputObjectScalarListFieldMetadata"],
    .interface false "BaseGraphQLInputObjectFieldMetadata" none
      [needs "name" "string", needs "required" "boolean",
        allows "validation" (readonlyArray "GraphQLInputObjectFieldValidationMetadata")],
    .interface true "GraphQLInputObjectScalarFieldMetadata"
      (some "BaseGraphQLInputObjectFieldMetadata")
      [needs "kind" "'scalar'", needs "type" "string"],
    .interface true "GraphQLInputObjectEnumFieldMetadata"
      (some "BaseGraphQLInputObjectFieldMetadata")
      [needs "kind" "'enum'", needs "type" "GraphQLInputEnumTypeMetadata"],
    .interface true "GraphQLInputObjectObjectFieldMetadata"
      (some "BaseGraphQLInputObjectFieldMetadata")
      [needs "kind" "'object'", needs "type" "GraphQLInputObjectTypeMetadata"],
    .interface false "BaseGraphQLInputObjectListFieldMetadata"
      (some "BaseGraphQLInputObjectFieldMetadata")
      [needs "kind" "'list'", needs "allowsEmpty" "boolean"],
    .interface true "GraphQLInputObjectListFieldMetadata"
      (some "BaseGraphQLInputObjectListFieldMetadata")
      [needs "itemKind" "'enum' | 'object'", needs "type" "GraphQLInputTypeMetadata"],
    .interface true "GraphQLInputObjectScalarListFieldMetadata"
      (some "BaseGraphQLInputObjectListFieldMetadata")
      [needs "itemKind" "'scalar'", needs "type" "string"],
    .interface true "GraphQLInputObjectFieldValidationMetadata" none
      [needs "type" "string", allows "constraints" (readonlyArray "any"),
        allows "each" "boolean", allows "context" "any", allows "options" "any"]]

/-! ### Operations -/

/-- **The types of descriptions of operations.** -/
def operationInterfaces : List TypeDeclaration :=
  [.interface true "GraphQLOperationMetadata<DocumentType>" none
      [needs "operation" "string",
        needs "operationType" "'query' | 'mutation' | 'subscription'",
        needs "document" "DocumentType",
        allows "parameters" (readonlyArray "GraphQLOperationParameterMetadata")],
    .choice "GraphQLOperationParameterMetadata"
      ["GraphQLOperationScalarParameterMetadata", "GraphQLOperationUnitParameterMetadata",
        "GraphQLOperationListParameterMetadata", "GraphQLOperationScalarListParameterMetadata"],
    .interface false "BaseGraphQLOperationParameterMetadata" none
      [needs "parameter" "string", needs "required" "boolean"],
    .interface true "GraphQLOperationScalarParameterMetadata"
      (some "BaseGraphQLOperationParameterMetadata")
      [needs "kind" "'scalar'", needs "type" "string"],
    .interface true "GraphQLOperationUnitParameterMetadata"
      (some "BaseGraphQLOperationParameterMetadata")
      [needs "kind" "'enum' | 'object'", needs "type" "GraphQLInputTypeMetadata"],
    .interface false "BaseGraphQLOperationListParameterMetadata"
      (some "BaseGraphQLOperationParameterMetadata")
      [needs "kind" "'list'", needs "allowsEmpty" "boolean"],
    .interface true "GraphQLOperationListParameterMetadata"
      (some "BaseGraphQLOperationListParameterMetadata")
      [needs "itemKind" "'enum' | 'object'", needs "type" "GraphQLInputTypeMetadata"],
    .interface true "GraphQLOperationScalarListParameterMetadata"
      (some "BaseGraphQLOperationListParameterMetadata")
      [needs "itemKind" "'scalar'", needs "type" "string"]]

end OperationCatalog.TypeScript
