import OperationCatalog.Catalog.Basic
import OperationCatalog.Text.Lines
import OperationCatalog.TypeScript.Code
import OperationCatalog.TypeScript.Interface

/-!
# A generated module

What a generated module holds: an import of the documents of its operations, the types of its
constants, one constant per enumeration and object that is declared, in a namespace, and one
constant per operation. Fields and parameters refer to a scalar by its name and to every other type
by its constant (`OperationCatalog.TypeScript.Module.reference`).

Members that say nothing are left out: an empty description, no rules, no arguments of a
rule, and a rule that is not meant for each item. The import is left out where there is
no module to import from, or no operation.

`OperationCatalog.TypeScript.Module.render` is the text of a module.
-/

namespace OperationCatalog.TypeScript

open Metadata

/-! ### What is declared -/

/-- A rule, with its opaque values as code. -/
structure RuleCode where
  /-- The name of the rule. -/
  type : String
  /-- Its arguments. -/
  constraints : List String
  /-- Whether it is meant for each item. -/
  each : Bool
  /-- The context it applies in, if one is given. -/
  context : Option String
  /-- Further settings, if any are given. -/
  options : Option String
  deriving DecidableEq, Repr

/-- What a field or parameter holds: one value, or a list of items of a kind, which may or may not
be empty. -/
inductive Shape where
  /-- One value of a type of this kind. -/
  | one (kind : TypeKind)
  /-- A list of items of a type of this kind. -/
  | list (itemKind : TypeKind) (allowsEmpty : Bool)
  deriving DecidableEq, Repr

namespace Shape

/-- The word for a shape. -/
def word : Shape → String
  | one kind => kind.word
  | list _ _ => "list"

/-- The kind of the type that is referred to. -/
def typeKind : Shape → TypeKind
  | one kind => kind
  | list itemKind _ => itemKind

end Shape

/-- A field of a declared object. -/
structure FieldCode where
  /-- Its name. -/
  name : String
  /-- The name of its type. -/
  type : String
  /-- Whether a value must be given. -/
  required : Bool
  /-- What it holds. -/
  shape : Shape
  /-- The rules on its values. -/
  rules : List RuleCode
  deriving DecidableEq, Repr

/-- What a declared type is made of. -/
inductive DeclarationBody where
  /-- The values of an enumeration. -/
  | enum (values : List String)
  /-- The fields of an object. -/
  | object (fields : List FieldCode)
  deriving DecidableEq, Repr

/-- A declared type. -/
structure Declaration where
  /-- Its name. -/
  name : String
  /-- What it is for, if that is said. -/
  description : Option String
  /-- What it is made of. -/
  body : DeclarationBody
  deriving DecidableEq, Repr

/-- A parameter of an operation. -/
structure ParameterCode where
  /-- Its name. -/
  name : String
  /-- The name of its type. -/
  type : String
  /-- Whether a value must be given. -/
  required : Bool
  /-- What it takes. -/
  shape : Shape
  deriving DecidableEq, Repr

/-- An operation. -/
structure OperationCode where
  /-- Its name. -/
  name : String
  /-- What it does. -/
  kind : GraphQL.OperationKind
  /-- What its document is called. -/
  document : String
  /-- Its parameters. -/
  parameters : List ParameterCode
  deriving DecidableEq, Repr

/-- **A generated module.** -/
structure Module where
  /-- The namespace of the declared types. -/
  namespaceName : String
  /-- The module that documents are imported from, if there is one. -/
  documentsImport : Option String
  /-- The declared types, in order. -/
  declarations : List Declaration
  /-- The operations, in order. -/
  operations : List OperationCode
  deriving DecidableEq, Repr

/-! ### Members -/

/-- A member, if a condition holds. -/
def memberIf (condition : Bool) (name : String) (value : Code) : List (String × Code) :=
  if condition then [(name, value)] else []

/-- A member with an expression that may be missing. -/
def memberOf (name : String) (code : Option String) : List (String × Code) :=
  match code with
  | some text => [(name, .line text)]
  | none => []

/-- A description that is not empty. -/
def descriptionMember (description : Option String) : List (String × Code) :=
  match description with
  | some s => memberIf (s != "") "description" (.text s)
  | none => []

/-- The code of a rule. -/
def RuleCode.code (r : RuleCode) : Code :=
  .object (("type", .text r.type) ::
    memberIf (!r.constraints.isEmpty) "constraints" (.array (r.constraints.map .line)) ++
    memberIf r.each "each" (.bool true) ++
    memberOf "context" r.context ++
    memberOf "options" r.options)

/-- The members that say of which kind the items of a list are. -/
def Shape.itemKindMember : Shape → List (String × Code)
  | one _ => []
  | list itemKind _ => [("itemKind", .text itemKind.word)]

/-- The members that say whether a list may be empty. -/
def Shape.allowsEmptyMember : Shape → List (String × Code)
  | one _ => []
  | list _ allowsEmpty => [("allowsEmpty", .bool allowsEmpty)]

namespace Module

/-- **A reference to a type**: to a scalar by its name, to every other type by its constant. -/
def reference (namespaceName : String) (kind : TypeKind) (type : String) : Code :=
  if kind = .scalar then .text type else .line (namespaceName ++ "." ++ type)

/-- The code of a field. -/
def fieldCode (namespaceName : String) (f : FieldCode) : Code :=
  .object ([("name", .text f.name), ("kind", .text f.shape.word)] ++
    f.shape.itemKindMember ++
    [("type", reference namespaceName f.shape.typeKind f.type), ("required", .bool f.required)] ++
    f.shape.allowsEmptyMember ++
    memberIf (!f.rules.isEmpty) "validation" (.array (f.rules.map RuleCode.code)))

/-- The code of a parameter. -/
def parameterCode (namespaceName : String) (p : ParameterCode) : Code :=
  .object ([("parameter", .text p.name), ("required", .bool p.required),
      ("kind", .text p.shape.word)] ++
    p.shape.itemKindMember ++
    [("type", reference namespaceName p.shape.typeKind p.type)] ++
    p.shape.allowsEmptyMember)

/-- The interface of a declared type. -/
def interfaceOf : DeclarationBody → String
  | .enum _ => "GraphQLInputEnumTypeMetadata"
  | .object _ => "GraphQLInputObjectTypeMetadata"

/-- The code of a declared type. -/
def declarationCode (namespaceName : String) (d : Declaration) : Code :=
  match d.body with
  | .enum values =>
    .object ([("kind", .text "enum"), ("type", .text d.name)] ++
      descriptionMember d.description ++ [("values", .array (values.map .text))])
  | .object fields =>
    .object ([("kind", .text "object"), ("type", .text d.name)] ++
      descriptionMember d.description ++
      [("fields", .array (fields.map (fieldCode namespaceName)))])

/-- The code of an operation. -/
def operationCode (namespaceName : String) (o : OperationCode) : Code :=
  .object [("operation", .text o.name), ("operationType", .text o.kind.word),
    ("document", .line o.document),
    ("parameters", .array (o.parameters.map (parameterCode namespaceName)))]

/-! ### Lines -/

/-- The import of the documents of some operations. -/
def importLine (documents : List String) (source : String) : String :=
  "import \x7b " ++ ", ".intercalate documents ++ " \x7d from " ++ textLiteral source ++ ";"

/-- The import of a module, with an empty line after it. -/
def importLines (m : Module) : List String :=
  match m.documentsImport with
  | some source =>
    if source == "" || m.operations.isEmpty then []
    else [importLine (m.operations.map (·.document)) source, ""]
  | none => []

/-- The lines of a declared type, with an empty line before it. -/
def declarationLines (namespaceName : String) (d : Declaration) : List String :=
  "" :: (declarationCode namespaceName d).constantLines 2 d.name (interfaceOf d.body)

/-- The lines of the namespace. -/
def namespaceLines (m : Module) : List String :=
  ("export namespace " ++ m.namespaceName ++ " \x7b") ::
    m.declarations.flatMap (declarationLines m.namespaceName) ++ ["\x7d"]

/-- The type of the constant of an operation. -/
def operationType (document : String) : String :=
  "GraphQLOperationMetadata<typeof " ++ document ++ ">"

/-- The lines of an operation, with an empty line before it. -/
def operationLines (namespaceName : String) (o : OperationCode) : List String :=
  "" :: (operationCode namespaceName o).constantLines 0 (o.name ++ "Operation")
    (operationType o.document)

/-- The lines of a module. -/
def lines (m : Module) : List String :=
  m.importLines ++ TypeScript.declarationLines inputTypeInterfaces ++ [""] ++
    m.namespaceLines ++ [""] ++ TypeScript.declarationLines operationInterfaces ++
    m.operations.flatMap (operationLines m.namespaceName)

/-- **The text of a module.** -/
def render (m : Module) : String := Text.unlines m.lines

end Module

end OperationCatalog.TypeScript
