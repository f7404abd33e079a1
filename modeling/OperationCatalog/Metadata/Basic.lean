import OperationCatalog.Value.Basic

/-!
# Descriptions of input types

What is known of an input type of a schema: a scalar is only a name, an enumeration has its
values, and an object has fields. A field names a type and says of which kind it takes
that type to be; a list field says so of its items, or leaves it to the type. Beside its
type a field may carry rules on its values. A rule is not interpreted here, so its parts are
opaque values.
-/

namespace OperationCatalog.Metadata

/-- The kind of a type. -/
inductive TypeKind where
  /-- A scalar. -/
  | scalar
  /-- An enumeration. -/
  | enum
  /-- An input object. -/
  | object
  deriving DecidableEq, Repr

/-- The word for a kind. -/
def TypeKind.word : TypeKind → String
  | scalar => "scalar"
  | enum => "enum"
  | object => "object"

/-- The kinds by their words. -/
def TypeKind.words : List (String × TypeKind) :=
  [("scalar", .scalar), ("enum", .enum), ("object", .object)]

/-- A rule on the values of a field, kept as it was written. -/
structure Rule where
  /-- The name of the rule. -/
  type : String
  /-- Its arguments, if any are given. -/
  constraints : Option (List ValueGraph) := none
  /-- Whether it is meant for each item, if that is said. -/
  each : Option Bool := none
  /-- The context it applies in, if one is given. -/
  context : Option ValueGraph := none
  /-- Further settings, if any are given. -/
  options : Option ValueGraph := none
  deriving Repr

/-- What a field holds: one value of a kind, or a list. -/
inductive FieldShape where
  /-- One value of a type of this kind. -/
  | one (kind : TypeKind)
  /-- A list, which may or may not be empty; the kind of its items may be left to their type. -/
  | list (itemKind : Option TypeKind) (allowsEmpty : Bool)
  deriving DecidableEq, Repr

/-- The word for the shape of a field. -/
def FieldShape.word : FieldShape → String
  | one kind => kind.word
  | list _ _ => "list"

/-- A field of an input object. -/
structure Field where
  /-- Its name. -/
  name : String
  /-- The name of its type; for a list, of the type of its items. -/
  type : String
  /-- Whether a value must be given. -/
  required : Bool
  /-- The rules on its values, if any are given. -/
  validation : Option (List Rule)
  /-- What it holds. -/
  shape : FieldShape
  deriving Repr

/-- What an input type is made of. -/
inductive TypeShape where
  /-- A scalar has no parts. -/
  | scalar
  /-- An enumeration has values. -/
  | enum (values : List String)
  /-- An object has fields. -/
  | object (fields : List Field)
  deriving Repr

/-- The kind of a shape. -/
def TypeShape.kind : TypeShape → TypeKind
  | scalar => .scalar
  | enum _ => .enum
  | object _ => .object

/-- **An input type.** -/
structure InputType where
  /-- Its name. -/
  name : String
  /-- What it is for, if that is said. -/
  description : Option String
  /-- What it is made of. -/
  shape : TypeShape
  deriving Repr

/-- The kind of a type. -/
def InputType.kind (t : InputType) : TypeKind := t.shape.kind

/-- The fields of a type; only objects have some. -/
def InputType.fields (t : InputType) : List Field :=
  match t.shape with
  | .object fields => fields
  | _ => []

/-- The text of an item type that cannot be described. -/
def unsupportedItemText (what : String) : String := "Unsupported list item type " ++ what

end OperationCatalog.Metadata
