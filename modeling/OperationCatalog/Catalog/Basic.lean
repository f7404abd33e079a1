import OperationCatalog.GraphQL.Document
import OperationCatalog.Metadata.Basic

/-!
# The entries of a catalog

What is said about an operation that declares variables: its name, what it does, the name its
document goes by, and one parameter per variable. A parameter refers to one input type – a list
parameter to the type of its items – and says of which kind that type is.
-/

namespace OperationCatalog.Catalog

open Metadata

/-- What a parameter takes: one value of a kind, or a list. -/
inductive ParameterShape where
  /-- One value of a type of this kind. -/
  | one (kind : TypeKind)
  /-- A list of items of a type of this kind; the items may be required not to be null. -/
  | list (itemKind : TypeKind) (itemsRequired : Bool)
  deriving DecidableEq, Repr

namespace ParameterShape

/-- The word for what a parameter takes. -/
def word : ParameterShape → String
  | one kind => kind.word
  | list _ _ => "list"

/-- The kind of the type that is referred to. -/
def typeKind : ParameterShape → TypeKind
  | one kind => kind
  | list itemKind _ => itemKind

/-- Whether an empty list is taken, which a list says that may hold null. -/
def allowsEmpty? : ParameterShape → Option Bool
  | one _ => none
  | list _ itemsRequired => some !itemsRequired

/-- The kind of the items of a list. -/
def itemKind? : ParameterShape → Option TypeKind
  | one _ => none
  | list itemKind _ => some itemKind

end ParameterShape

/-- A parameter. -/
structure Parameter where
  /-- Its name. -/
  name : String
  /-- The name of its type; for a list, of the type of its items. -/
  type : String
  /-- Whether a value must be given. -/
  required : Bool
  /-- The names of the directives on it. -/
  directives : List String
  /-- What it takes. -/
  shape : ParameterShape
  deriving DecidableEq, Repr

/-- **An entry**: an operation that declares variables. -/
structure Entry where
  /-- The name of the operation. -/
  name : String
  /-- What the operation does. -/
  kind : GraphQL.OperationKind
  /-- What the document of the operation is called. -/
  document : String
  /-- One parameter per variable, in order. -/
  parameters : List Parameter
  deriving DecidableEq, Repr

/-- The names of the types that an entry refers to, parameter by parameter. -/
def Entry.types (e : Entry) : List String := e.parameters.map (·.type)

end OperationCatalog.Catalog
