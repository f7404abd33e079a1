import OperationCatalog.Decimal.Power
import OperationCatalog.GraphQL.Schema.Basic
import OperationCatalog.GraphQL.Schema.Scope
import OperationCatalog.GraphQL.Value

/-!
# Values of a type

A literal where a type is expected has the value that the type makes of it, or none if it does
not fit. Null fits wherever it is not excluded. A list takes a list of what its items take, and also
a single item, which then is a list of one. An object takes an object literal: fields that are not
given have their own values where none is given, and fields it does not have are passed over. A
scalar of the language takes the literals it can, an enumeration its names, and every
other scalar takes any literal as it looks. The names of an enumeration are text, but those of
introspection are constants.

The fields of an input object have values of their own where none is given, which are literals of
further types. `OperationCatalog.GraphQL.coerce` is told by `fieldsOf` what the fields of a type
are, and so does not depend on how deep that goes.
-/

namespace OperationCatalog.GraphQL

/-! ### Scalars and enumerations -/

/-- The least and the greatest integer that the language has. -/
def isSmallInt (i : Int) : Bool := -(powerOfTwo 31) ≤ i && i < powerOfTwo 31

/-- **The value that a scalar makes of a literal**, if it fits. -/
def scalarValue? (name : String) (l : Literal) : Option Value :=
  match name, l with
  | "Int", .int text => ((intOf? text).filter isSmallInt).map fun i => .scalar (.int i)
  | "Int", _ => none
  | "Float", .int text | "Float", .float text => some (.scalar (.float (floatOf text)))
  | "Float", _ => none
  | "String", .string s => some (.text s)
  | "String", _ => none
  | "Boolean", .bool b => some (.scalar (.bool b))
  | "Boolean", _ => none
  | "ID", .string s | "ID", .int s => some (.text s)
  | "ID", _ => none
  | _, l => some l.value

/-- The value of an enumeration that a literal names. -/
def enumName? (values : List String) (l : Literal) : Option String :=
  match l with
  | .enum name => if values.contains name then some name else none
  | _ => none

/-! ### Objects -/

/-- What a type makes of a literal: a value, none if it does not fit, or a fault of the schema. -/
abbrev Coercer := TypeRef → Except SchemaFault (Option Value)

/-- What is known of the fields of an input object. -/
abbrev FieldsOf := TypeDefinition → Except SchemaFault (List InputField)

/-- The values of some fields: of those that are given, what their types make of them, and of the
others, what they have where none is given. `none` if one does not fit or is missing. -/
def fieldValues? (given : List (String × Coercer)) :
    List InputField → Except SchemaFault (Option (List (String × Value)))
  | [] => .ok (some [])
  | field :: rest =>
    match lastNamed? field.name given with
    | none =>
      match field.default with
      | some value => do
        let values ← fieldValues? given rest
        return values.map ((field.name, value) :: ·)
      | none => if field.type.isNonNull then .ok none else fieldValues? given rest
    | some coercer => do
      match ← coercer field.type with
      | none => return none
      | some value =>
        let values ← fieldValues? given rest
        return values.map ((field.name, value) :: ·)

/-- Whether exactly one field has a value, which is not null. -/
def isChoice (values : List (String × Value)) : Bool :=
  match values with
  | [(_, .scalar .null)] => false
  | [_] => true
  | _ => false

/-- Whether exactly one field of an object must be given. -/
def TypeDefinition.isOneOf (t : TypeDefinition) : Bool := t.directives.any (·.name == "oneOf")

/-- The value that an input object makes of given fields. -/
def objectValue? (fieldsOf : FieldsOf) (t : TypeDefinition) (given : List (String × Coercer)) :
    Except SchemaFault (Option Value) := do
  let fields ← fieldsOf t
  let values ← fieldValues? given fields
  return (values.filter fun vs => !t.isOneOf || isChoice vs).map fun vs =>
    .map (vs.map fun (name, value) => (.str name, value))

/-! ### All types -/

/-- The lists around the name in a type. -/
def TypeRef.listDepth : TypeRef → Nat
  | .named _ => 0
  | .list item => item.listDepth + 1
  | .nonNull inner => inner.listDepth

/-- A value in some lists of one item. -/
def enlist (value : Value) : (depth : Nat) → Value
  | 0 => value
  | depth + 1 => .list [enlist value depth]

/-- **What a named type makes of a literal** that is not null. `given` are the fields of the
literal, if it is an object. -/
def namedValue? (s : Scope) (fieldsOf : FieldsOf) (name : String) (l : Literal)
    (given : Option (List (String × Coercer))) : Except SchemaFault (Option Value) := do
  match ← s.meaning name with
  | .standardScalar => return scalarValue? name l
  | .introspectionEnum family values =>
    return (enumName? values l).map fun name => .scalar (.constant (family ++ "." ++ name))
  | .introspectionObject => .error .misuse
  | .defined t =>
    match t.body, given with
    | .scalar, _ => return some l.value
    | .enum values, _ => return (enumName? (values.map (·.name)) l).map .text
    | .input _, some fields => objectValue? fieldsOf t fields
    | .input _, none => return none
    | _, _ => .error .misuse

/-- What a type makes of a literal that is neither null nor a list. -/
def singleValue? (s : Scope) (fieldsOf : FieldsOf) (l : Literal)
    (given : Option (List (String × Coercer))) : Coercer := fun type => do
  let value ← namedValue? s fieldsOf type.baseName l given
  return value.map (enlist · type.listDepth)

mutual

/-- **What a type makes of a literal.** -/
def coerce (s : Scope) (fieldsOf : FieldsOf) : Literal → Coercer
  | .null => fun type => .ok (if type.isNonNull then none else some .null)
  | .list items => fun type =>
    match type.nullable with
    | .list item => do
      let values ← coerceItems s fieldsOf items item
      return values.map .list
    | other => namedValue? s fieldsOf other.baseName (.list items) none
  | .object fields =>
    singleValue? s fieldsOf (.object fields) (some (coercers s fieldsOf fields))
  | .variableName name => singleValue? s fieldsOf (.variableName name) none
  | .int text => singleValue? s fieldsOf (.int text) none
  | .float text => singleValue? s fieldsOf (.float text) none
  | .string text => singleValue? s fieldsOf (.string text) none
  | .bool b => singleValue? s fieldsOf (.bool b) none
  | .enum name => singleValue? s fieldsOf (.enum name) none

/-- What a type makes of the items of a list, up to the first that does not fit. -/
def coerceItems (s : Scope) (fieldsOf : FieldsOf) :
    List Literal → TypeRef → Except SchemaFault (Option (List Value))
  | [], _ => .ok (some [])
  | item :: rest, type => do
    match ← coerce s fieldsOf item type with
    | none => return none
    | some value =>
      let values ← coerceItems s fieldsOf rest type
      return values.map (value :: ·)

/-- The fields of an object literal, waiting for their types. -/
def coercers (s : Scope) (fieldsOf : FieldsOf) :
    List (String × Literal) → List (String × Coercer)
  | [] => []
  | (name, l) :: rest => (name, coerce s fieldsOf l) :: coercers s fieldsOf rest

end

end OperationCatalog.GraphQL
