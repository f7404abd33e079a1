import OperationCatalog.GraphQL.Schema.Rules

/-!
# The types that names stand for

While a schema is built, a name of a type stands for one of the types that every schema has, or else
for what the document says under that name: the definition and all that is added to it
(`OperationCatalog.GraphQL.Scope`).
-/

namespace OperationCatalog.GraphQL

/-- Why a document is not a schema. -/
inductive SchemaFault where
  /-- It breaks a rule, or uses a type where it cannot be used. -/
  | misuse
  /-- A directive that the build reads has a value it cannot have. -/
  | badDirective
  /-- What is added to an enumeration has no values. -/
  | noValues
  deriving DecidableEq, Repr

/-! ### Directives that the build reads -/

/-- The last of some named things with a name. -/
def lastNamed? {α : Type} (name : String) (given : List (String × α)) : Option α :=
  given.reverse.lookup name

/-- The last argument of a name that a directive is given. -/
def Directive.argument? (use : Directive) (name : String) : Option Literal :=
  lastNamed? name use.arguments

/-- The first use of a directive. -/
def firstUse? (name : String) (directives : List Directive) : Option Directive :=
  directives.find? (·.name == name)

/-- A reason for not using something any more is text, null, or not given. -/
def checkDeprecation (directives : List Directive) : Except SchemaFault Unit :=
  match (firstUse? "deprecated" directives).bind (·.argument? "reason") with
  | none | some .null | some (.string _) => .ok ()
  | some _ => .error .badDirective

/-- The place where a scalar is specified is text. -/
def checkSpecification (directives : List Directive) : Except SchemaFault Unit :=
  match firstUse? "specifiedBy" directives with
  | none => .ok ()
  | some use =>
    match use.argument? "url" with
    | some (.string _) => .ok ()
    | _ => .error .badDirective

/-! ### What is added to types -/

/-- A part with one of the same sort added to it; scalars have no parts. `none` if the sorts
differ. -/
def TypeBody.extended? : TypeBody → TypeBody → Option TypeBody
  | .scalar, .scalar => some .scalar
  | .object is fs, .object js gs => some (.object (is ++ js) (fs ++ gs))
  | .interface is fs, .interface js gs => some (.interface (is ++ js) (fs ++ gs))
  | .union ms, .union ns => some (.union (ms ++ ns))
  | .enum vs, .enum ws => some (.enum (vs ++ ws))
  | .input fs, .input gs => some (.input (fs ++ gs))
  | _, _ => none

/-- What of a part of a type is found out before all else. -/
def TypeDefinition.checkPart (t : TypeDefinition) : Except SchemaFault Unit :=
  match t.body with
  | .scalar => checkSpecification t.directives
  | .enum values => values.forM fun v => checkDeprecation v.directives
  | _ => .ok ()

/-- A part of a type with a part added to it. Only the parts of an enumeration are found out about
one after the other, and so is that one of them has no values. -/
def TypeDefinition.extendedByOne (t e : TypeDefinition) : Except SchemaFault TypeDefinition :=
  match t.body, e.body with
  | .enum vs, .enum ws => do
    e.checkPart
    return { t with body := .enum (vs ++ ws) }
  | .enum _, _ => .error .noValues
  | body, added =>
    match body.extended? added with
    | some body => .ok { t with body }
    | none => .error .misuse

/-- **A type with all that is added to it.** -/
def TypeDefinition.extendedBy (t : TypeDefinition) (additions : List TypeDefinition) :
    Except SchemaFault TypeDefinition := do
  t.checkPart
  additions.foldlM TypeDefinition.extendedByOne t

/-- **The types of a document**, with all that is added to them. -/
structure Scope where
  /-- The names that the document defines, in the order in which they first occur. -/
  names : List String
  /-- The types under those of them that no schema has anyway. -/
  types : List TypeDefinition

namespace Scope

/-- The types of a document. Of two definitions of one name the later counts, yet both must be
in order. -/
def ofDocument (d : Document) : Except SchemaFault Scope := do
  let definitions := d.typeDefinitions
  let own := definitions.filter fun t => !Standard.typeNames.contains t.name
  let types ← own.mapM fun t => t.extendedBy (d.typeExtensions.filter (·.name == t.name))
  let latest := (own.map (·.name)).eraseDups.filterMap fun name =>
    types.reverse.find? (·.name == name)
  return ⟨(definitions.map (·.name)).eraseDups, latest⟩

/-- What a name stands for. -/
inductive Meaning where
  /-- A scalar that every schema has. -/
  | standardScalar
  /-- An enumeration of introspection, with the name that its values have in common and the
  values. -/
  | introspectionEnum (family : String) (values : List String)
  /-- An object type of introspection. -/
  | introspectionObject
  /-- A type of the document. -/
  | defined (t : TypeDefinition)

/-- **What a name stands for.** -/
def meaning? (s : Scope) (name : String) : Option Meaning :=
  if (Standard.scalars.map (·.1)).contains name then some .standardScalar
  else if Standard.introspectionObjects.contains name then some .introspectionObject
  else match Standard.introspectionEnums.lookup name with
    | some (family, values) => some (.introspectionEnum family values)
    | none => (s.types.find? (·.name == name)).map .defined

/-- What a name must stand for something. -/
def meaning (s : Scope) (name : String) : Except SchemaFault Meaning :=
  match s.meaning? name with
  | some m => .ok m
  | none => .error .misuse

namespace Meaning

/-- Whether values of the type can be given. -/
def isInput : Meaning → Bool
  | standardScalar => true
  | introspectionEnum _ _ => true
  | introspectionObject => false
  | defined t =>
    match t.body with
    | .scalar | .enum _ | .input _ => true
    | _ => false

/-- Whether values of the type can be returned. -/
def isOutput : Meaning → Bool
  | defined t =>
    match t.body with
    | .input _ => false
    | _ => true
  | _ => true

/-- Whether the type is an interface. -/
def isInterface : Meaning → Bool
  | defined t =>
    match t.body with
    | .interface _ _ => true
    | _ => false
  | _ => false

/-- Whether the type is an object that is returned. -/
def isObject : Meaning → Bool
  | introspectionObject => true
  | defined t =>
    match t.body with
    | .object _ _ => true
    | _ => false
  | _ => false

end Meaning

end Scope

end OperationCatalog.GraphQL
