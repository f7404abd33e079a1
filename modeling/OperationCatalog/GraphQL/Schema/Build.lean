import OperationCatalog.GraphQL.Schema.Coercion

/-!
# From documents to schemas

A schema is built from a document that keeps the rules
(`OperationCatalog.GraphQL.Document.isSchema`), unless the document is taken on trust. Names are
replaced by what they stand for, and values that are not given by what the types make of their
literals; on the way it is found out whether types are used as they may be.

The order of the work decides which of two faults is met: scalars and enumerations come first, then
the types that operations start from, then directives, and then all other types in order.

**The order of the types** is that of their definitions; a type that every schema has comes after
the first type that refers to it. After them come those that operations start from, those of the
arguments of directives, and those of introspection (`OperationCatalog.GraphQL.Scope.typeOrder`).
-/

namespace OperationCatalog.GraphQL

/-- Put an item in the place of the one with its name, or last. -/
def putNamed {α : Type} (name : α → String) (a : α) : List α → List α
  | [] => [a]
  | b :: rest => if name b == name a then a :: rest else b :: putNamed name a rest

/-- Some items by name: of two with one name the later, in the place of the first. -/
def byName {α : Type} (name : α → String) (items : List α) : List α :=
  items.foldl (fun acc a => putNamed name a acc) []

/-! ### Names that occur twice -/

/-- The arguments of a field that count. -/
def OutputField.settled (f : OutputField) : OutputField :=
  { f with arguments := byName InputValue.name f.arguments }

/-- **The fields of a type that count**, with their arguments that count. -/
def TypeBody.settled : TypeBody → TypeBody
  | .object interfaces fields =>
    .object interfaces ((byName OutputField.name fields).map OutputField.settled)
  | .interface interfaces fields =>
    .interface interfaces ((byName OutputField.name fields).map OutputField.settled)
  | .input fields => .input (byName InputValue.name fields)
  | body => body

namespace Scope

/-! ### Input -/

/-- A type that values can be given for. -/
def checkInput (s : Scope) (name : String) : Except SchemaFault Unit := do
  if !(← s.meaning name).isInput then .error .misuse

/-- **The value that an argument or input field has where none is given.** A literal that does not
fit is no value. -/
def defaultOf (s : Scope) (fieldsOf : FieldsOf) (v : InputValue) :
    Except SchemaFault (Option Value) := do
  let _ ← s.meaning v.type.baseName
  let value ← match v.default with
    | none => pure none
    | some l => coerce s fieldsOf l v.type
  checkDeprecation v.directives
  s.checkInput v.type.baseName
  return value

/-- The fields of a type as they are written. -/
def inputValuesOf (t : TypeDefinition) : List InputValue :=
  match t.body with
  | .input fields => fields
  | _ => []

/-- The fields of an input object with their values where none are given. A value may be an object,
for which the fields of further objects must be known; no object is met again on the way, so `depth`
need not exceed the number of types. -/
def fieldsWithin (s : Scope) : (depth : Nat) → FieldsOf
  | 0, _ => .error .misuse
  | depth + 1, t => do
    let fields ← (inputValuesOf t).mapM fun v => do
      let value ← s.defaultOf (s.fieldsWithin depth) v
      return (⟨v.name, v.type, value, v.directives⟩ : InputField)
    return byName InputField.name fields

/-- **The fields of an input object.** -/
def fieldsOf (s : Scope) : FieldsOf := s.fieldsWithin (s.types.length + 1)

/-! ### Output -/

/-- A field of an object or interface: its arguments are input, and it is output. -/
def checkOutputField (s : Scope) (f : OutputField) : Except SchemaFault Unit := do
  let m ← s.meaning f.type.baseName
  f.arguments.forM fun v => do let _ ← s.defaultOf s.fieldsOf v
  checkDeprecation f.directives
  if !m.isOutput then .error .misuse

/-- Names that stand for something. -/
def checkNames (s : Scope) (allowed : Meaning → Bool) (names : List String) :
    Except SchemaFault Unit := do
  let meanings ← names.mapM s.meaning
  if !meanings.all allowed then .error .misuse

/-! ### Types -/

/-- **What values a type has.** -/
def formOf (s : Scope) (t : TypeDefinition) : Except SchemaFault TypeForm := do
  match t.body with
  | .scalar => return .scalar
  | .enum values => return .enum (values.map (·.name)).eraseDups
  | .input _ => return .input (← s.fieldsOf t)
  | .union members =>
    s.checkNames Meaning.isObject members
    return .output
  | .object interfaces fields | .interface interfaces fields =>
    s.checkNames Meaning.isInterface interfaces
    fields.forM s.checkOutputField
    return .output

/-- The type of the document under a name, with its values. -/
def schemaType (s : Scope) (t : TypeDefinition) : Except SchemaFault SchemaType := do
  return ⟨t.name, t.description, ← s.formOf t⟩

/-- A type that every schema has. -/
def standardType? (name : String) : Option SchemaType :=
  match Standard.scalars.lookup name with
  | some description => some ⟨name, some description, .scalar⟩
  | none =>
    match Standard.introspectionEnums.lookup name with
    | some (_, values) => some ⟨name, none, .enum values⟩
    | none =>
      if Standard.introspectionObjects.contains name then some ⟨name, none, .output⟩ else none

/-- The type under a name: one of some types, or else one that every schema has. -/
def typeNamed? (types : List SchemaType) (name : String) : Option SchemaType :=
  match types.find? (·.name == name) with
  | some t => some t
  | none => standardType? name

theorem name_of_standardType? {name : String} {t : SchemaType} (h : standardType? name = some t) :
    t.name = name := by
  unfold standardType? at h
  split at h
  · cases h
    rfl
  · split at h
    · cases h
      rfl
    · split at h
      · cases h
        rfl
      · simp at h

/-- A type is under its own name. -/
theorem name_of_typeNamed? {types : List SchemaType} {name : String} {t : SchemaType}
    (h : typeNamed? types name = some t) : t.name = name := by
  unfold typeNamed? at h
  split at h
  · rename_i found
    cases h
    simpa using List.find?_some found
  · exact name_of_standardType? h

/-- The types under some names stand in the order of the names. -/
theorem names_sublist (types : List SchemaType) (order : List String) :
    ((order.filterMap (typeNamed? types)).map (·.name)).Sublist order := by
  induction order with
  | nil => simp
  | cons name order ih =>
    rw [List.filterMap_cons]
    split
    · exact ih.cons name
    · rename_i t ht
      rw [List.map_cons, name_of_typeNamed? ht]
      exact ih.cons_cons name

/-! ### Entry points -/

/-- The types that the operations of some definitions start from. -/
def rootsOf (definitions : List SchemaDefinition) : List (OperationKind × String) :=
  definitions.flatMap (·.operations)

/-- The kinds of operation, in order. -/
def operationKinds : List OperationKind := [.query, .mutation, .subscription]

/-- The name that the type which a kind of operation starts from has by custom. -/
def customaryRoot : OperationKind → String
  | .query => "Query"
  | .mutation => "Mutation"
  | .subscription => "Subscription"

/-- **The types that operations start from**: those that are named, and without the definition of a
schema those with customary names. -/
def roots (s : Scope) (d : Document) : Except SchemaFault (List String) := do
  let defined := d.schemaDefinitions.getLast?
  let named := rootsOf (defined.toList ++ d.schemaExtensions)
  named.forM fun (_, name) => do let _ ← s.meaning name
  return operationKinds.filterMap fun kind =>
    if defined.isNone && s.names.contains (customaryRoot kind) then some (customaryRoot kind)
    else named.reverse.lookup kind

/-! ### Directives -/

/-- **A directive** with the values of its arguments where none are given. -/
def schemaDirective (s : Scope) (d : DirectiveDefinition) : Except SchemaFault SchemaDirective := do
  let arguments ← d.arguments.mapM fun v => do
    return (v.name, ← s.defaultOf s.fieldsOf v)
  return ⟨d.name, byName (·.1) arguments⟩

/-- The directives of a schema: those of the document, and after them those of the others that no
definition takes the place of. -/
def directivesOf (d : Document) : List DirectiveDefinition :=
  let own := d.directiveDefinitions
  own ++ Standard.directives.filter fun standard => !own.any (·.name == standard.name)

/-! ### Order -/

/-- A name and those that come with it. -/
def withReferred (name : String) : List String :=
  if Standard.introspectionObjects.contains name then [name, "String", "Boolean"] else [name]

/-- The names that a name of the document brings with it. -/
def referred (s : Scope) (name : String) : List String :=
  match s.types.find? (·.name == name) with
  | some t => t.body.settled.typeNames.flatMap withReferred
  | none => (withReferred name).drop 1

/-- Those of some names that every schema has and that the document does not define. -/
def undefinedOf (s : Scope) (names : List String) : List String :=
  names.filter fun name => Standard.typeNames.contains name && !s.names.contains name

/-- **The order of the types.** -/
def typeOrder (s : Scope) (roots : List String) (directives : List DirectiveDefinition) :
    List String :=
  let defined := s.names.flatMap fun name => name :: s.undefinedOf (s.referred name)
  let parameters := directives.flatMap fun d =>
    (byName InputValue.name d.arguments).map (·.type.baseName)
  let further := (roots ++ parameters).flatMap withReferred ++
    ("__Schema" :: "String" :: "Boolean" :: Standard.introspectionObjects ++
      Standard.introspectionEnums.map (·.1))
  (defined ++ s.undefinedOf further).eraseDups

/-- What is left when repetitions are erased has none. -/
theorem nodup_eraseDups {α : Type} [BEq α] [LawfulBEq α] (items : List α) :
    items.eraseDups.Nodup := by
  -- the rest of the list is filtered before its repetitions are erased, so it may be much shorter
  generalize hsize : items.length = size
  induction size using Nat.strongRecOn generalizing items with
  | ind size ih =>
    cases items with
    | nil => simp
    | cons a rest =>
      rw [List.eraseDups_cons, List.nodup_cons]
      refine ⟨by simp [List.mem_eraseDups], ih _ ?_ _ rfl⟩
      subst hsize
      exact Nat.lt_succ_of_le (List.length_filter_le _ _)

theorem nodup_typeOrder (s : Scope) (roots : List String)
    (directives : List DirectiveDefinition) : (s.typeOrder roots directives).Nodup :=
  nodup_eraseDups _

end Scope

/-! ### Schemas -/

/-- **The schema that a document defines.** A trusted document need not keep the rules. -/
def buildSchema (trusted : Bool) (d : Document) : Except SchemaFault Schema := do
  if !trusted && !d.isSchema then .error .misuse
  let s ← Scope.ofDocument d
  let roots ← s.roots d
  let definitions := Scope.directivesOf d
  let directives ← definitions.mapM s.schemaDirective
  let types ← s.types.mapM s.schemaType
  return {
    types := (s.typeOrder roots definitions).filterMap (Scope.typeNamed? types)
    directives
    distinct := (Scope.names_sublist types _).nodup (s.nodup_typeOrder roots definitions) }

end OperationCatalog.GraphQL
