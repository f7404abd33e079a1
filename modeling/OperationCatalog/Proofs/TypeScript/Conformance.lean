import OperationCatalog.Proofs.TypeScript.Reader
import OperationCatalog.Proofs.TypeScript.Reference

/-!
# Literals and their interfaces

A generated module declares the types of its own constants, and this file proves that the constants
have these types (`OperationCatalog.TypeScript.literals_conform`). What it means for a literal to
have a type is `OperationCatalog.TypeScript.Module.HasType`, which only looks at the types that the
module declares: an object is of an interface if it has all members that the interface needs, no
member that the interface does not know, and no member twice, each member with a value of its type.
A reference is of the interface that its constant is declared with.

The two are written apart – the types in one place, the literals in another – and what they have to
agree on is the **kind** of a field or parameter: it decides which members there are, whether the
type is given by a text or by a reference, and which interface the constant has that is referred
to. That this constant is of the right kind is where the closure comes in
(`OperationCatalog.TypeScript.exists_declaration_of_mem_mentions`).
-/

namespace OperationCatalog.TypeScript

open Metadata

/-! ### Types of a generated module -/

/-- The name of a type. -/
def TypeDeclaration.name : TypeDeclaration → String
  | choice name _ => name
  | interface _ name _ _ => name

/-- All types that a module declares. -/
def emittedTypes : List TypeDeclaration := inputTypeInterfaces ++ operationInterfaces

/-- The members of an interface, after those of the one that it extends. The bound is the number of
types. -/
def membersWithin : (bound : ℕ) → (name : String) → List Member
  | 0, _ => []
  | bound + 1, name =>
    match emittedTypes.find? (·.name == name) with
    | some (.interface _ _ base members) => (base.map (membersWithin bound)).getD [] ++ members
    | _ => []

/-- **The members of an interface.** Nothing else has members. -/
def membersOf (name : String) : List Member := membersWithin emittedTypes.length name

/-- The alternatives of a choice. -/
def alternativesOf (name : String) : List String :=
  match emittedTypes.find? (·.name == name) with
  | some (.choice _ alternatives) => alternatives
  | _ => []

/-- No type is declared twice. -/
theorem nodup_emittedTypes : (emittedTypes.map (·.name)).Nodup := by decide +kernel

theorem find?_emittedTypes {t : TypeDeclaration} (h : t ∈ emittedTypes) :
    emittedTypes.find? (·.name == t.name) = some t :=
  (find?_named_eq_some_iff nodup_emittedTypes).mpr ⟨h, rfl⟩

theorem alternativesOf_of_mem {name : String} {alternatives : List String}
    (h : .choice name alternatives ∈ emittedTypes) : alternativesOf name = alternatives := by
  have hfind : emittedTypes.find? (·.name == name) = some _ := find?_emittedTypes h
  rw [alternativesOf, hfind]

theorem membersWithin_of_mem {exported : Bool} {name : String} {base : Option String}
    {own : List Member} (h : .interface exported name base own ∈ emittedTypes) (bound : ℕ) :
    membersWithin (bound + 1) name = (base.map (membersWithin bound)).getD [] ++ own := by
  have hfind : emittedTypes.find? (·.name == name) = some _ := find?_emittedTypes h
  rw [membersWithin, hfind]

/-- The members of an interface that extends another one. -/
theorem membersWithin_of_base {exported : Bool} {name base : String} {own members : List Member}
    {bound : ℕ} (h : .interface exported name (some base) own ∈ emittedTypes)
    (hbase : membersWithin bound base = members) :
    membersWithin (bound + 1) name = members ++ own := by
  rw [membersWithin_of_mem h, Option.map_some, Option.getD_some, hbase]

/-- The type of some words. -/
def wordsType (words : List String) : String := " | ".intercalate (words.map textLiteral)

/-- The type of a member among some. -/
def memberType? (members : List Member) (name : String) : Option String :=
  (members.find? (·.name == name)).map (·.type)

/-- The names of the members that must be there. -/
def neededNames (members : List Member) : List String :=
  (members.filter fun m => !m.optional).map (·.name)

/-- The constants of the namespace, each with the interface that it is declared with. -/
def Module.constants (m : Module) : List (String × String) :=
  m.declarations.map fun d => (d.name, Module.interfaceOf d.body)

/-- **Some code has a type** in a module. Within the literal of an operation, `document` is what the
parameter of its interface stands for the type of. -/
inductive Module.HasType (m : Module) (document : String) : Code → String → Prop where
  /-- A text. -/
  | text (s : String) : HasType m document (.text s) "string"
  /-- A truth value. -/
  | bool (b : Bool) : HasType m document (.bool b) "boolean"
  /-- One of some words. -/
  | word {word : String} {words : List String} :
      word ∈ words → HasType m document (.text word) (wordsType words)
  /-- An opaque value. -/
  | opaqueValue (text : String) : HasType m document (.line text) "any"
  /-- The document of an operation. -/
  | document : HasType m document (.line document) "DocumentType"
  /-- A constant of the namespace. -/
  | constant {name interface : String} : (name, interface) ∈ m.constants →
      HasType m document (.line (m.namespaceName ++ "." ++ name)) interface
  /-- Code of one of the types to choose from. -/
  | choice {code : Code} {name alternative : String} : alternative ∈ alternativesOf name →
      HasType m document code alternative → HasType m document code name
  /-- An array of items of a type. -/
  | array {items : List Code} {item : String} :
      (∀ code ∈ items, HasType m document code item) →
      HasType m document (.array items) (readonlyArray item)
  /-- An object with all members that an interface needs and with none that it does not know. -/
  | object {parts : List (String × Code)} {interface : String} {members : List Member} :
      membersOf interface = members → members ≠ [] → (parts.map (·.1)).Nodup →
      neededNames members ⊆ parts.map (·.1) →
      (∀ part ∈ parts, (memberType? members part.1).isSome = true) →
      (∀ part ∈ parts, ∀ type ∈ memberType? members part.1, HasType m document part.2 type) →
      HasType m document (.object parts) interface

/-! ### Members of literals -/

theorem forall_mem_memberIf {P : String × Code → Prop} {condition : Bool} {name : String}
    {value : Code} :
    (∀ part ∈ memberIf condition name value, P part) ↔ (condition = true → P (name, value)) := by
  cases condition <;> simp [memberIf]

theorem forall_mem_memberOf {P : String × Code → Prop} {name : String} {code : Option String} :
    (∀ part ∈ memberOf name code, P part) ↔ ∀ text ∈ code, P (name, .line text) := by
  cases code <;> simp [memberOf]

theorem forall_mem_descriptionMember {P : String × Code → Prop} {description : Option String}
    (h : ∀ s, P ("description", .text s)) : ∀ part ∈ descriptionMember description, P part := by
  cases description with
  | none => simp [descriptionMember]
  | some s => exact forall_mem_memberIf.mpr fun _ => h s

theorem names_memberIf_sublist (condition : Bool) (name : String) (value : Code) :
    ((memberIf condition name value).map (·.1)).Sublist [name] := by
  cases condition <;> simp [memberIf]

theorem names_memberOf_sublist (name : String) (code : Option String) :
    ((memberOf name code).map (·.1)).Sublist [name] := by
  cases code <;> simp [memberOf]

theorem names_descriptionMember_sublist (description : Option String) :
    ((descriptionMember description).map (·.1)).Sublist ["description"] := by
  cases description with
  | none => simp [descriptionMember]
  | some s => exact names_memberIf_sublist _ _ _

variable {m : Module} {document : String}

/-- **An object is of an interface** if its members are some of those of the interface, in any
order, among them all that are needed, and each has its type. -/
theorem Module.HasType.of_parts {parts : List (String × Code)} {interface : String}
    (known : List String) (members : List Member) (hmembers : membersOf interface = members)
    (hsub : (parts.map (·.1)).Sublist known) (hknown : known.Nodup ∧ members ≠ [])
    (hneeded : neededNames members ⊆ parts.map (·.1))
    (htyped : ∀ part ∈ parts, ∃ type, memberType? members part.1 = some type ∧
      m.HasType document part.2 type) : m.HasType document (.object parts) interface := by
  refine .object hmembers hknown.2 (hknown.1.sublist hsub) hneeded (fun part hpart => ?_)
    fun part hpart type htype => ?_
  · obtain ⟨type, htype, -⟩ := htyped part hpart
    rw [htype, Option.isSome_some]
  · obtain ⟨type', htype', h⟩ := htyped part hpart
    obtain rfl := Option.some.inj (htype'.symm.trans htype)
    exact h

/-! ### Rules -/

theorem hasType_rule (r : RuleCode) :
    m.HasType document r.code "GraphQLInputObjectFieldValidationMetadata" := by
  refine .of_parts ["type", "constraints", "each", "context", "options"]
    [needs "type" "string", allows "constraints" (readonlyArray "any"),
      allows "each" "boolean", allows "context" "any", allows "options" "any"]
    (membersWithin_of_mem (List.mem_of_getElem? (i := 13) rfl) 21) ?_ (by decide)
    (by simp [neededNames, needs, allows]) ?_
  · simp only [List.map_cons, List.map_append, List.cons_append]
    exact ((((names_memberIf_sublist _ _ _).append (names_memberIf_sublist _ _ _)).append
      (names_memberOf_sublist _ _)).append (names_memberOf_sublist _ _)).cons_cons "type"
  · simp only [List.cons_append, List.forall_mem_cons, List.forall_mem_append,
      forall_mem_memberIf, forall_mem_memberOf]
    refine ⟨⟨_, rfl, .text _⟩, ⟨⟨fun _ => ⟨_, rfl, .array ?_⟩, fun _ => ⟨_, rfl, .bool _⟩⟩,
      fun text _ => ⟨_, rfl, .opaqueValue text⟩⟩, fun text _ => ⟨_, rfl, .opaqueValue text⟩⟩
    simp only [List.forall_mem_map]
    exact fun text _ => .opaqueValue text

/-! ### References -/

/-- The interface that the constant of a type of a kind is declared with; a scalar has none. -/
def interfaceOfKind? : TypeKind → Option String
  | .scalar => none
  | .enum => some "GraphQLInputEnumTypeMetadata"
  | .object => some "GraphQLInputObjectTypeMetadata"

/-- The type of a reference, where the kind is known. -/
def referenceType (kind : TypeKind) : String := (interfaceOfKind? kind).getD "string"

/-- The type of a reference, where it is only known whether the kind is a scalar. -/
def unitType : TypeKind → String
  | .scalar => "string"
  | _ => "GraphQLInputTypeMetadata"

/-- The words that a kind is one of, where it is only known whether it is a scalar. -/
def unitWords : TypeKind → List String
  | .scalar => ["scalar"]
  | _ => ["enum", "object"]

variable {kind : TypeKind} {shape : Shape} {type : String}

theorem hasType_reference
    (h : ∀ interface ∈ interfaceOfKind? kind, (type, interface) ∈ m.constants) :
    m.HasType document (Module.reference m.namespaceName kind type) (referenceType kind) := by
  cases kind with
  | scalar => exact .text type
  | enum | object => exact .constant (h _ rfl)

/-- A reference is of one of the interfaces to choose from. -/
theorem hasType_unit
    (h : ∀ interface ∈ interfaceOfKind? kind, (type, interface) ∈ m.constants) :
    m.HasType document (Module.reference m.namespaceName kind type) (unitType kind) := by
  have href : m.HasType document _ _ := hasType_reference h
  have halternatives : alternativesOf "GraphQLInputTypeMetadata" =
      ["GraphQLInputScalarTypeMetadata", "GraphQLInputEnumTypeMetadata",
        "GraphQLInputObjectTypeMetadata"] :=
    alternativesOf_of_mem (List.mem_of_getElem? (i := 0) rfl)
  cases kind with
  | scalar => exact href
  | enum | object =>
    exact .choice (by simp [unitType, halternatives, referenceType, interfaceOfKind?]) href

theorem word_mem_unitWords (kind : TypeKind) : kind.word ∈ unitWords kind := by
  cases kind <;> simp [unitWords, TypeKind.word]

/-! ### Fields -/

/-- The interface of a field. -/
def fieldInterface : Shape → String
  | .one .scalar => "GraphQLInputObjectScalarFieldMetadata"
  | .one .enum => "GraphQLInputObjectEnumFieldMetadata"
  | .one .object => "GraphQLInputObjectObjectFieldMetadata"
  | .list .scalar _ => "GraphQLInputObjectScalarListFieldMetadata"
  | .list _ _ => "GraphQLInputObjectListFieldMetadata"

/-- The members that fields of all shapes have. -/
def fieldMembers : List Member :=
  [needs "name" "string", needs "required" "boolean",
    allows "validation" (readonlyArray "GraphQLInputObjectFieldValidationMetadata")]

theorem membersWithin_fieldBase (bound : ℕ) :
    membersWithin (bound + 1) "BaseGraphQLInputObjectFieldMetadata" = fieldMembers :=
  membersWithin_of_mem (List.mem_of_getElem? (i := 6) rfl) bound

theorem membersOf_fieldInterface_one (kind : TypeKind) :
    membersOf (fieldInterface (.one kind)) =
      fieldMembers ++ [needs "kind" (wordsType [kind.word]), needs "type" (referenceType kind)] := by
  have hbase := membersWithin_fieldBase 20
  cases kind with
  | scalar => exact membersWithin_of_base (List.mem_of_getElem? (i := 7) rfl) hbase
  | enum => exact membersWithin_of_base (List.mem_of_getElem? (i := 8) rfl) hbase
  | object => exact membersWithin_of_base (List.mem_of_getElem? (i := 9) rfl) hbase

theorem membersOf_fieldInterface_list (kind : TypeKind) (allowsEmpty : Bool) :
    membersOf (fieldInterface (.list kind allowsEmpty)) =
      fieldMembers ++ [needs "kind" (wordsType ["list"]), needs "allowsEmpty" "boolean"] ++
        [needs "itemKind" (wordsType (unitWords kind)), needs "type" (unitType kind)] := by
  have hbase : membersWithin 21 "BaseGraphQLInputObjectListFieldMetadata" = _ :=
    membersWithin_of_base (List.mem_of_getElem? (i := 10) rfl) (membersWithin_fieldBase 19)
  cases kind with
  | scalar => exact membersWithin_of_base (List.mem_of_getElem? (i := 12) rfl) hbase
  | enum | object => exact membersWithin_of_base (List.mem_of_getElem? (i := 11) rfl) hbase

theorem hasType_rules (rules : List RuleCode) :
    m.HasType document (.array (rules.map RuleCode.code))
      (readonlyArray "GraphQLInputObjectFieldValidationMetadata") := by
  refine .array ?_
  simp only [List.forall_mem_map]
  exact fun r _ => hasType_rule r

/-- **A field has the interface of its kind**, if the constant that it refers to has that of the
type's kind. -/
theorem hasType_fieldCode {f : FieldCode}
    (h : ∀ interface ∈ interfaceOfKind? f.shape.typeKind, (f.type, interface) ∈ m.constants) :
    m.HasType document (Module.fieldCode m.namespaceName f) (fieldInterface f.shape) := by
  obtain ⟨name, type, required, kind | ⟨kind, allowsEmpty⟩, rules⟩ := f
  · refine .of_parts ["name", "kind", "type", "required", "validation"] _
      (membersOf_fieldInterface_one kind) ?_ ⟨by decide, by simp [fieldMembers]⟩
      (by simp [neededNames, fieldMembers, needs, allows, Shape.itemKindMember]) ?_
    · simp only [List.map_append, Shape.itemKindMember, Shape.allowsEmptyMember]
      exact (List.Sublist.refl ["name", "kind", "type", "required"]).append
        (names_memberIf_sublist _ _ _)
    · simp only [Shape.itemKindMember, Shape.allowsEmptyMember, List.cons_append, List.nil_append,
        List.forall_mem_cons, forall_mem_memberIf]
      exact ⟨⟨_, rfl, .text _⟩, ⟨_, rfl, .word List.mem_cons_self⟩,
        ⟨_, rfl, hasType_reference h⟩, ⟨_, rfl, .bool _⟩, fun _ => ⟨_, rfl, hasType_rules rules⟩⟩
  · refine .of_parts ["name", "kind", "itemKind", "type", "required", "allowsEmpty", "validation"]
      _ (membersOf_fieldInterface_list kind allowsEmpty) ?_ ⟨by decide, by simp [fieldMembers]⟩
      (by simp [neededNames, fieldMembers, needs, allows, Shape.itemKindMember,
        Shape.allowsEmptyMember]) ?_
    · simp only [List.map_append, Shape.itemKindMember, Shape.allowsEmptyMember]
      exact (List.Sublist.refl
        ["name", "kind", "itemKind", "type", "required", "allowsEmpty"]).append
        (names_memberIf_sublist _ _ _)
    · simp only [Shape.itemKindMember, Shape.allowsEmptyMember, List.cons_append, List.nil_append,
        List.forall_mem_cons, forall_mem_memberIf]
      exact ⟨⟨_, rfl, .text _⟩, ⟨_, rfl, .word List.mem_cons_self⟩,
        ⟨_, rfl, .word (word_mem_unitWords kind)⟩, ⟨_, rfl, hasType_unit h⟩, ⟨_, rfl, .bool _⟩,
        ⟨_, rfl, .bool _⟩, fun _ => ⟨_, rfl, hasType_rules rules⟩⟩

/-! ### Parameters -/

/-- The interface of a parameter. -/
def parameterInterface : Shape → String
  | .one .scalar => "GraphQLOperationScalarParameterMetadata"
  | .one _ => "GraphQLOperationUnitParameterMetadata"
  | .list .scalar _ => "GraphQLOperationScalarListParameterMetadata"
  | .list _ _ => "GraphQLOperationListParameterMetadata"

/-- The members that parameters of all shapes have. -/
def parameterMembers : List Member := [needs "parameter" "string", needs "required" "boolean"]

theorem membersWithin_parameterBase (bound : ℕ) :
    membersWithin (bound + 1) "BaseGraphQLOperationParameterMetadata" = parameterMembers :=
  membersWithin_of_mem (List.mem_of_getElem? (i := 16) rfl) bound

theorem membersOf_parameterInterface_one (kind : TypeKind) :
    membersOf (parameterInterface (.one kind)) =
      parameterMembers ++
        [needs "kind" (wordsType (unitWords kind)), needs "type" (unitType kind)] := by
  have hbase := membersWithin_parameterBase 20
  cases kind with
  | scalar => exact membersWithin_of_base (List.mem_of_getElem? (i := 17) rfl) hbase
  | enum | object => exact membersWithin_of_base (List.mem_of_getElem? (i := 18) rfl) hbase

theorem membersOf_parameterInterface_list (kind : TypeKind) (allowsEmpty : Bool) :
    membersOf (parameterInterface (.list kind allowsEmpty)) =
      parameterMembers ++ [needs "kind" (wordsType ["list"]), needs "allowsEmpty" "boolean"] ++
        [needs "itemKind" (wordsType (unitWords kind)), needs "type" (unitType kind)] := by
  have hbase : membersWithin 21 "BaseGraphQLOperationListParameterMetadata" = _ :=
    membersWithin_of_base (List.mem_of_getElem? (i := 19) rfl) (membersWithin_parameterBase 19)
  cases kind with
  | scalar => exact membersWithin_of_base (List.mem_of_getElem? (i := 21) rfl) hbase
  | enum | object => exact membersWithin_of_base (List.mem_of_getElem? (i := 20) rfl) hbase

/-- **A parameter has the interface of its kind**, if what it refers to is a constant of the type's
kind. -/
theorem hasType_parameterCode {p : ParameterCode}
    (h : ∀ interface ∈ interfaceOfKind? p.shape.typeKind, (p.type, interface) ∈ m.constants) :
    m.HasType document (Module.parameterCode m.namespaceName p) (parameterInterface p.shape) := by
  obtain ⟨name, type, required, kind | ⟨kind, allowsEmpty⟩⟩ := p
  · refine .of_parts ["parameter", "required", "kind", "type"] _
      (membersOf_parameterInterface_one kind) (List.Sublist.refl _)
      ⟨by decide, by simp [parameterMembers]⟩
      (by simp [neededNames, parameterMembers, needs, Shape.itemKindMember]) ?_
    simp only [Shape.itemKindMember, Shape.allowsEmptyMember, List.cons_append, List.nil_append,
      List.append_nil, List.forall_mem_cons]
    exact ⟨⟨_, rfl, .text _⟩, ⟨_, rfl, .bool _⟩, ⟨_, rfl, .word (word_mem_unitWords kind)⟩,
      ⟨_, rfl, hasType_unit h⟩, by simp⟩
  · refine .of_parts ["parameter", "required", "kind", "itemKind", "type", "allowsEmpty"] _
      (membersOf_parameterInterface_list kind allowsEmpty) (List.Sublist.refl _)
      ⟨by decide, by simp [parameterMembers]⟩
      (by simp [neededNames, parameterMembers, needs, Shape.itemKindMember,
        Shape.allowsEmptyMember]) ?_
    simp only [Shape.itemKindMember, Shape.allowsEmptyMember, List.cons_append, List.nil_append,
      List.forall_mem_cons]
    exact ⟨⟨_, rfl, .text _⟩, ⟨_, rfl, .bool _⟩, ⟨_, rfl, .word List.mem_cons_self⟩,
      ⟨_, rfl, .word (word_mem_unitWords kind)⟩, ⟨_, rfl, hasType_unit h⟩, ⟨_, rfl, .bool _⟩,
      by simp⟩

/-! ### Constants -/

theorem fieldInterface_mem_alternatives (shape : Shape) :
    fieldInterface shape ∈ alternativesOf "GraphQLInputObjectFieldMetadata" := by
  have h : alternativesOf "GraphQLInputObjectFieldMetadata" =
      ["GraphQLInputObjectScalarFieldMetadata", "GraphQLInputObjectEnumFieldMetadata",
        "GraphQLInputObjectObjectFieldMetadata", "GraphQLInputObjectListFieldMetadata",
        "GraphQLInputObjectScalarListFieldMetadata"] :=
    alternativesOf_of_mem (List.mem_of_getElem? (i := 5) rfl)
  rw [h]
  rcases shape with (_ | _ | _) | ⟨_ | _ | _, _⟩ <;> simp [fieldInterface]

theorem parameterInterface_mem_alternatives (shape : Shape) :
    parameterInterface shape ∈ alternativesOf "GraphQLOperationParameterMetadata" := by
  have h : alternativesOf "GraphQLOperationParameterMetadata" =
      ["GraphQLOperationScalarParameterMetadata", "GraphQLOperationUnitParameterMetadata",
        "GraphQLOperationListParameterMetadata",
        "GraphQLOperationScalarListParameterMetadata"] :=
    alternativesOf_of_mem (List.mem_of_getElem? (i := 15) rfl)
  rw [h]
  rcases shape with (_ | _ | _) | ⟨_ | _ | _, _⟩ <;> simp [parameterInterface]

/-- The fields of a declaration; only objects have some. -/
def Declaration.fields (d : Declaration) : List FieldCode :=
  match d.body with
  | .enum _ => []
  | .object fields => fields

/-- **A declaration has the interface that it is declared with**, if its fields have theirs. -/
theorem hasType_declarationCode {d : Declaration}
    (h : ∀ f ∈ d.fields, m.HasType document (Module.fieldCode m.namespaceName f)
      (fieldInterface f.shape)) :
    m.HasType document (Module.declarationCode m.namespaceName d) (Module.interfaceOf d.body) := by
  have hbase : membersWithin 21 "BaseGraphQLInputTypeMetadata" = _ :=
    membersWithin_of_mem (List.mem_of_getElem? (i := 1) rfl) 20
  obtain ⟨name, description, values | fields⟩ := d
  · refine .of_parts ["kind", "type", "description", "values"]
      [needs "type" "string", allows "description" "string",
        needs "kind" (wordsType ["enum"]), needs "values" (readonlyArray "string")]
      (membersWithin_of_base (List.mem_of_getElem? (i := 3) rfl) hbase) ?_ (by decide)
      (by simp [neededNames, needs, allows]) ?_
    · simp only [List.map_append]
      exact ((List.Sublist.refl ["kind", "type"]).append
        (names_descriptionMember_sublist _)).append (List.Sublist.refl ["values"])
    · simp only [List.forall_mem_append, List.forall_mem_cons]
      refine ⟨⟨⟨⟨_, rfl, .word List.mem_cons_self⟩, ⟨_, rfl, .text _⟩, by simp⟩,
        forall_mem_descriptionMember fun s => ⟨_, rfl, .text s⟩⟩, ⟨_, rfl, .array ?_⟩, by simp⟩
      simp only [List.forall_mem_map]
      exact fun value _ => .text value
  · refine .of_parts ["kind", "type", "description", "fields"]
      [needs "type" "string", allows "description" "string",
        needs "kind" (wordsType ["object"]),
        needs "fields" (readonlyArray "GraphQLInputObjectFieldMetadata")]
      (membersWithin_of_base (List.mem_of_getElem? (i := 4) rfl) hbase) ?_ (by decide)
      (by simp [neededNames, needs, allows]) ?_
    · simp only [List.map_append]
      exact ((List.Sublist.refl ["kind", "type"]).append
        (names_descriptionMember_sublist _)).append (List.Sublist.refl ["fields"])
    · simp only [List.forall_mem_append, List.forall_mem_cons]
      refine ⟨⟨⟨⟨_, rfl, .word List.mem_cons_self⟩, ⟨_, rfl, .text _⟩, by simp⟩,
        forall_mem_descriptionMember fun s => ⟨_, rfl, .text s⟩⟩, ⟨_, rfl, .array ?_⟩, by simp⟩
      simp only [List.forall_mem_map]
      exact fun f hf => .choice (fieldInterface_mem_alternatives f.shape) (h f hf)

/-- The interface of the constants of operations. -/
def operationInterface : String := "GraphQLOperationMetadata<DocumentType>"

/-- **An operation has the interface of operations**, for its own document, if its parameters have
theirs. -/
theorem hasType_operationCode {o : OperationCode}
    (h : ∀ p ∈ o.parameters, m.HasType o.document (Module.parameterCode m.namespaceName p)
      (parameterInterface p.shape)) :
    m.HasType o.document (Module.operationCode m.namespaceName o) operationInterface := by
  refine .of_parts ["operation", "operationType", "document", "parameters"]
    [needs "operation" "string",
      needs "operationType" (wordsType ["query", "mutation", "subscription"]),
      needs "document" "DocumentType",
      allows "parameters" (readonlyArray "GraphQLOperationParameterMetadata")]
    (membersWithin_of_mem (List.mem_of_getElem? (i := 14) rfl) 21) (List.Sublist.refl _) (by decide)
    (by simp [neededNames, needs, allows]) ?_
  simp only [List.forall_mem_cons]
  refine ⟨⟨_, rfl, .text _⟩, ⟨wordsType ["query", "mutation", "subscription"], rfl, .word ?_⟩,
    ⟨_, rfl, .document⟩, ⟨_, rfl, .array ?_⟩, by simp⟩
  · cases o.kind <;> simp [GraphQL.OperationKind.word]
  · simp only [List.forall_mem_map]
    exact fun p hp => .choice (parameterInterface_mem_alternatives p.shape) (h p hp)

/-! ### The kind of what is referred to -/

variable {config : Config} {table : Table} {documents : List GraphQL.Document}
  {entries : List Catalog.Entry} {closure : Closure} {name : String}

/-- A declaration of a type has the interface of the type's kind. -/
theorem interfaceOf_declarationOf {t : InputType} {d : Declaration}
    (hd : declarationOf table t = .ok d) (hkind : t.kind ≠ .scalar) :
    interfaceOfKind? t.kind = some (Module.interfaceOf d.body) := by
  obtain ⟨-, -, ⟨values, hshape, hbody⟩ | ⟨fields, hbody, -⟩⟩ := declarationOf_eq_ok hd
  · rw [InputType.kind, hshape, hbody]
    rfl
  · rw [hbody]
    rcases hshape : t.shape with _ | values | fields'
    · rw [InputType.kind, hshape] at hkind
      exact absurd rfl hkind
    · rw [declarationOf, hshape] at hd
      obtain rfl := Except.ok.inj hd
      simp at hbody
    · rw [InputType.kind, hshape]
      rfl

/-- **What a module mentions** and is no scalar is of the mentioned kind. -/
theorem kind_of_mem_mentions {m : Module} (hm : (generate config table documents).outcome = .ok m)
    (hmention : (shape, name) ∈ m.mentions) (hkind : shape.typeKind ≠ .scalar) :
    ∃ u, table.find? name = some u ∧ u.kind = shape.typeKind := by
  obtain ⟨entries, closure, hentries, hclosure, hdeclarations, hoperations, -⟩ :=
    exists_closure_of_generate hm
  rcases List.mem_append.mp hmention with hmention | hmention
  · obtain ⟨d, hd, hmention⟩ := List.mem_flatMap.mp hmention
    obtain ⟨t, ht, hof⟩ := exists_of_forall₂_of_mem hdeclarations hd
    exact (refers_of_mem_declaration (settled_of_closureOf hclosure) ht hof hmention hkind).2
  · -- the catalog has taken the kind from the table
    rw [hoperations] at hmention
    obtain ⟨o, ho, hmention⟩ := List.mem_flatMap.mp hmention
    obtain ⟨e, he, rfl⟩ := List.mem_map.mp ho
    obtain ⟨code, hcode, hpair⟩ := List.mem_map.mp hmention
    obtain ⟨rfl, rfl⟩ := Prod.mk.inj hpair
    obtain ⟨p, hp, rfl⟩ := List.mem_map.mp hcode
    obtain ⟨u, hu, hukind⟩ := Catalog.parameter_kind_of_build hentries he hp
    refine ⟨u, hu, hukind.trans ?_⟩
    rcases p with ⟨_, _, _, _, _ | _⟩ <;> rfl

/-- **The constant that is referred to** is declared with the interface of the mentioned kind. -/
theorem mem_constants_of_mem_mentions (unnamed : "" ∉ table.names) {m : Module}
    (hm : (generate config table documents).outcome = .ok m)
    (hmention : (shape, name) ∈ m.mentions) :
    ∀ interface ∈ interfaceOfKind? shape.typeKind, (name, interface) ∈ m.constants := by
  intro interface hinterface
  have hkind : shape.typeKind ≠ .scalar := fun h => by simp [h, interfaceOfKind?] at hinterface
  obtain ⟨u, hu, hukind⟩ := kind_of_mem_mentions hm hmention hkind
  obtain ⟨hmem, hdeclared⟩ := declared_of_mem_mentions hm hmention hkind
  obtain ⟨d, hd, rfl⟩ := List.mem_map.mp (hdeclared fun he => unnamed (he ▸ hmem))
  obtain ⟨entries, closure, -, hclosure, hdeclarations, -, -⟩ := exists_closure_of_generate hm
  obtain ⟨t, ht, hof⟩ := exists_of_forall₂_of_mem hdeclarations hd
  -- the declared type is the entry of its name
  obtain ⟨-, hfind, hne⟩ := (settled_of_closureOf hclosure).declared t ht
  rw [← (declarationOf_eq_ok hof).1] at hfind
  obtain rfl : t = u := Option.some.inj (hfind.symm.trans hu)
  rw [← hukind, interfaceOf_declarationOf hof hne] at hinterface
  obtain rfl := Option.some.inj hinterface
  exact List.mem_map.mpr ⟨d, hd, rfl⟩

/-! ### Conformance -/

/-- **The literal of a field or parameter conforms**, given the interface for its shape. -/
structure Module.Conforms (m : Module) (interface : String) (shape : Shape) (type : String)
    (code : Code) : Prop where
  /-- It has the interface, in whatever operation it stands. -/
  typed : ∀ document, m.HasType document code interface
  /-- It states its kind. -/
  kind : code.members.lookup "kind" = some (.text shape.word)
  /-- Exactly a list states the kind of its items. -/
  itemKind : code.members.lookup "itemKind" = shape.itemKind?.map fun kind => .text kind.word
  /-- Exactly a list says whether it may be empty. -/
  allowsEmpty : code.members.lookup "allowsEmpty" = shape.allowsEmpty?.map .bool
  /-- A scalar is given by a text, and everything else by its constant. -/
  reference : code.members.lookup "type" = some (if shape.typeKind = .scalar then .text type
    else .line (m.namespaceName ++ "." ++ type))
  /-- Exactly a scalar is given by a text. -/
  quoted : Config.isIdentifier m.namespaceName = true →
    ((∃ s, code.members.lookup "type" = some (.text s)) ↔ shape.typeKind = .scalar)
  /-- The constant is declared with the interface of its kind. -/
  declared : ∀ interface ∈ interfaceOfKind? shape.typeKind, (type, interface) ∈ m.constants

/-- A reference in a namespace is no text: an identifier does not start with a quote. -/
theorem line_ne_text {namespaceName : String} (h : Config.isIdentifier namespaceName = true)
    (type s : String) : Code.line (namespaceName ++ "." ++ type) ≠ .text s := by
  intro he
  have hchars : namespaceName.toList ++ ('.' :: type.toList) = textChars s.toList := by
    have := congrArg String.toList (Code.line.inj he)
    simpa [textLiteral] using this
  unfold Config.isIdentifier at h
  rcases hname : namespaceName.toList with _ | ⟨c, rest⟩
  · simp [hname] at h
  · rw [hname, textChars, List.cons_append, List.cons_append, List.cons.injEq] at hchars
    rw [hname, hchars.1] at h
    simp [Config.isIdentifierChar] at h

theorem quoted_iff {code : Code} (hnamespace : Config.isIdentifier m.namespaceName = true)
    (h : code.members.lookup "type" = some (if shape.typeKind = .scalar then .text type
      else .line (m.namespaceName ++ "." ++ type))) :
    (∃ s, code.members.lookup "type" = some (.text s)) ↔ shape.typeKind = .scalar := by
  rw [h]
  split
  · rename_i hscalar
    exact ⟨fun _ => hscalar, fun _ => ⟨type, rfl⟩⟩
  · rename_i hscalar
    refine ⟨fun ⟨s, hs⟩ => ?_, fun hkind => absurd hkind hscalar⟩
    exact absurd (Option.some.inj hs) (line_ne_text hnamespace type s)

theorem conforms_fieldCode {f : FieldCode}
    (h : ∀ interface ∈ interfaceOfKind? f.shape.typeKind, (f.type, interface) ∈ m.constants) :
    m.Conforms (fieldInterface f.shape) f.shape f.type (Module.fieldCode m.namespaceName f) := by
  have href : (Module.fieldCode m.namespaceName f).members.lookup "type" =
      some (if f.shape.typeKind = .scalar then .text f.type
        else .line (m.namespaceName ++ "." ++ f.type)) := by
    obtain ⟨_, _, _, _ | _, _⟩ := f <;> rfl
  refine ⟨fun document => hasType_fieldCode h, ?_, ?_, ?_, href, fun hn => quoted_iff hn href, h⟩
  all_goals obtain ⟨_, _, _, _ | _, _ | _⟩ := f <;> rfl

theorem conforms_parameterCode {p : ParameterCode}
    (h : ∀ interface ∈ interfaceOfKind? p.shape.typeKind, (p.type, interface) ∈ m.constants) :
    m.Conforms (parameterInterface p.shape) p.shape p.type
      (Module.parameterCode m.namespaceName p) := by
  have href : (Module.parameterCode m.namespaceName p).members.lookup "type" =
      some (if p.shape.typeKind = .scalar then .text p.type
        else .line (m.namespaceName ++ "." ++ p.type)) := by
    obtain ⟨_, _, _, _ | _⟩ := p <;> rfl
  refine ⟨fun document => hasType_parameterCode h, ?_, ?_, ?_, href, fun hn => quoted_iff hn href,
    h⟩
  all_goals obtain ⟨_, _, _, _ | _⟩ := p <;> rfl

theorem mem_mentions_of_field {d : Declaration} (hd : d ∈ m.declarations) {f : FieldCode}
    (hf : f ∈ d.fields) : (f.shape, f.type) ∈ m.mentions := by
  refine List.mem_append_left _ (List.mem_flatMap.mpr ⟨d, hd, ?_⟩)
  unfold Declaration.fields at hf
  unfold Declaration.mentions
  rcases hbody : d.body with values | fields
  · simp [hbody] at hf
  · rw [hbody] at hf
    exact List.mem_map.mpr ⟨f, hf, rfl⟩

theorem mem_mentions_of_parameter {o : OperationCode} (ho : o ∈ m.operations) {p : ParameterCode}
    (hp : p ∈ o.parameters) : (p.shape, p.type) ∈ m.mentions :=
  List.mem_append_right _ (List.mem_flatMap.mpr ⟨o, ho, List.mem_map.mpr ⟨p, hp, rfl⟩⟩)

/-- **Every literal has the type that it is declared with.** In a module that is generated from a
table in which every type has a name,

* each field and each parameter has the interface of its kind – so it has the members that the
  interface needs and no other – and refers to a constant of the kind that it states;
* each declared type and each operation has the interface that its constant is declared with;
* no constant is declared twice, so it has one interface. -/
theorem literals_conform (unnamed : "" ∉ table.names) {m : Module}
    (hm : (generate config table documents).outcome = .ok m) :
    (∀ d ∈ m.declarations,
      (∀ document, m.HasType document (Module.declarationCode m.namespaceName d)
        (Module.interfaceOf d.body)) ∧
      ∀ f ∈ d.fields, m.Conforms (fieldInterface f.shape) f.shape f.type
        (Module.fieldCode m.namespaceName f)) ∧
    (∀ o ∈ m.operations,
      m.HasType o.document (Module.operationCode m.namespaceName o) operationInterface ∧
      ∀ p ∈ o.parameters, m.Conforms (parameterInterface p.shape) p.shape p.type
        (Module.parameterCode m.namespaceName p)) ∧
    (m.constants.map (·.1)).Nodup := by
  refine ⟨fun d hd => ?_, fun o ho => ?_, ?_⟩
  · have hfields : ∀ f ∈ d.fields, m.Conforms (fieldInterface f.shape) f.shape f.type
        (Module.fieldCode m.namespaceName f) := fun f hf =>
      conforms_fieldCode (mem_constants_of_mem_mentions unnamed hm (mem_mentions_of_field hd hf))
    exact ⟨fun document => hasType_declarationCode fun f hf => (hfields f hf).typed document,
      hfields⟩
  · have hparameters : ∀ p ∈ o.parameters, m.Conforms (parameterInterface p.shape) p.shape p.type
        (Module.parameterCode m.namespaceName p) := fun p hp =>
      conforms_parameterCode
        (mem_constants_of_mem_mentions unnamed hm (mem_mentions_of_parameter ho hp))
    exact ⟨hasType_operationCode fun p hp => (hparameters p hp).typed o.document, hparameters⟩
  · simp only [Module.constants, List.map_map]
    exact nodup_declarations hm

theorem literals_conform_ordersDocument :
    "" ∉ Closure.loopedTable.names ∧ ∃ m,
      (generate {} Closure.loopedTable [ordersDocument]).outcome = .ok m ∧
      m.constants = [("Direction", "GraphQLInputEnumTypeMetadata"),
        ("Filter", "GraphQLInputObjectTypeMetadata"),
        ("Order", "GraphQLInputObjectTypeMetadata")] ∧
      (∀ d ∈ m.declarations, ∀ f ∈ d.fields, m.Conforms (fieldInterface f.shape) f.shape f.type
        (Module.fieldCode m.namespaceName f)) ∧
      ∀ o ∈ m.operations,
        m.HasType o.document (Module.operationCode m.namespaceName o) operationInterface := by
  have unnamed : "" ∉ Closure.loopedTable.names := by decide
  have hconform := @literals_conform {} Closure.loopedTable [ordersDocument] unnamed _ rfl
  exact ⟨unnamed, _, rfl, rfl, fun d hd => (hconform.1 d hd).2, fun o ho => (hconform.2.1 o ho).1⟩

end OperationCatalog.TypeScript
