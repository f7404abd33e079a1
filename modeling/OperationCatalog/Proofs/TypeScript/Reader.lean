import Mathlib.Data.List.Basic
import OperationCatalog.Proofs.Text.Splitting
import OperationCatalog.Proofs.TypeScript.Literal
import OperationCatalog.Proofs.TypeScript.Outline
import OperationCatalog.TypeScript.Module

/-!
# Reading the constants of a generated module

What a constant says is read off its outline. A member of an object is found by its name, which
stands before the first colon of its first line; a text is read as a literal, an opaque value is the
expression as it stands, and a reference is the expression after the name of the namespace.

* **Members that are left out.** A rule without arguments, a field without rules and a rule that is
  not meant for each item are read where the member is missing, so nothing but an empty
  description is lost (`OperationCatalog.TypeScript.Declaration.said`).
* **One lemma per structure.** That what is written is read back is stated with
  `OperationCatalog.TypeScript.Reads`, for expressions first, then for arrays and the members of
  objects, and from these for rules, fields, declarations, parameters and operations.
-/

namespace OperationCatalog.TypeScript

open Metadata

/-! ### Expressions and members -/

namespace Outline

/-- A text. -/
def text? : Outline → Option String
  | line text =>
    match readLiteral text with
    | some (s, [',']) => some (String.ofList s)
    | _ => none
  | block _ _ => none

/-- An expression as it stands, without the comma after it. -/
def expression? : Outline → Option String
  | line text => some (String.ofList text.dropLast)
  | block _ _ => none

/-- A truth value. -/
def bool? (o : Outline) : Option Bool :=
  match o.expression? with
  | some "true" => some true
  | some "false" => some false
  | _ => none

/-- The items of an array. -/
def items {α : Type} (read : Outline → Option α) (o : Outline) : Option (List α) :=
  o.parts.mapM read

/-- The name before the colon of a line. -/
def label (text : List Char) : String := String.ofList (text.takeWhile (· != ':'))

/-- What stands after the colon of a line and the blank after it. -/
def afterLabel (text : List Char) : List Char := (text.dropWhile (· != ':')).drop 2

/-- A member of an object: its name and what it stands for. -/
def member : Outline → String × Outline
  | line text => (label text, line (afterLabel text))
  | block opening parts => (label opening, block (afterLabel opening) parts)

/-- The member with a name. -/
def get? (o : Outline) (name : String) : Option Outline := (o.parts.map member).lookup name

/-- A member that must be there. -/
def needed {α : Type} (o : Outline) (name : String) (read : Outline → Option α) : Option α :=
  (o.get? name).bind read

/-- A member that may be missing. -/
def optional {α : Type} (o : Outline) (name : String) (read : Outline → Option α) :
    Option (Option α) :=
  match o.get? name with
  | some part => (read part).map some
  | none => some none

end Outline

/-! ### Structures -/

/-- A kind of type, by its word. -/
def readKind (o : Outline) : Option TypeKind := o.text?.bind (TypeKind.words.lookup ·)

/-- A kind of operation, by its word. -/
def readOperationKind (o : Outline) : Option GraphQL.OperationKind :=
  o.text?.bind (GraphQL.OperationKind.words.lookup ·)

/-- A rule. -/
def readRule (o : Outline) : Option RuleCode := do
  let type ← o.needed "type" Outline.text?
  let constraints ← o.optional "constraints" (Outline.items Outline.expression?)
  let each ← o.optional "each" Outline.bool?
  let context ← o.optional "context" Outline.expression?
  let options ← o.optional "options" Outline.expression?
  return ⟨type, constraints.getD [], each.getD false, context, options⟩

/-- What a field or parameter holds. -/
def readShape (o : Outline) : Option Shape := do
  if (← o.needed "kind" Outline.text?) == "list" then
    let itemKind ← o.needed "itemKind" readKind
    return .list itemKind (← o.needed "allowsEmpty" Outline.bool?)
  else return .one (← o.needed "kind" readKind)

/-- The name of a type where it is referred to. -/
def readReference (namespaceName : String) (kind : TypeKind) (o : Outline) : Option String :=
  if kind = .scalar then o.text?
  else do
    let name ← (← o.expression?).toList.dropPrefix? (namespaceName ++ ".").toList
    return String.ofList name

/-- A field of a declared object. -/
def readField (namespaceName : String) (o : Outline) : Option FieldCode := do
  let name ← o.needed "name" Outline.text?
  let shape ← readShape o
  let type ← o.needed "type" (readReference namespaceName shape.typeKind)
  let required ← o.needed "required" Outline.bool?
  let rules ← o.optional "validation" (Outline.items readRule)
  return ⟨name, type, required, shape, rules.getD []⟩

/-- **A declared type.** -/
def readDeclaration (namespaceName : String) (o : Outline) : Option Declaration := do
  let name ← o.needed "type" Outline.text?
  let description ← o.optional "description" Outline.text?
  match ← o.needed "kind" readKind with
  | .enum => return ⟨name, description, .enum (← o.needed "values" (Outline.items Outline.text?))⟩
  | .object =>
    let fields ← o.needed "fields" (Outline.items (readField namespaceName))
    return ⟨name, description, .object fields⟩
  | .scalar => none

/-- A parameter of an operation. -/
def readParameter (namespaceName : String) (o : Outline) : Option ParameterCode := do
  let name ← o.needed "parameter" Outline.text?
  let shape ← readShape o
  let type ← o.needed "type" (readReference namespaceName shape.typeKind)
  let required ← o.needed "required" Outline.bool?
  return ⟨name, type, required, shape⟩

/-- **An operation.** -/
def readOperation (namespaceName : String) (o : Outline) : Option OperationCode := do
  let name ← o.needed "operation" Outline.text?
  let kind ← o.needed "operationType" readOperationKind
  let document ← o.needed "document" Outline.expression?
  let parameters ← o.needed "parameters" (Outline.items (readParameter namespaceName))
  return ⟨name, kind, document, parameters⟩

/-! ### Reading what is written -/

section

variable {α : Type} {read : Outline → Option α} {o : Outline} {members : List (String × Code)}
  {name : String} {code : Code} {a : α}

/-- **Some code is read as a value** where it stands in an array or object. -/
def Reads (read : Outline → Option α) (code : Code) (a : α) : Prop :=
  read (code.outline "" ",") = some a

theorem reads_line (s : String) : Reads Outline.expression? (.line s) s := by
  simp [Reads, Outline.expression?, Code.outline]

theorem reads_text (s : String) : Reads Outline.text? (.text s) s := by
  have line : ("" ++ textLiteral s ++ ",").toList = textChars s.toList ++ [','] := by
    simp [textLiteral]
  simp only [Reads, Outline.text?, Code.outline, Code.text, line, readLiteral_textChars,
    String.ofList_toList]

theorem reads_bool (b : Bool) : Reads Outline.bool? (.bool b) b := by
  have h : (Code.outline "" "," (.bool b)).expression? = some (boolLiteral b) := reads_line _
  unfold Reads Outline.bool?
  rw [h]
  cases b <;> rfl

/-- What is read part by part is read as a whole. -/
theorem mapM_map_eq_some {β : Type} {values : List β} {outline : β → Outline} {said : β → α}
    (h : ∀ b ∈ values, read (outline b) = some (said b)) :
    (values.map outline).mapM read = some (values.map said) := by
  induction values with
  | nil => rfl
  | cons b values ih =>
    rw [List.map_cons, List.mapM_cons, h b List.mem_cons_self,
      ih fun c hc => h c (List.mem_cons_of_mem _ hc)]
    rfl

/-- An array is read item by item. -/
theorem reads_array {write : α → Code} {values : List α}
    (h : ∀ a ∈ values, Reads read (write a) a) :
    Reads (Outline.items read) (.array (values.map write)) values := by
  have each : (values.map (Code.outline "" "," ∘ write)).mapM read = some (values.map id) :=
    mapM_map_eq_some h
  rw [Reads, Outline.items, Code.outline, Outline.parts, Code.itemOutlines_eq_map, List.map_map,
    each, List.map_id]

/-! ### Reading members -/

/-- Members whose names end at the first colon. -/
def Labelled (members : List (String × Code)) : Prop := ∀ m ∈ members, ':' ∉ m.1.toList

theorem label_append (h : ':' ∉ name.toList) (text : List Char) :
    Outline.label (name.toList ++ ':' :: text) = name := by
  rw [Outline.label, Text.takeWhile_part (Text.ne_of_notMem h) rfl, String.ofList_toList]

theorem afterLabel_append (h : ':' ∉ name.toList) (c : Char) (text : List Char) :
    Outline.afterLabel (name.toList ++ ':' :: c :: text) = text := by
  rw [Outline.afterLabel, Text.dropWhile_part (Text.ne_of_notMem h) rfl]
  rfl

/-- A member is found under its name. -/
theorem member_outline (h : ':' ∉ name.toList) (code : Code) :
    (code.outline (name ++ ": ") ",").member = (name, code.outline "" ",") := by
  have line (text : String) :
      (name ++ ": " ++ text).toList = name.toList ++ ':' :: ' ' :: text.toList := by
    simp
  -- the name holds no colon, so the first colon of the line is the one after it
  cases code with
  | line text =>
    rw [Code.outline, Outline.member, String.append_assoc, String.append_assoc,
      ← String.append_assoc, line, label_append h, afterLabel_append h]
    simp [Code.outline]
  | array items =>
    rw [Code.outline, Outline.member, line, label_append h, afterLabel_append h]
    simp [Code.outline]
  | object members =>
    rw [Code.outline, Outline.member, line, label_append h, afterLabel_append h]
    simp [Code.outline]

/-- **A block holds some members**, which are found under their names. -/
def Holds (o : Outline) (members : List (String × Code)) : Prop :=
  ∀ name, o.get? name = (members.lookup name).map (Code.outline "" ",")

theorem holds_object (before after : String) (h : Labelled members) :
    Holds ((Code.object members).outline before after) members := by
  intro name
  rw [Outline.get?, Code.outline, Outline.parts, Code.memberOutlines_eq_map, List.map_map]
  induction members with
  | nil => rfl
  | cons m members ih =>
    obtain ⟨other, code⟩ := m
    rw [List.map_cons, Function.comp_apply, member_outline (h _ List.mem_cons_self),
      List.lookup_cons, List.lookup_cons]
    cases name == other with
    | true => rfl
    | false => exact ih fun m hm => h m (List.mem_cons_of_mem _ hm)

theorem Holds.needed (h : Holds o members) (hmember : members.lookup name = some code)
    (hread : Reads read code a) : o.needed name read = some a := by
  rw [Outline.needed, h, hmember]
  exact hread

theorem Holds.optional (h : Holds o members) {stated : Option α} {write : α → Code}
    (hmember : members.lookup name = stated.map write) (hread : ∀ a, Reads read (write a) a) :
    o.optional name read = some stated := by
  rw [Outline.optional, h, hmember]
  cases stated with
  | none => rfl
  | some a =>
    have given : read (Code.outline "" "," (write a)) = some a := hread a
    simp [given]

end

/-! ### Members that may be left out -/

section

variable {members more : List (String × Code)} {name key : String}

/-- A member that is there if its value is. -/
def memberOption (name : String) (value : Option Code) : List (String × Code) :=
  (value.map (name, ·)).toList

theorem memberIf_eq (condition : Bool) (name : String) (value : Code) :
    memberIf condition name value = memberOption name (if condition then some value else none) := by
  cases condition <;> rfl

@[simp] theorem labelled_nil : Labelled [] := by simp [Labelled]

@[simp] theorem labelled_cons {m : String × Code} :
    Labelled (m :: members) ↔ ':' ∉ m.1.toList ∧ Labelled members := by
  simp [Labelled]

@[simp] theorem labelled_append :
    Labelled (members ++ more) ↔ Labelled members ∧ Labelled more := by
  simp [Labelled, or_imp, forall_and]

@[simp] theorem labelled_memberOption {value : Option Code} (h : ':' ∉ name.toList) :
    Labelled (memberOption name value) := by
  cases value <;> simp [memberOption, h]

@[simp] theorem lookup_memberOption {value : Option Code} :
    (memberOption name value).lookup key = if key == name then value else none := by
  cases value with
  | none => simp [memberOption]
  | some code =>
    rw [memberOption, Option.map_some, Option.toList_some, List.lookup_cons, List.lookup_nil]
    cases h : key == name <;> rfl

end

/-! ### Rules and fields -/

/-- The members of an object. -/
def Code.members : Code → List (String × Code)
  | object members => members
  | _ => []

section

variable {o : Outline}

/-- The members of a rule, each with what it is left out for. -/
theorem members_rule (r : RuleCode) : r.code.members =
    ("type", .text r.type) ::
      memberOption "constraints" ((if r.constraints.isEmpty then none else some r.constraints).map
        fun constraints => .array (constraints.map .line)) ++
      memberOption "each" ((if r.each then some true else none).map .bool) ++
      memberOption "context" (r.context.map .line) ++
      memberOption "options" (r.options.map .line) := by
  obtain ⟨_, constraints, each, context, options⟩ := r
  cases constraints <;> cases each <;> cases context <;> cases options <;> rfl

theorem getD_unless_empty {α : Type} (values : List α) :
    (if values.isEmpty then none else some values).getD [] = values := by
  cases values <;> rfl

theorem readRule_of_holds {r : RuleCode} (h : Holds o r.code.members) : readRule o = some r := by
  rw [members_rule] at h
  have type : o.needed "type" Outline.text? = some r.type :=
    h.needed (by simp) (reads_text r.type)
  have constraints : o.optional "constraints" (Outline.items Outline.expression?) =
      some (if r.constraints.isEmpty then none else some r.constraints) :=
    h.optional (by simp [List.lookup_append, List.lookup_cons]) fun _ =>
      reads_array fun c _ => reads_line c
  have each : o.optional "each" Outline.bool? = some (if r.each then some true else none) :=
    h.optional (by simp [List.lookup_append, List.lookup_cons]) reads_bool
  have context : o.optional "context" Outline.expression? = some r.context :=
    h.optional (by simp [List.lookup_append, List.lookup_cons]) reads_line
  have options : o.optional "options" Outline.expression? = some r.options :=
    h.optional (by simp [List.lookup_append, List.lookup_cons]) reads_line
  have meant : (if r.each then some true else none).getD false = r.each := by
    cases r.each <;> rfl
  simp only [readRule, type, constraints, each, context, options, getD_unless_empty, meant,
    Option.bind_eq_bind, Option.bind_some]
  rfl

theorem labelled_rule (r : RuleCode) : Labelled r.code.members := by
  rw [members_rule]
  simp

/-- **A rule is read back.** -/
theorem reads_rule (r : RuleCode) : Reads readRule r.code r :=
  readRule_of_holds (holds_object _ _ (labelled_rule r))

/-! ### Types that are referred to -/

theorem reads_kind (kind : TypeKind) : Reads readKind (.text kind.word) kind := by
  have word : (Code.outline "" "," (.text kind.word)).text? = some kind.word := reads_text _
  rw [Reads, readKind, word]
  cases kind <;> rfl

theorem reads_operationKind (kind : GraphQL.OperationKind) :
    Reads readOperationKind (.text kind.word) kind := by
  have word : (Code.outline "" "," (.text kind.word)).text? = some kind.word := reads_text _
  rw [Reads, readOperationKind, word]
  cases kind <;> rfl

/-- **A reference** is read back as the name of the type. -/
theorem reads_reference (namespaceName : String) (kind : TypeKind) (type : String) :
    Reads (readReference namespaceName kind) (Module.reference namespaceName kind type) type := by
  unfold Reads readReference Module.reference
  split
  · exact reads_text type
  · have line : (Code.outline "" "," (.line (namespaceName ++ "." ++ type))).expression? =
        some (namespaceName ++ "." ++ type) := reads_line _
    have rest : (namespaceName ++ "." ++ type).toList.dropPrefix? (namespaceName ++ ".").toList =
        some type.toList := by
      rw [String.toList_append]
      exact List.dropPrefix?_append_of_beq _ (BEq.refl _)
    simp only [line, rest, Option.bind_eq_bind, Option.bind_some, String.ofList_toList]
    rfl

/-- The kind of the items, of a list. -/
def Shape.itemKind? : Shape → Option TypeKind
  | one _ => none
  | list itemKind _ => some itemKind

/-- Whether it may be empty, of a list. -/
def Shape.allowsEmpty? : Shape → Option Bool
  | one _ => none
  | list _ allowsEmpty => some allowsEmpty

theorem itemKindMember_eq (shape : Shape) : shape.itemKindMember =
    memberOption "itemKind" (shape.itemKind?.map fun kind => .text kind.word) := by
  cases shape <;> rfl

theorem allowsEmptyMember_eq (shape : Shape) : shape.allowsEmptyMember =
    memberOption "allowsEmpty" (shape.allowsEmpty?.map .bool) := by
  cases shape <;> rfl

theorem readShape_of_holds {members : List (String × Code)} {shape : Shape}
    (h : Holds o members) (hkind : members.lookup "kind" = some (.text shape.word))
    (hitem : members.lookup "itemKind" = shape.itemKind?.map fun kind => .text kind.word)
    (hempty : members.lookup "allowsEmpty" = shape.allowsEmpty?.map .bool) :
    readShape o = some shape := by
  have word : o.needed "kind" Outline.text? = some shape.word := h.needed hkind (reads_text _)
  -- no kind goes by the word for lists, so the word tells the two shapes apart
  cases shape with
  | one kind =>
    have known : o.needed "kind" readKind = some kind := h.needed hkind (reads_kind kind)
    have other : kind.word ≠ "list" := by cases kind <;> decide
    simp [readShape, word, known, other, Shape.word]
  | list itemKind allowsEmpty =>
    have item : o.needed "itemKind" readKind = some itemKind := h.needed hitem (reads_kind itemKind)
    have empty : o.needed "allowsEmpty" Outline.bool? = some allowsEmpty :=
      h.needed hempty (reads_bool allowsEmpty)
    simp [readShape, word, item, empty, Shape.word]

/-! ### Fields and declarations -/

theorem members_field (namespaceName : String) (f : FieldCode) :
    (Module.fieldCode namespaceName f).members =
      [("name", .text f.name), ("kind", .text f.shape.word)] ++
        memberOption "itemKind" (f.shape.itemKind?.map fun kind => .text kind.word) ++
        [("type", Module.reference namespaceName f.shape.typeKind f.type),
          ("required", .bool f.required)] ++
        memberOption "allowsEmpty" (f.shape.allowsEmpty?.map .bool) ++
        memberOption "validation" ((if f.rules.isEmpty then none else some f.rules).map
          fun rules => .array (rules.map RuleCode.code)) := by
  rw [Module.fieldCode, Code.members, itemKindMember_eq, allowsEmptyMember_eq, memberIf_eq]
  cases f.rules <;> rfl

theorem readField_of_holds {namespaceName : String} {f : FieldCode}
    (h : Holds o (Module.fieldCode namespaceName f).members) :
    readField namespaceName o = some f := by
  rw [members_field] at h
  have name : o.needed "name" Outline.text? = some f.name := h.needed (by simp) (reads_text f.name)
  have shape : readShape o = some f.shape := readShape_of_holds h (by simp [List.lookup_cons])
    (by simp [List.lookup_append, List.lookup_cons])
    (by simp [List.lookup_append, List.lookup_cons])
  have type : o.needed "type" (readReference namespaceName f.shape.typeKind) = some f.type :=
    h.needed (by simp [List.lookup_append, List.lookup_cons]) (reads_reference _ _ _)
  have required : o.needed "required" Outline.bool? = some f.required :=
    h.needed (by simp [List.lookup_append, List.lookup_cons]) (reads_bool f.required)
  have rules : o.optional "validation" (Outline.items readRule) =
      some (if f.rules.isEmpty then none else some f.rules) :=
    h.optional (by simp [List.lookup_append, List.lookup_cons]) fun _ =>
      reads_array fun r _ => reads_rule r
  simp only [readField, name, shape, type, required, rules, getD_unless_empty,
    Option.bind_eq_bind, Option.bind_some]
  rfl

theorem labelled_field (namespaceName : String) (f : FieldCode) :
    Labelled (Module.fieldCode namespaceName f).members := by
  rw [members_field]
  simp

/-- **A field is read back.** -/
theorem reads_field (namespaceName : String) (f : FieldCode) :
    Reads (readField namespaceName) (Module.fieldCode namespaceName f) f :=
  readField_of_holds (holds_object _ _ (labelled_field namespaceName f))

/-- What is said about a declared type: an empty description says nothing. -/
def Declaration.said (d : Declaration) : Declaration :=
  { d with description := d.description.filter (· != "") }

theorem descriptionMember_eq (description : Option String) : descriptionMember description =
    memberOption "description" ((description.filter (· != "")).map .text) := by
  cases description with
  | none => rfl
  | some s =>
    rw [descriptionMember, memberIf_eq, Option.filter_some]
    cases s != "" <;> rfl

/-- The kind of a declared type. -/
def DeclarationBody.kind : DeclarationBody → TypeKind
  | .enum _ => .enum
  | .object _ => .object

theorem members_declaration (namespaceName : String) (d : Declaration) :
    (Module.declarationCode namespaceName d).members =
      [("kind", .text d.body.kind.word), ("type", .text d.name)] ++
        memberOption "description" (d.said.description.map .text) ++
        match d.body with
        | .enum values => [("values", .array (values.map .text))]
        | .object fields => [("fields", .array (fields.map (Module.fieldCode namespaceName)))] := by
  obtain ⟨name, description, body⟩ := d
  have described := descriptionMember_eq description
  cases body <;> simp only [Module.declarationCode, Code.members, described] <;> rfl

theorem labelled_declaration (namespaceName : String) (d : Declaration) :
    Labelled (Module.declarationCode namespaceName d).members := by
  rw [members_declaration]
  cases d.body <;> simp

/-- **A declared type is read back**, without an empty description. -/
theorem readDeclaration_of_holds {namespaceName : String} {d : Declaration}
    (h : Holds o (Module.declarationCode namespaceName d).members) :
    readDeclaration namespaceName o = some d.said := by
  rw [members_declaration] at h
  have name : o.needed "type" Outline.text? = some d.name :=
    h.needed (by simp [List.lookup_cons]) (reads_text d.name)
  have description : o.optional "description" Outline.text? = some d.said.description :=
    h.optional (by cases d.body <;> simp [List.lookup_append, List.lookup_cons]) reads_text
  have kind : o.needed "kind" readKind = some d.body.kind :=
    h.needed (by simp) (reads_kind d.body.kind)
  simp only [readDeclaration, name, description, kind, Option.bind_eq_bind, Option.bind_some]
  -- the kind says which of the two members to look for
  cases hbody : d.body with
  | enum values =>
    rw [hbody] at h
    have parts : o.needed "values" (Outline.items Outline.text?) = some values :=
      h.needed (by simp [List.lookup_append, List.lookup_cons])
        (reads_array fun s _ => reads_text s)
    simp [DeclarationBody.kind, parts, Declaration.said, hbody]
  | object fields =>
    rw [hbody] at h
    have parts : o.needed "fields" (Outline.items (readField namespaceName)) = some fields :=
      h.needed (by simp [List.lookup_append, List.lookup_cons])
        (reads_array fun f _ => reads_field namespaceName f)
    simp [DeclarationBody.kind, parts, Declaration.said, hbody]

/-! ### Parameters and operations -/

theorem members_parameter (namespaceName : String) (p : ParameterCode) :
    (Module.parameterCode namespaceName p).members =
      [("parameter", .text p.name), ("required", .bool p.required), ("kind", .text p.shape.word)] ++
        memberOption "itemKind" (p.shape.itemKind?.map fun kind => .text kind.word) ++
        [("type", Module.reference namespaceName p.shape.typeKind p.type)] ++
        memberOption "allowsEmpty" (p.shape.allowsEmpty?.map .bool) := by
  rw [Module.parameterCode, Code.members, itemKindMember_eq, allowsEmptyMember_eq]

theorem labelled_parameter (namespaceName : String) (p : ParameterCode) :
    Labelled (Module.parameterCode namespaceName p).members := by
  rw [members_parameter]
  simp

theorem readParameter_of_holds {namespaceName : String} {p : ParameterCode}
    (h : Holds o (Module.parameterCode namespaceName p).members) :
    readParameter namespaceName o = some p := by
  rw [members_parameter] at h
  have name : o.needed "parameter" Outline.text? = some p.name :=
    h.needed (by simp) (reads_text p.name)
  have shape : readShape o = some p.shape := readShape_of_holds h (by simp [List.lookup_cons])
    (by simp [List.lookup_append, List.lookup_cons])
    (by simp [List.lookup_append, List.lookup_cons])
  have type : o.needed "type" (readReference namespaceName p.shape.typeKind) = some p.type :=
    h.needed (by simp [List.lookup_append, List.lookup_cons]) (reads_reference _ _ _)
  have required : o.needed "required" Outline.bool? = some p.required :=
    h.needed (by simp [List.lookup_cons]) (reads_bool p.required)
  simp only [readParameter, name, shape, type, required, Option.bind_eq_bind, Option.bind_some]
  rfl

/-- **A parameter is read back.** -/
theorem reads_parameter (namespaceName : String) (p : ParameterCode) :
    Reads (readParameter namespaceName) (Module.parameterCode namespaceName p) p :=
  readParameter_of_holds (holds_object _ _ (labelled_parameter namespaceName p))

theorem labelled_operation (namespaceName : String) (operation : OperationCode) :
    Labelled (Module.operationCode namespaceName operation).members := by
  simp [Module.operationCode, Code.members]

/-- **An operation is read back.** -/
theorem readOperation_of_holds {namespaceName : String} {operation : OperationCode}
    (h : Holds o (Module.operationCode namespaceName operation).members) :
    readOperation namespaceName o = some operation := by
  rw [Module.operationCode, Code.members] at h
  have name : o.needed "operation" Outline.text? = some operation.name :=
    h.needed (by simp) (reads_text operation.name)
  have kind : o.needed "operationType" readOperationKind = some operation.kind :=
    h.needed (by simp [List.lookup_cons]) (reads_operationKind operation.kind)
  have document : o.needed "document" Outline.expression? = some operation.document :=
    h.needed (by simp [List.lookup_cons]) (reads_line operation.document)
  have parameters : o.needed "parameters" (Outline.items (readParameter namespaceName)) =
      some operation.parameters :=
    h.needed (by simp [List.lookup_cons]) (reads_array fun p _ => reads_parameter namespaceName p)
  simp only [readOperation, name, kind, document, parameters, Option.bind_eq_bind, Option.bind_some]
  rfl

end

end OperationCatalog.TypeScript
