import OperationCatalog.Proofs.GraphQL.Schema.Build
import OperationCatalog.Proofs.Metadata.Extraction

/-!
# What an extraction refuses

Every type of a schema that values can be given for has one entry in the extracted table, in the
order of the schema, unless a type is refused (`OperationCatalog.Metadata.extract_of_schema`). Two
things are refused. The items of a list field must be given by a name: a field whose items are not
(`OperationCatalog.GraphQL.InputField.Nests`) is named by the fault, and it is the first such field
of the first refused type.

The other is an enumeration without values. A schema may have one, as the language lets `enum E`
stand alone, and metadata may not: it is the metadata of the enumeration that are refused, so that
the fault names neither the enumeration nor the schema
(`OperationCatalog.Metadata.extract_emptySource`).
-/

namespace OperationCatalog.GraphQL

/-- **A list field whose items have no name**: without the exclusion of null from the field and from
its items, it is a list of items of this type, which is not a name. -/
def InputField.Nests (f : InputField) (item : TypeRef) : Prop :=
  (∃ listed, f.type.nullable = .list listed ∧ listed.nullable = item) ∧ ∀ name, item ≠ .named name

/-- Whether values can be given for a type, so that it is not only returned. -/
def SchemaType.isInput (t : SchemaType) : Bool :=
  match t.form with
  | .output => false
  | _ => true

end OperationCatalog.GraphQL

namespace OperationCatalog.Metadata

open GraphQL

variable {schema : Schema} {table : Table} {owner : String}

/-! ### What is extracted -/

/-- **The field that an input field makes.** -/
structure MakesField (schema : Schema) (f : InputField) (field : Field) : Prop where
  /-- It is called like the input field. -/
  name : field.name = f.name
  /-- Its type is that of the input field; of a list, that of the items. -/
  type : field.type = f.type.baseName
  /-- A value must be given exactly if null is excluded. -/
  required : field.required = f.type.isNonNull
  /-- The directives are its rules. -/
  validation : field.validation = rulesOf schema f.directives
  /-- It is a list exactly if the input field is, and the kind of its type is that in the schema. -/
  shape : field.shape = .one (kindIn schema field.type) ∧
      (∀ listed, f.type.nullable ≠ .list listed) ∨
    field.shape = .list (some (kindIn schema field.type)) true ∧
      ∃ listed, f.type.nullable = .list listed

/-- What a type of each form is made of. -/
inductive MakesShape (schema : Schema) : TypeForm → TypeShape → Prop
  /-- A scalar has no parts. -/
  | scalar : MakesShape schema .scalar .scalar
  /-- An enumeration keeps its values. -/
  | enum (values) : MakesShape schema (.enum values) (.enum values)
  /-- An object has one field for each input field, in order. -/
  | input {fields found} : List.Forall₂ (MakesField schema) fields found →
      MakesShape schema (.input fields) (.object found)

/-- **The entry that a type makes.** -/
structure MakesType (schema : Schema) (t : SchemaType) (u : InputType) : Prop where
  /-- It is called like the type. -/
  name : u.name = t.name
  /-- It is described like the type. -/
  description : u.description = t.description
  /-- It is made of the same. -/
  shape : MakesShape schema t.form u.shape

/-- The types of a schema that have entries: not those of introspection, nor those that are only
returned. -/
def inputTypes (schema : Schema) : List SchemaType :=
  (describedTypes schema).filter (·.isInput)

/-- **Why a type is refused.** -/
inductive Refused (t : SchemaType) : ExtractionFault → Prop
  /-- It is an enumeration without values. -/
  | noValues : t.form = .enum [] → Refused t .noValues
  /-- It is an object, and this is the first field whose items have no name. -/
  | nested {fields fault} : t.form = .input fields →
      First (fun f => ∀ item, ¬f.Nests item)
        (fun f => ∃ item, f.Nests item ∧ fault = .unsupportedItem item t.name f.name) fields →
      Refused t fault

/-! ### Fields -/

theorem shapeOfType_eq_error_iff {ref other : TypeRef} :
    shapeOfType schema ref = .error other ↔
      (∃ listed, ref = .list listed ∧ listed.nullable = other) ∧ ∀ name, other ≠ .named name := by
  unfold shapeOfType
  split
  · rename_i listed
    split
    · rename_i name hname
      constructor
      · simp
      · rintro ⟨⟨listed', hlist, hitem⟩, hother⟩
        obtain rfl := TypeRef.list.inj hlist
        exact absurd (hitem.symm.trans hname) (hother name)
    · rename_i hother
      constructor
      · intro h
        obtain rfl := Except.error.inj h
        exact ⟨⟨listed, rfl, rfl⟩, hother⟩
      · rintro ⟨⟨listed', hlist, hitem⟩, -⟩
        obtain rfl := TypeRef.list.inj hlist
        rw [hitem]
  · rename_i hnolist
    constructor
    · simp
    · rintro ⟨⟨listed, hlist, -⟩, -⟩
      exact absurd hlist (hnolist listed)

/-- **A field is refused** for its items. -/
theorem fieldOf_eq_error_iff {f : InputField} {fault : ExtractionFault} :
    fieldOf schema owner f = .error fault ↔
      ∃ item, f.Nests item ∧ fault = .unsupportedItem item owner f.name := by
  unfold fieldOf InputField.Nests
  rcases hshape : shapeOfType schema f.type.nullable with item | ⟨type, shape⟩
  · constructor
    · intro h
      exact ⟨item, shapeOfType_eq_error_iff.mp hshape, (Except.error.inj h).symm⟩
    · rintro ⟨item', hnests, rfl⟩
      obtain rfl := Except.error.inj (hshape.symm.trans (shapeOfType_eq_error_iff.mpr hnests))
      rfl
  · constructor
    · simp
    · rintro ⟨item, hnests, -⟩
      simp [shapeOfType_eq_error_iff.mpr hnests] at hshape

theorem exists_fieldOf_iff {f : InputField} :
    (∃ field, fieldOf schema owner f = .ok field) ↔ ∀ item, ¬f.Nests item := by
  simp only [exists_eq_ok_iff, ne_eq, fieldOf_eq_error_iff]
  constructor
  · intro h item hnests
    exact h _ ⟨item, hnests, rfl⟩
  · rintro h _ ⟨item, hnests, -⟩
    exact h item hnests

theorem makesField_of_fieldOf {f : InputField} {field : Field}
    (h : fieldOf schema owner f = .ok field) : MakesField schema f field := by
  obtain ⟨htype, hvalidation, -⟩ := fieldOf_eq_ok h
  unfold fieldOf at h
  rcases hshape : shapeOfType schema f.type.nullable with item | ⟨type, shape⟩
  · simp [hshape] at h
  · rw [hshape] at h
    cases h
    refine ⟨rfl, htype, rfl, hvalidation, ?_⟩
    unfold shapeOfType at hshape
    split at hshape
    · rename_i listed hlist
      split at hshape
      · obtain ⟨rfl, rfl⟩ := Prod.mk.inj (Except.ok.inj hshape)
        exact Or.inr ⟨rfl, listed, hlist⟩
      · simp at hshape
    · rename_i hnolist
      obtain ⟨rfl, rfl⟩ := Prod.mk.inj (Except.ok.inj hshape)
      exact Or.inl ⟨rfl, hnolist⟩

/-! ### Types -/

/-- **A type is refused** for its values or for a field. -/
theorem typeOf_eq_error_iff {t : SchemaType} {fault : ExtractionFault} :
    typeOf schema t = .error fault ↔ Refused t fault := by
  have hfields {fields : List InputField} :
      fields.mapM (fieldOf schema t.name) = .error fault ↔ First (fun f => ∀ item, ¬f.Nests item)
        (fun f => ∃ item, f.Nests item ∧ fault = .unsupportedItem item t.name f.name) fields := by
    simp only [mapM_eq_error_iff, exists_fieldOf_iff, fieldOf_eq_error_iff]
  unfold typeOf
  constructor
  · intro h
    split at h
    · simp at h
    · rename_i values hform
      split at h
      · rename_i hempty
        obtain rfl := Except.error.inj h
        exact .noValues (by rw [hform, List.isEmpty_iff.mp hempty])
      · simp at h
    · rename_i fields hform
      exact .nested hform (hfields.mp (bind_pure_eq_error_iff.mp h))
    · simp at h
  · intro h
    cases h with
    | noValues hform =>
      rw [hform]
      rfl
    | nested hform hfirst =>
      rw [hform]
      exact bind_pure_eq_error_iff.mpr (hfields.mpr hfirst)

theorem exists_typeOf_iff {t : SchemaType} :
    (∃ r, typeOf schema t = .ok r) ↔ ∀ fault, ¬Refused t fault := by
  simp only [exists_eq_ok_iff, ne_eq, typeOf_eq_error_iff]

/-- **A type makes an entry** unless it is only returned. -/
theorem makesType_of_typeOf {t : SchemaType} {u : InputType}
    (h : typeOf schema t = .ok (some u)) : MakesType schema t u := by
  obtain ⟨hform, hu⟩ | ⟨values, hform, -, hu⟩ | ⟨fields, found, hform, hfound, hu⟩ | ⟨-, hu⟩ :=
    typeOf_eq_ok h
  all_goals cases hu
  · exact ⟨rfl, rfl, hform ▸ .scalar⟩
  · exact ⟨rfl, rfl, hform ▸ .enum values⟩
  · exact ⟨rfl, rfl, hform ▸ .input (hfound.imp fun _ _ => makesField_of_fieldOf)⟩

theorem isSome_of_typeOf {t : SchemaType} {r : Option InputType} (h : typeOf schema t = .ok r) :
    r.isSome = t.isInput := by
  obtain ⟨hform, rfl⟩ | ⟨values, hform, -, rfl⟩ | ⟨fields, found, hform, -, rfl⟩ | ⟨hform, rfl⟩ :=
    typeOf_eq_ok h
  all_goals rw [SchemaType.isInput, hform]; rfl

/-! ### Schemas -/

/-- **An extracted table has one entry for each type** that has entries, in the order of the
schema. -/
theorem makesType_of_extract (h : (extract schema).outcome = .ok table) :
    List.Forall₂ (MakesType schema) (inputTypes schema) table.types := by
  obtain ⟨found, hfound, htypes⟩ := types_of_extract h
  rw [htypes, inputTypes]
  exact (forall₂_filterMap_id hfound fun _ _ => isSome_of_typeOf).imp fun _ _ => makesType_of_typeOf

/-- **A schema is refused** for the first type of it that is. -/
theorem extract_eq_error_iff {fault : ExtractionFault} :
    (extract schema).outcome = .error fault ↔
      First (fun t => ∀ fault', ¬Refused t fault') (Refused · fault) (describedTypes schema) := by
  rw [outcome_extract, bind_pure_eq_error_iff]
  simp only [mapM_eq_error_iff, exists_typeOf_iff, typeOf_eq_error_iff]

/-- A schema is extracted exactly if no type of it is refused. -/
theorem exists_extract_iff : (∃ table, (extract schema).outcome = .ok table) ↔
    ∀ t ∈ describedTypes schema, ∀ fault, ¬Refused t fault := by
  rw [outcome_extract, exists_bind_pure_iff]
  simp only [exists_mapM_iff, exists_typeOf_iff]

/-- A type that is no enumeration without values is refused exactly if it is an object with a field
whose items have no name. -/
theorem exists_refused_iff {t : SchemaType} (hvalues : t.form ≠ .enum []) :
    (∃ fault, Refused t fault) ↔
      ∃ fields, t.form = .input fields ∧ ∃ f ∈ fields, ∃ item, f.Nests item := by
  constructor
  · rintro ⟨fault, hrefused⟩
    cases hrefused with
    | noValues hform => exact absurd hform hvalues
    | nested hform hfirst =>
      obtain ⟨before, f, after, rfl, -, item, hnests, -⟩ := hfirst
      exact ⟨_, hform, f, by simp, item, hnests⟩
  · rintro ⟨fields, hform, f, hf, item, hnests⟩
    have hsome : ∃ f ∈ fields, ¬∀ item, ¬f.Nests item := ⟨f, hf, fun h => h item hnests⟩
    obtain ⟨before, first, after, hfields, hbefore, hfirst⟩ := first_of_exists hsome
    obtain ⟨item, hnests⟩ := not_forall_not.mp hfirst
    exact ⟨_, .nested hform ⟨before, first, after, hfields, hbefore, item, hnests, rfl⟩⟩

/-- **What becomes of a schema.** It has metadata exactly if no type is refused, and these are one
entry for each type that values can be given for, in the order of the schema. If it has none, the
fault is that of the first type that is refused. So unless an enumeration of the schema is without
values, there are no metadata exactly if the items of some field of an object have no name, and the
fault names the first such field. -/
theorem extract_of_schema (schema : Schema) :
    ((∃ table, (extract schema).outcome = .ok table) ↔
      ∀ t ∈ describedTypes schema, ∀ fault, ¬Refused t fault) ∧
    (∀ table, (extract schema).outcome = .ok table →
      List.Forall₂ (MakesType schema) (inputTypes schema) table.types) ∧
    (∀ fault, (extract schema).outcome = .error fault ↔
      First (fun t => ∀ fault', ¬Refused t fault') (Refused · fault) (describedTypes schema)) ∧
    ((∀ t ∈ describedTypes schema, t.form ≠ .enum []) →
      (∀ fault, (extract schema).outcome = .error fault →
        ∃ item owner field, fault = .unsupportedItem item owner field) ∧
      ((∃ fault, (extract schema).outcome = .error fault) ↔
        ∃ t ∈ describedTypes schema, ∃ fields, t.form = .input fields ∧
          ∃ f ∈ fields, ∃ item, f.Nests item)) := by
  refine ⟨exists_extract_iff, fun table => makesType_of_extract, fun fault => extract_eq_error_iff,
    fun hvalues => ⟨fun fault h => ?_, ?_⟩⟩
  · obtain ⟨before, t, after, htypes, -, hrefused⟩ := extract_eq_error_iff.mp h
    have ht : t ∈ describedTypes schema := by
      rw [htypes]
      simp
    cases hrefused with
    | noValues hform => exact absurd hform (hvalues t ht)
    | nested hform hfirst =>
      obtain ⟨_, f, _, -, -, item, -, rfl⟩ := hfirst
      exact ⟨item, t.name, f.name, rfl⟩
  · have hrefused : (∃ fault, (extract schema).outcome = .error fault) ↔
        ∃ t ∈ describedTypes schema, ∃ fault, Refused t fault := by
      rw [← not_iff_not, not_exists, ← exists_eq_ok_iff, exists_extract_iff]
      simp only [not_exists, not_and]
    rw [hrefused]
    constructor
    · rintro ⟨t, ht, h⟩
      exact ⟨t, ht, (exists_refused_iff (hvalues t ht)).mp h⟩
    · rintro ⟨t, ht, h⟩
      exact ⟨t, ht, (exists_refused_iff (hvalues t ht)).mpr h⟩

/-- A schema with an enumeration without values. -/
def emptySource : String := "enum E"

/-- The schema that the text defines. -/
def emptySchema : Schema := (schemaOfText false emptySource).toOption.getD .empty

/-- **An enumeration without values** is defined and then refused, though the schema has no object
at all. -/
theorem extract_emptySource :
    schemaOfText false emptySource = .ok emptySchema ∧
      (∀ t ∈ emptySchema.types, ∀ fields, t.form ≠ .input fields) ∧
      (extract emptySchema).outcome = .error .noValues := by
  obtain ⟨hschema, hkinds, hextract⟩ :
      (schemaOfText false emptySource).toOption.isSome = true ∧
        (∀ form ∈ emptySchema.types.map (·.form), kindOfForm form ≠ .object) ∧
        (extract emptySchema).outcome.map (fun _ => ()) = .error .noValues := by decide +kernel
  refine ⟨eq_ok_getD hschema _, fun t ht fields hform => ?_, map_eq_error_iff.mp hextract⟩
  exact hkinds t.form (List.mem_map_of_mem ht) (hform ▸ rfl)

end OperationCatalog.Metadata
