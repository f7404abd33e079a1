import OperationCatalog.Metadata.Extraction
import OperationCatalog.Proofs.Log
import OperationCatalog.Proofs.Metadata.Table

/-!
# What is extracted from a schema

The table that is extracted from a schema has one type for each type of the schema that is
described and that values can be given for, in the order of the schema
(`OperationCatalog.Metadata.types_of_extract`). It has the name of that type and is of the kind that
the fields of the schema take it to be of (`OperationCatalog.Metadata.find?_of_extract`), and the
table has no other names (`OperationCatalog.Metadata.mem_names_iff_of_extract`). A field
keeps the name in its type and takes it to be of the kind that it is of in the schema
(`OperationCatalog.Metadata.fieldOf_eq_ok`).
-/

namespace OperationCatalog.GraphQL

/-- The outermost exclusion of null says nothing about the name. -/
theorem TypeRef.baseName_nullable (ref : TypeRef) : ref.nullable.baseName = ref.baseName := by
  cases ref <;> rfl

end OperationCatalog.GraphQL

namespace OperationCatalog.Metadata

open GraphQL

variable {schema : Schema} {table : Table} {name owner : String}

/-! ### Types and fields -/

/-- **What the metadata of a type are**, for each form that a type can have. -/
theorem typeOf_eq_ok {t : SchemaType} {r : Option InputType} (h : typeOf schema t = .ok r) :
    (t.form = .scalar ∧ r = some ⟨t.name, t.description, .scalar⟩) ∨
    (∃ values, t.form = .enum values ∧ values ≠ [] ∧
      r = some ⟨t.name, t.description, .enum values⟩) ∨
    (∃ fields found, t.form = .input fields ∧
      List.Forall₂ (fun f field => fieldOf schema t.name f = .ok field) fields found ∧
      r = some ⟨t.name, t.description, .object found⟩) ∨
    (t.form = .output ∧ r = none) := by
  unfold typeOf at h
  rcases hform : t.form with _ | values | fields | _
  · rw [hform] at h
    exact Or.inl ⟨rfl, (Except.ok.inj h).symm⟩
  · rw [hform] at h
    dsimp only at h
    split at h
    · simp at h
    · rename_i hvalues
      exact Or.inr (Or.inl ⟨values, rfl, by simpa using hvalues, (Except.ok.inj h).symm⟩)
  · rw [hform] at h
    obtain ⟨found, hfound, h⟩ := bind_eq_ok_iff.mp h
    exact Or.inr (Or.inr (Or.inl
      ⟨fields, found, rfl, mapM_eq_ok_iff.mp hfound, (pure_eq_ok_iff.mp h).symm⟩))
  · rw [hform] at h
    exact Or.inr (Or.inr (Or.inr ⟨rfl, (Except.ok.inj h).symm⟩))

/-- **The metadata of a type** has its name and its description, and is of its kind. -/
theorem typeOf_eq_some {t : SchemaType} {u : InputType} (h : typeOf schema t = .ok (some u)) :
    u.name = t.name ∧ u.description = t.description ∧ u.kind = kindOfForm t.form ∧
      t.form ≠ .output := by
  obtain ⟨hform, hu⟩ | ⟨values, hform, -, hu⟩ | ⟨fields, found, hform, -, hu⟩ | ⟨-, hu⟩ :=
    typeOf_eq_ok h
  all_goals cases hu
  all_goals
    rw [hform]
    exact ⟨rfl, rfl, rfl, nofun⟩

/-- Only a type that is returned has no metadata. -/
theorem typeOf_eq_none {t : SchemaType} (h : typeOf schema t = .ok none) : t.form = .output := by
  obtain ⟨-, hr⟩ | ⟨values, -, -, hr⟩ | ⟨fields, found, -, -, hr⟩ | ⟨hform, -⟩ := typeOf_eq_ok h
  · cases hr
  · cases hr
  · cases hr
  · exact hform

/-- **An extracted enumeration** has values. -/
theorem values_of_typeOf {t : SchemaType} {u : InputType} (h : typeOf schema t = .ok (some u))
    {values : List String} (hshape : u.shape = .enum values) : values ≠ [] := by
  obtain ⟨-, hu⟩ | ⟨given, -, hne, hu⟩ | ⟨fields, found, -, -, hu⟩ | ⟨-, hu⟩ := typeOf_eq_ok h
  all_goals cases hu
  · cases hshape
  · cases hshape
    exact hne
  · cases hshape

/-- **The fields of an extracted object** are those of an input object of the schema. -/
theorem fields_of_typeOf {t : SchemaType} {u : InputType} (h : typeOf schema t = .ok (some u))
    {field : Field} (hfield : field ∈ u.fields) :
    ∃ fields, t.form = .input fields ∧ ∃ f ∈ fields, fieldOf schema t.name f = .ok field := by
  obtain ⟨-, hu⟩ | ⟨values, -, -, hu⟩ | ⟨fields, found, hform, hfound, hu⟩ | ⟨-, hu⟩ :=
    typeOf_eq_ok h
  all_goals cases hu
  · simp [InputType.fields] at hfield
  · simp [InputType.fields] at hfield
  · obtain ⟨f, hf, hof⟩ := exists_of_forall₂_of_mem hfound hfield
    exact ⟨fields, hform, f, hf, hof⟩

/-- What a type says: its name, and the kind of that name in the schema. -/
theorem shapeOfType_eq_ok {ref : TypeRef} {type : String} {shape : FieldShape}
    (h : shapeOfType schema ref = .ok (type, shape)) :
    type = ref.baseName ∧ (shape = .one (kindIn schema type) ∨
      shape = .list (some (kindIn schema type)) true) := by
  unfold shapeOfType at h
  split at h
  · rename_i item
    split at h
    · rename_i name hname
      obtain ⟨rfl, rfl⟩ := Prod.mk.inj (Except.ok.inj h)
      refine ⟨?_, Or.inr rfl⟩
      rw [TypeRef.baseName, ← TypeRef.baseName_nullable, hname, TypeRef.baseName]
    · simp at h
  · obtain ⟨rfl, rfl⟩ := Prod.mk.inj (Except.ok.inj h)
    exact ⟨rfl, Or.inl rfl⟩

/-- **The metadata of a field** say what its type says, and have the rules that its directives
are. -/
theorem fieldOf_eq_ok {f : InputField} {field : Field} (h : fieldOf schema owner f = .ok field) :
    field.type = f.type.baseName ∧ field.validation = rulesOf schema f.directives ∧
      (field.shape = .one (kindIn schema field.type) ∨
        field.shape = .list (some (kindIn schema field.type)) true) := by
  unfold fieldOf at h
  split at h
  · rename_i type shape hshape
    cases h
    obtain ⟨htype, hkind⟩ := shapeOfType_eq_ok hshape
    exact ⟨htype.trans (TypeRef.baseName_nullable _), rfl, hkind⟩
  · simp at h

/-- Whatever the table, a field takes its type to be of the kind that it is of in the schema. -/
theorem claimedKind?_of_fieldOf {f : InputField} {field : Field}
    (h : fieldOf schema owner f = .ok field) :
    table.claimedKind? field = some (kindIn schema field.type) := by
  obtain ⟨-, -, hshape | hshape⟩ := fieldOf_eq_ok h
  · rw [Table.claimedKind?, hshape]
  · rw [Table.claimedKind?, hshape]
    rfl

/-! ### Tables -/

theorem outcome_extract (schema : Schema) : (extract schema).outcome =
    (describedTypes schema).mapM (typeOf schema) >>= fun found =>
      pure (Table.ofTypes (found.filterMap id)) := by
  simp only [extract, Logged.outcome_bind_do, Logged.outcome_lift, Logged.outcome_record,
    Logged.outcome_pure_do, ok_bind]

theorem extract_eq_ok (h : (extract schema).outcome = .ok table) :
    ∃ found, List.Forall₂ (fun t r => typeOf schema t = .ok r) (describedTypes schema) found ∧
      Table.ofTypes (found.filterMap id) = table := by
  rw [outcome_extract] at h
  obtain ⟨found, hfound, h⟩ := bind_eq_ok_iff.mp h
  exact ⟨found, mapM_eq_ok_iff.mp hfound, pure_eq_ok_iff.mp h⟩

/-- The names of what is extracted stand in the order of the schema. -/
theorem names_sublist_of_forall₂ {types : List SchemaType} {found : List (Option InputType)}
    (h : List.Forall₂ (fun t r => typeOf schema t = .ok r) types found) :
    ((found.filterMap id).map (·.name)).Sublist (types.map (·.name)) := by
  induction h with
  | nil => simp
  | @cons t r types found ht _ ih =>
    rcases r with _ | u
    · exact ih.cons t.name
    · change (u.name :: (found.filterMap id).map (·.name)).Sublist (t.name :: types.map (·.name))
      rw [(typeOf_eq_some ht).1]
      exact ih.cons_cons t.name

/-- **The types of an extracted table** are those that the described types of the schema make. -/
theorem types_of_extract (h : (extract schema).outcome = .ok table) :
    ∃ found, List.Forall₂ (fun t r => typeOf schema t = .ok r) (describedTypes schema) found ∧
      table.types = found.filterMap id := by
  obtain ⟨found, hfound, rfl⟩ := extract_eq_ok h
  refine ⟨found, hfound, Table.types_ofTypes ?_⟩
  -- a schema has one type of each name, and what is extracted has no other names
  have hnames : (describedTypes schema).map (·.name) |>.Sublist (schema.types.map (·.name)) :=
    List.filter_sublist.map _
  exact ((names_sublist_of_forall₂ hfound).trans hnames).nodup schema.distinct

/-- An extracted type is that of a described type of the schema. -/
theorem exists_of_mem_extract (h : (extract schema).outcome = .ok table) {u : InputType}
    (hu : u ∈ table.types) : ∃ t ∈ describedTypes schema, typeOf schema t = .ok (some u) := by
  obtain ⟨found, hfound, htypes⟩ := types_of_extract h
  rw [htypes, List.mem_filterMap] at hu
  obtain ⟨r, hr, hru⟩ := hu
  obtain ⟨t, ht, hof⟩ := exists_of_forall₂_of_mem hfound hr
  exact ⟨t, ht, hof.trans (congrArg Except.ok hru)⟩

end OperationCatalog.Metadata

namespace OperationCatalog.GraphQL.Schema

/-- **A name that is described in a schema**: it is that of a type which values can be given for,
and it does not belong to introspection. -/
def Describes (schema : Schema) (name : String) : Prop :=
  isIntrospectionName name = false ∧ ∃ t, schema.type? name = some t ∧ t.form ≠ .output

end OperationCatalog.GraphQL.Schema

namespace OperationCatalog.Metadata

open GraphQL

variable {schema : Schema} {table : Table} {name : String}

/-- **A described name** is in the extracted table, as a type of the kind that the schema says it
is of. -/
theorem find?_of_extract (h : (extract schema).outcome = .ok table)
    (hname : schema.Describes name) :
    ∃ u, table.find? name = some u ∧ u.kind = kindIn schema name := by
  obtain ⟨hintrospection, t, ht, hform⟩ := hname
  obtain ⟨hmem, rfl⟩ := Schema.type?_eq_some_iff.mp ht
  obtain ⟨found, hfound, htypes⟩ := types_of_extract h
  have hdescribed : t ∈ describedTypes schema := List.mem_filter.mpr ⟨hmem, by simpa⟩
  obtain ⟨r, hr, hof⟩ := exists_of_forall₂_of_mem hfound.flip hdescribed
  rcases r with _ | u
  · exact absurd (typeOf_eq_none hof) hform
  · obtain ⟨huname, -, hkind, -⟩ := typeOf_eq_some hof
    have hu : u ∈ table.types := by
      rw [htypes, List.mem_filterMap]
      exact ⟨some u, hr, rfl⟩
    refine ⟨u, Table.find?_eq_some_iff.mpr ⟨hu, huname⟩, hkind.trans ?_⟩
    rw [kindIn, ht]

/-- **The names of an extracted table** are those that the schema describes. -/
theorem mem_names_iff_of_extract (h : (extract schema).outcome = .ok table) :
    name ∈ table.names ↔ schema.Describes name := by
  constructor
  · intro hname
    obtain ⟨u, hu, rfl⟩ := List.mem_map.mp hname
    obtain ⟨t, ht, hof⟩ := exists_of_mem_extract h hu
    obtain ⟨hmem, hintrospection⟩ := List.mem_filter.mp ht
    obtain ⟨hname, -, -, hform⟩ := typeOf_eq_some hof
    rw [hname]
    exact ⟨by simpa using hintrospection, t, Schema.type?_eq_some_iff.mpr ⟨hmem, rfl⟩, hform⟩
  · intro hname
    obtain ⟨u, hu, -⟩ := find?_of_extract h hname
    exact Table.mem_names_of_find? hu

end OperationCatalog.Metadata
