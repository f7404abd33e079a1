import OperationCatalog.Proofs.GraphQL.Schema.Build
import OperationCatalog.Proofs.Json.Writing
import OperationCatalog.Proofs.Metadata.Extraction
import OperationCatalog.Proofs.Metadata.Reach

/-!
# Extracted tables are closed

In the table that is extracted from a closed schema, every type is without fault
(`OperationCatalog.Metadata.faultless_of_extract`): each field takes its type to be of the kind that
it is of in the schema, and the table has that type under the same kind. Two predicates have to fit
together there: what is extracted is decided by the form of a type and by its name, and the kind of
a field by the form alone. So the fields must not use the types of introspection.

What is reached from a type of such a table is in the table again, and no visit meets a fault
(`OperationCatalog.Metadata.exists_resolveAll_of_extract`).

The rules of an extracted table have trees of plain scalars
(`OperationCatalog.Metadata.isTree_of_extract`), if the values of the schema are plain.
-/

namespace OperationCatalog.GraphQL

/-- **The input fields of a schema do not use the types of introspection.** -/
def Schema.AvoidsIntrospection (schema : Schema) : Prop :=
  ∀ t ∈ schema.types, ∀ f ∈ t.form.fields, isIntrospectionName f.type.baseName = false

instance (schema : Schema) : Decidable schema.AvoidsIntrospection :=
  inferInstanceAs (Decidable (∀ t ∈ schema.types, _))

end OperationCatalog.GraphQL

namespace OperationCatalog.Metadata

open GraphQL

variable {schema : Schema} {table : Table} {name : String}

/-! ### Types without fault -/

/-- A field of an extracted type is made by one of the schema. -/
theorem exists_field_of_extract (h : (extract schema).outcome = .ok table) {t : InputType}
    (ht : t ∈ table.types) {field : Field} (hfield : field ∈ t.fields) :
    ∃ owner f, schema.HasField f ∧ fieldOf schema owner f = .ok field := by
  obtain ⟨u, hu, hof⟩ := exists_of_mem_extract h ht
  obtain ⟨fields, hform, f, hf, hfield⟩ := fields_of_typeOf hof hfield
  exact ⟨u.name, f, ⟨u, List.mem_of_mem_filter hu, by rwa [hform]⟩, hfield⟩

/-- **Every extracted type is without fault.** -/
theorem faultless_of_extract (hclosed : schema.Closed) (havoids : schema.AvoidsIntrospection)
    (h : (extract schema).outcome = .ok table) (hname : name ∈ table.names) :
    table.Faultless name := by
  obtain ⟨t, ht⟩ := Table.find?_of_mem_names hname
  refine ⟨t, ht, fun field hfield => ?_⟩
  obtain ⟨owner, f, hf, hof⟩ :=
    exists_field_of_extract h (Table.find?_eq_some_iff.mp ht).1 hfield
  have hclaimed := @claimedKind?_of_fieldOf _ table _ _ _ hof
  by_cases hscalar : kindIn schema field.type = .scalar
  · exact ⟨none, Closure.needed_eq_none_iff.mpr (hscalar ▸ hclaimed)⟩
  · -- the type of the field is described in the schema, so the table has it
    obtain ⟨u, hu, hform⟩ := hclosed f hf
    obtain ⟨owner', howner, hmem⟩ := hf
    obtain ⟨v, hv, hkind⟩ := find?_of_extract h ⟨havoids owner' howner f hmem, u, hu, hform⟩
    rw [← (fieldOf_eq_ok hof).1] at hv hkind
    exact ⟨some field.type, Closure.needed_eq_some_iff.mpr
      ⟨rfl, _, hclaimed, hscalar, v, hv, hkind⟩⟩

/-- **In an extracted table, no visit meets a fault.** -/
theorem exists_resolveAll_of_extract (hclosed : schema.Closed)
    (havoids : schema.AvoidsIntrospection) (h : (extract schema).outcome = .ok table) (c : Closure)
    {names : List String} (hnames : ∀ name ∈ names, name ∈ table.names) :
    ∃ c', c.resolveAll table names = (c', none) :=
  Closure.exists_resolveAll fun name hname _ hreach =>
    faultless_of_extract hclosed havoids h
      (Table.mem_names_of_reaches (fun _ => faultless_of_extract hclosed havoids h)
        (hnames name hname) hreach)

/-! ### Rules -/

/-- **A rule of trees**: its opaque values are trees whose scalars have a property. -/
structure Rule.IsTree (P : Scalar → Prop) (r : Rule) : Prop where
  /-- Its arguments are. -/
  constraints : ∀ gs ∈ r.constraints, ∀ g ∈ gs, g.IsTree P
  /-- Its context is. -/
  context : ∀ g ∈ r.context, g.IsTree P
  /-- Its settings are. -/
  options : ∀ g ∈ r.options, g.IsTree P

theorem Rule.isTree_iff {P : Scalar → Prop} {r : Rule} :
    r.IsTree P ↔ (∀ gs ∈ r.constraints, ∀ g ∈ gs, g.IsTree P) ∧ (∀ g ∈ r.context, g.IsTree P) ∧
      ∀ g ∈ r.options, g.IsTree P :=
  ⟨fun h => ⟨h.constraints, h.context, h.options⟩,
    fun ⟨hconstraints, hcontext, hoptions⟩ => ⟨hconstraints, hcontext, hoptions⟩⟩

/-- **A table of trees**: the opaque values in its rules are. -/
def Table.IsTree (P : Scalar → Prop) (table : Table) : Prop :=
  ∀ t ∈ table.types, ∀ field ∈ t.fields, ∀ rules ∈ field.validation, ∀ r ∈ rules, r.IsTree P

/-- **An argument of a rule** is given, or it is what a directive of the schema says where none is
given, or it is null. -/
theorem mem_ruleArguments {use : Directive} {v : Value} (hv : v ∈ ruleArguments schema use) :
    (∃ argument ∈ use.arguments, argument.2.value = v) ∨
      (∃ d ∈ schema.directives, ∃ argument ∈ d.arguments, argument.2 = some v) ∨ v = .null := by
  have hgiven : ∀ given ∈ givenArguments use, ∃ argument ∈ use.arguments,
      argument.2.value = given.2 := fun given hgiven => by
    obtain ⟨argument, hargument, rfl⟩ := List.mem_map.mp (mem_of_mem_byName hgiven)
    exact ⟨argument, hargument, rfl⟩
  unfold ruleArguments at hv
  dsimp only at hv
  split at hv
  · obtain ⟨given, hmem, rfl⟩ := List.mem_map.mp hv
    exact Or.inl (hgiven given hmem)
  · rename_i d hd
    obtain ⟨⟨name, default⟩, hargument, rfl⟩ := List.mem_map.mp hv
    rcases hlookup : (givenArguments use).lookup name with _ | given
    · cases default with
      | none => exact Or.inr (Or.inr rfl)
      | some v => exact Or.inr (Or.inl ⟨d, List.mem_of_find?_eq_some hd, _, hargument, rfl⟩)
    · obtain ⟨before, after, hsplit, -⟩ := List.lookup_eq_some_iff.mp hlookup
      exact Or.inl (hgiven (name, given) (by simp [hsplit]))

theorem tree_of_mem_ruleArguments (hplain : schema.Plain) {use : Directive} (huse : use.Lexical)
    {v : Value} (hv : v ∈ ruleArguments schema use) : v.Tree Scalar.Plain := by
  rcases mem_ruleArguments hv with ⟨argument, hargument, rfl⟩ | ⟨d, hd, argument, hargument, h⟩ |
    rfl
  · exact (huse argument hargument).plain_value
  · exact hplain.defaults d hd argument hargument v h
  · exact .scalar trivial

theorem isTree_ruleOf (hplain : schema.Plain) {use : Directive} (huse : use.Lexical) :
    (ruleOf schema use).IsTree Scalar.Plain := by
  refine ⟨fun gs hgs g hg => ?_, by simp [ruleOf], by simp [ruleOf]⟩
  unfold ruleOf at hgs
  dsimp only at hgs
  split at hgs
  · simp at hgs
  · obtain rfl := Option.mem_some.mp hgs
    obtain ⟨v, hv, rfl⟩ := List.mem_map.mp hg
    exact ValueGraph.isTree_ofTree (tree_of_mem_ruleArguments hplain huse hv)

/-- **A rule of an extracted table** is a directive on a field of the schema. -/
theorem exists_use_of_extract (h : (extract schema).outcome = .ok table) {t : InputType}
    (ht : t ∈ table.types) {field : Field} (hfield : field ∈ t.fields) {rules : List Rule}
    (hrules : rules ∈ field.validation) {r : Rule} (hr : r ∈ rules) :
    ∃ f, schema.HasField f ∧ ∃ use ∈ f.directives, ruleOf schema use = r := by
  obtain ⟨owner, f, hf, hof⟩ := exists_field_of_extract h ht hfield
  rw [(fieldOf_eq_ok hof).2.1] at hrules
  unfold rulesOf at hrules
  dsimp only at hrules
  split at hrules
  · simp at hrules
  · obtain rfl := Option.mem_some.mp hrules
    obtain ⟨use, huse, hmade⟩ := List.mem_map.mp hr
    exact ⟨f, hf, use, List.mem_of_mem_filter huse, hmade⟩

/-- **The rules of an extracted table** have trees of plain scalars. -/
theorem isTree_of_extract (hplain : schema.Plain) (h : (extract schema).outcome = .ok table) :
    table.IsTree Scalar.Plain := by
  intro t ht field hfield rules hrules r hr
  obtain ⟨f, hf, use, huse, rfl⟩ := exists_use_of_extract h ht hfield hrules hr
  exact isTree_ruleOf hplain (hplain.directives f hf use huse)

end OperationCatalog.Metadata
