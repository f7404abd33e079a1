import OperationCatalog.Proofs.Catalog.Build
import OperationCatalog.Proofs.GraphQL.Parser
import OperationCatalog.Proofs.Metadata.Extraction

/-!
# Two classifications of types

A type is classified in two places. The metadata of a schema describe the types of input fields, and
there the kind of a name is that of the type in the schema; a catalog describes the types of
variables, and there the kind of a name is that of its entry in a table. Each takes exclusions of
null and lists off by itself.

For the table that is extracted from the schema the two agree
(`OperationCatalog.Catalog.classifications_agree`): they refuse the same types, namely lists of
lists (`OperationCatalog.GraphQL.TypeRef.IsNested`), and of all others they say the same.
-/

namespace OperationCatalog.GraphQL.TypeRef

/-- **A list of lists**, whether or not null is excluded from it and from its items. -/
def IsNested (ref : TypeRef) : Prop :=
  ∃ item inner, ref.nullable = .list item ∧ item.nullable = .list inner

variable {ref : TypeRef}

/-- Without the outermost exclusion of null there is none. -/
theorem isNonNull_nullable (h : ref.isExpression = true) : ref.nullable.isNonNull = false := by
  cases ref with
  | named name => rfl
  | list item => rfl
  | nonNull inner =>
    simp only [isExpression, Bool.and_eq_true, Bool.not_eq_true'] at h
    exact h.1

theorem isExpression_nullable (h : ref.isExpression = true) : ref.nullable.isExpression = true := by
  cases ref with
  | named name => exact h
  | list item => exact h
  | nonNull inner =>
    simp only [isExpression, Bool.and_eq_true] at h
    exact h.2

/-- **What a type expression can be**: a name, a list of items with a name, or a list of lists. -/
theorem nullable_cases (h : ref.isExpression = true) :
    ref.nullable = .named ref.baseName ∨
      (∃ item, ref.nullable = .list item ∧ item.nullable = .named ref.baseName) ∨
      ∃ item inner, ref.nullable = .list item ∧ item.nullable = .list inner := by
  have hnull := isNonNull_nullable h
  have hexpression := isExpression_nullable h
  rw [← baseName_nullable ref]
  rcases hnullable : ref.nullable with name | item | inner
  · exact Or.inl rfl
  · rw [hnullable] at hexpression
    have hitem : item.nullable.isNonNull = false := isNonNull_nullable hexpression
    rw [baseName, ← baseName_nullable item]
    rcases hinner : item.nullable with name | inner | inner
    · exact Or.inr (Or.inl ⟨item, rfl, hinner⟩)
    · exact Or.inr (Or.inr ⟨item, inner, rfl, hinner⟩)
    · simp [hinner, isNonNull] at hitem
  · simp [hnullable, isNonNull] at hnull

/-- A type expression is described by a name unless it is a list of lists. -/
theorem isNested_of_describedName? (h : ref.isExpression = true)
    (hnone : ref.describedName? = none) : ref.IsNested := by
  rcases nullable_cases h with hname | ⟨item, hlist, hname⟩ | hnested
  · simp [describedName?, hname] at hnone
  · simp [describedName?, hlist, hname] at hnone
  · exact hnested

end OperationCatalog.GraphQL.TypeRef

namespace OperationCatalog.Catalog

open GraphQL Metadata

variable {schema : Schema} {table : Table}

/-- **The two classifications of types agree.** Let a table be extracted from a schema, and let a
variable and an input field be of the same type, made of a name that the schema describes. If the
type is a list of lists, both are refused for their items. If it is not, both are described, and
they agree on whether a value is required, on the name of the type, and on the kind: the same kind
of one value, or a list with the same kind of items. -/
theorem classifications_agree (hextract : (extract schema).outcome = .ok table) {ref : TypeRef}
    (hexpression : ref.isExpression = true) (hname : schema.Describes ref.baseName)
    (v : Variable) (hv : v.type = ref) (owner : String) (f : InputField) (hf : f.type = ref) :
    (ref.IsNested → ∃ item, describeVariable table v = .error (.unsupportedItem item) ∧
      fieldOf schema owner f = .error (.unsupportedItem item owner f.name)) ∧
    (¬ref.IsNested → ∃ p m, describeVariable table v = .ok p ∧ fieldOf schema owner f = .ok m ∧
      p.required = m.required ∧ p.type = m.type ∧
      ((∃ kind, p.shape = .one kind ∧ m.shape = .one kind) ∨
        ∃ kind itemsRequired, p.shape = .list kind itemsRequired ∧
          m.shape = .list (some kind) true)) := by
  subst hv
  obtain ⟨t, ht, hkind⟩ := find?_of_extract hextract hname
  have hlookup : kindOf table v.type.baseName = .ok (kindIn schema v.type.baseName) :=
    kindOf_eq_ok_iff.mpr ⟨t, ht, hkind⟩
  unfold describeVariable fieldOf
  rw [hf]
  rcases TypeRef.nullable_cases hexpression with hone | ⟨item, hlist, hitem⟩ |
    ⟨item, inner, hlist, hitem⟩
  · refine ⟨fun ⟨item, inner, hlist, _⟩ => by simp [hone] at hlist, fun _ => ?_⟩
    simp only [hone, describeType, shapeOfType, hlookup, ok_bind, TypeRef.baseName]
    exact ⟨_, _, rfl, rfl, rfl, rfl, Or.inl ⟨_, rfl, rfl⟩⟩
  · refine ⟨fun ⟨item', inner, hlist', hitem'⟩ => ?_, fun _ => ?_⟩
    · obtain rfl := TypeRef.list.inj (hlist.symm.trans hlist')
      simp [hitem] at hitem'
    · simp only [hlist, hitem, describeType, shapeOfType, hlookup, ok_bind]
      exact ⟨_, _, rfl, rfl, rfl, rfl, Or.inr ⟨_, _, rfl, rfl⟩⟩
  · refine ⟨fun _ => ⟨.list inner, ?_, ?_⟩, fun hnot => absurd ⟨item, inner, hlist, hitem⟩ hnot⟩
    · simp only [hlist, hitem, describeType, error_bind]
    · simp only [hlist, hitem, shapeOfType]

/-- A scalar, an enumeration, an object with a list of the enumeration, and a type of
introspection. -/
def ordersSchema : Schema where
  types := [⟨"Int", none, .scalar⟩, ⟨"Direction", none, .enum ["UP", "DOWN"]⟩,
    ⟨"Order", none, .input
      [⟨"by", .nonNull (.list (.nonNull (.named "Direction"))), none, []⟩]⟩,
    ⟨"__Type", none, .output⟩]
  directives := []
  distinct := by decide

theorem extract_ordersSchema : ∃ table, (extract ordersSchema).outcome = .ok table := by
  have hdescribed : describedTypes ordersSchema = ordersSchema.types.take 3 := by
    simp [describedTypes, ordersSchema, isIntrospectionName]
  unfold extract
  rw [hdescribed]
  exact ⟨_, rfl⟩

theorem classifications_agree_ordersSchema :
    ∃ table, (extract ordersSchema).outcome = .ok table ∧ ordersSchema.Describes "Direction" ∧
      (∃ p m, describeVariable table
          ⟨"by", .nonNull (.list (.nonNull (.named "Direction"))), none, []⟩ = .ok p ∧
        fieldOf ordersSchema "Order"
          ⟨"by", .nonNull (.list (.nonNull (.named "Direction"))), none, []⟩ = .ok m ∧
        p.required = m.required ∧ p.type = m.type ∧ m.shape = .list (some .enum) true) ∧
      ∃ item, describeVariable table
          ⟨"by", .list (.nonNull (.list (.named "Direction"))), none, []⟩ =
            .error (.unsupportedItem item) ∧
        fieldOf ordersSchema "Order"
          ⟨"by", .list (.nonNull (.list (.named "Direction"))), none, []⟩ =
            .error (.unsupportedItem item "Order" "by") := by
  obtain ⟨table, htable⟩ := extract_ordersSchema
  have hname : ordersSchema.Describes "Direction" := by
    refine ⟨by simp [isIntrospectionName], _, rfl, nofun⟩
  refine ⟨table, htable, hname, ?_, ?_⟩
  · have hflat : ¬(TypeRef.nonNull (.list (.nonNull (.named "Direction")))).IsNested :=
      fun ⟨_, _, hlist, hitem⟩ => by
        obtain rfl := TypeRef.list.inj hlist
        simp [TypeRef.nullable] at hitem
    have hagree := @classifications_agree _ _ htable
      (.nonNull (.list (.nonNull (.named "Direction")))) rfl hname
    obtain ⟨p, m, hp, hm, hrequired, htype, -⟩ :=
      (hagree ⟨"by", _, none, []⟩ rfl "Order" ⟨"by", _, none, []⟩ rfl).2 hflat
    refine ⟨p, m, hp, hm, hrequired, htype, ?_⟩
    obtain rfl := Except.ok.inj hm
    rfl
  · have hagree := @classifications_agree _ _ htable
      (.list (.nonNull (.list (.named "Direction")))) rfl hname
    exact (hagree _ rfl "Order" _ rfl).1 ⟨_, _, rfl, rfl⟩

end OperationCatalog.Catalog
