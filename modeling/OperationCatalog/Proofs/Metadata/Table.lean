import OperationCatalog.Metadata.Table
import OperationCatalog.Proofs.Named

/-!
# Entries of a table

A table holds one type of each name, so an entry is found exactly if it is there
(`OperationCatalog.Metadata.Table.find?_eq_some_iff`). It follows that the order of a table says
nothing about its entries, that putting a type in changes one entry only, and that a table of types
with distinct names holds just these types.
-/

namespace OperationCatalog.Metadata

/-- A type with a new name is put last. -/
theorem putType_of_not_mem (t : InputType) {types : List InputType}
    (h : t.name ∉ types.map (·.name)) : putType t types = types ++ [t] := by
  induction types with
  | nil => rfl
  | cons u rest ih =>
    simp only [List.map_cons, List.mem_cons, not_or] at h
    rw [putType, if_neg fun e => h.1 e.symm, ih h.2, List.cons_append]

namespace Table

variable {table other : Table} {name : String} {t : InputType}

/-- A type is found under its own name. -/
theorem name_of_find? (h : table.find? name = some t) : t.name = name := by
  simpa using List.find?_some h

theorem mem_names_of_find? (h : table.find? name = some t) : name ∈ table.names := by
  rw [← name_of_find? h]
  exact List.mem_map_of_mem (List.mem_of_find?_eq_some h)

/-- A type is found under its name exactly if it is in the table. -/
theorem find?_eq_some_iff : table.find? name = some t ↔ t ∈ table.types ∧ t.name = name :=
  find?_named_eq_some_iff table.distinct

/-- **The order of a table** says nothing about its entries. -/
theorem find?_of_perm (h : other.types.Perm table.types) (name : String) :
    other.find? name = table.find? name := by
  refine Option.ext fun t => ?_
  rw [find?_eq_some_iff, find?_eq_some_iff, h.mem_iff]

/-- **Putting a type in** changes no other entry. -/
theorem find?_put_of_ne (h : t.name ≠ name) :
    (table.put t).find? name = table.find? name := by
  have hput : ∀ types : List InputType,
      (putType t types).find? (·.name == name) = types.find? (·.name == name) := by
    intro types
    induction types with
    | nil => simp [putType, h]
    | cons u rest ih =>
      by_cases hu : u.name = t.name
      · simp [putType, hu, h]
      · rw [putType, if_neg hu, List.find?_cons, List.find?_cons, ih]
  exact hput table.types

theorem find?_of_mem_names (h : name ∈ table.names) : ∃ t, table.find? name = some t := by
  obtain ⟨t, ht, rfl⟩ := List.mem_map.mp h
  exact ⟨t, find?_eq_some_iff.mpr ⟨ht, rfl⟩⟩

theorem not_mem_names_of_find? (h : table.find? name = none) : name ∉ table.names := fun hmem => by
  obtain ⟨t, ht⟩ := find?_of_mem_names hmem
  simp [h] at ht

/-- **The names after a type was put in** are those before, and its own. -/
theorem mem_names_put_iff : name ∈ (table.put t).names ↔ name ∈ table.names ∨ name = t.name := by
  change name ∈ (putType t table.types).map (·.name) ↔
    name ∈ table.types.map (·.name) ∨ name = t.name
  by_cases ht : t.name ∈ table.types.map (·.name)
  · rw [map_name_putType_of_mem t ht]
    refine ⟨Or.inl, fun h => h.elim id ?_⟩
    rintro rfl
    exact ht
  · rw [map_name_putType_of_not_mem t ht, List.mem_append, List.mem_singleton]

theorem mem_names_putAll_iff {types : List InputType} :
    name ∈ (table.putAll types).names ↔ name ∈ table.names ∨ name ∈ types.map (·.name) := by
  unfold putAll
  induction types generalizing table with
  | nil => simp
  | cons t rest ih =>
    rw [List.foldl_cons, ih, mem_names_put_iff, List.map_cons, List.mem_cons, or_assoc]

/-- **The names of merged sources** are those of each of them. -/
theorem mem_names_merge_iff {sources : List Table} :
    name ∈ (merge sources).names ↔ ∃ source ∈ sources, name ∈ source.names := by
  have hfold : ∀ base : Table,
      name ∈ (sources.foldl (fun t s => t.putAll s.types) base).names ↔
        name ∈ base.names ∨ ∃ source ∈ sources, name ∈ source.names := by
    induction sources with
    | nil => simp
    | cons source rest ih =>
      intro base
      rw [List.foldl_cons, ih, mem_names_putAll_iff, or_assoc, List.exists_mem_cons_iff]
      rfl
  refine (hfold empty).trans (or_iff_right ?_)
  simp [empty, names]

/-- Types with new names are put after the others, in their order. -/
theorem types_putAll {types : List InputType}
    (h : ((table.types ++ types).map (·.name)).Nodup) :
    (table.putAll types).types = table.types ++ types := by
  unfold putAll
  induction types generalizing table with
  | nil => simp
  | cons t rest ih =>
    have hput : (table.put t).types = table.types ++ [t] := by
      refine putType_of_not_mem t fun hmem => ?_
      rw [List.map_append, List.map_cons] at h
      exact (List.nodup_append.mp h).2.2 _ hmem _ List.mem_cons_self rfl
    rw [List.foldl_cons, ih (by simpa [hput] using h), hput, List.append_assoc,
      List.singleton_append]

/-- **The table of types with distinct names** holds these types. -/
theorem types_ofTypes {types : List InputType} (h : (types.map (·.name)).Nodup) :
    (ofTypes types).types = types :=
  @types_putAll empty types h

/-- Two tables with the same types are the same. -/
theorem eq_of_types (h : other.types = table.types) : other = table := by
  cases other
  cases table
  cases h
  rfl

/-- A source alone is merged to itself. -/
theorem merge_singleton (table : Table) : merge [table] = table :=
  eq_of_types (types_ofTypes table.distinct)

end Table

end OperationCatalog.Metadata
