import OperationCatalog.Metadata.Basic

/-!
# The table of input types

All input types of one run, by name. A type is put under its own name, so a table cannot
hold a type under another name than its own, and it holds at most one type of each name:
that is the proof `distinct` that every table carries.

Putting a type replaces the one with its name, in its place; a new name comes last. Merging
sources puts their types one after the other. So a name's entry is that of the last source
that has it, and the names stand in the order in which they first occurred.
-/

namespace OperationCatalog.Metadata

/-- The types after one was put in. -/
def putType (t : InputType) : List InputType → List InputType
  | [] => [t]
  | u :: rest => if u.name = t.name then t :: rest else u :: putType t rest

/-- Putting a type whose name is there changes no name. -/
theorem map_name_putType_of_mem (t : InputType) {types : List InputType}
    (h : t.name ∈ types.map (·.name)) : (putType t types).map (·.name) = types.map (·.name) := by
  induction types with
  | nil => simp at h
  | cons u rest ih =>
    by_cases hu : u.name = t.name
    · simp [putType, hu]
    · have hr : t.name ∈ rest.map (·.name) := by
        simp only [List.map_cons, List.mem_cons] at h
        exact h.resolve_left fun e => hu e.symm
      simp [putType, hu, ih hr]

/-- Putting a type with a new name adds the name at the end. -/
theorem map_name_putType_of_not_mem (t : InputType) {types : List InputType}
    (h : t.name ∉ types.map (·.name)) :
    (putType t types).map (·.name) = types.map (·.name) ++ [t.name] := by
  induction types with
  | nil => rfl
  | cons u rest ih =>
    simp only [List.map_cons, List.mem_cons, not_or] at h
    have hu : ¬u.name = t.name := fun e => h.1 e.symm
    simp [putType, hu, ih h.2]

/-- Putting a type keeps the names distinct. -/
theorem nodup_putType (t : InputType) {types : List InputType}
    (h : (types.map (·.name)).Nodup) : ((putType t types).map (·.name)).Nodup := by
  by_cases ht : t.name ∈ types.map (·.name)
  · rwa [map_name_putType_of_mem t ht]
  · rw [map_name_putType_of_not_mem t ht, List.nodup_append]
    exact ⟨h, by simp, fun a ha b hb e => ht (by simp_all)⟩

/-- **The types of a run**, each name once. -/
structure Table where
  /-- The types, in the order of their names' first occurrence. -/
  types : List InputType
  /-- No name occurs twice. -/
  distinct : (types.map (·.name)).Nodup

namespace Table

/-- The table without types. -/
def empty : Table := ⟨[], by simp⟩

/-- Put a type in. -/
def put (table : Table) (t : InputType) : Table :=
  ⟨putType t table.types, nodup_putType t table.distinct⟩

/-- Put several types in, one after the other. -/
def putAll (table : Table) (types : List InputType) : Table := types.foldl put table

/-- The table of some types; of two with one name the later one. -/
def ofTypes (types : List InputType) : Table := empty.putAll types

/-- **The table of several sources**, later ones over earlier ones. -/
def merge (sources : List Table) : Table := sources.foldl (fun t s => t.putAll s.types) empty

/-- The names, in order. -/
def names (table : Table) : List String := table.types.map (·.name)

/-- The type with a name. -/
def find? (table : Table) (name : String) : Option InputType :=
  table.types.find? (·.name == name)

/-- Whether a name is there. -/
def contains (table : Table) (name : String) : Bool := (table.find? name).isSome

/-- The number of types. -/
def size (table : Table) : Nat := table.types.length

/-- The number of types of a kind. -/
def count (table : Table) (kind : TypeKind) : Nat := table.types.countP (·.kind == kind)

/-- **The kind of the items of a list field**: the one it states, or that of its type. `none` when
it states none and the type is missing. -/
def itemKind? (table : Table) (type : String) (stated : Option TypeKind) : Option TypeKind :=
  match stated with
  | some kind => some kind
  | none => (table.find? type).map (·.kind)

/-- The kind that a field takes its type to be of. -/
def claimedKind? (table : Table) (field : Field) : Option TypeKind :=
  match field.shape with
  | .one kind => some kind
  | .list stated _ => table.itemKind? field.type stated

end Table

end OperationCatalog.Metadata
