import OperationCatalog.Proofs.Metadata.Agreement
import OperationCatalog.Proofs.TypeScript.Generate

/-!
# What a generated module depends on

A table may hold many more types than the operations of a run refer to. The others do not matter:
what is generated, or why nothing is, depends on the entries of the names that are **concerned**
(`OperationCatalog.TypeScript.Concerned`) – those that variables are described by, and with an
object those of its fields that are not said to be scalars.

All three steps of generating look names up by themselves: the catalog for the kinds of parameters,
the closure for the types to be declared, and the module for the kinds of list items that are left
to their type. Each of these lookups is shown to be of a concerned name, so two tables that agree on
those give the same at each step (`OperationCatalog.TypeScript.generate_congr`).
-/

namespace OperationCatalog.TypeScript

open Metadata

variable {config : Config} {table other : Table} {documents : List GraphQL.Document}
  {entries : List Catalog.Entry}

/-- **The names that matter** to what is generated for some documents from a table. -/
inductive Concerned (table : Table) (documents : List GraphQL.Document) : String → Prop where
  /-- A variable, or the items that it is a list of, is described by the name. -/
  | described {name} : Catalog.Describes documents name → Concerned table documents name
  /-- A field of an object whose name matters is of the type, and is not said to be a scalar. -/
  | contained {owner t field} : Concerned table documents owner → table.find? owner = some t →
      field ∈ t.fields → field.shape.looksUp = true → Concerned table documents field.type

theorem closedUnderFields_concerned : table.ClosedUnderFields (Concerned table documents) :=
  fun _ _ howner ht _ hfield hlooks => .contained howner ht hfield hlooks

/-! ### The steps of generating -/

/-- Everything that the entries of a catalog refer to is collected alike. -/
theorem closureOf_congr {names : String → Prop} (hclosed : table.ClosedUnderFields names)
    (hagree : table.AgreeOn names other)
    (hentries : ∀ name ∈ entries.flatMap Catalog.Entry.types, names name) :
    closureOf other entries = closureOf table entries := by
  unfold closureOf
  rw [Closure.resolveAll_congr hclosed hagree hentries]

theorem fieldOf_congr {field : Field}
    (h : field.shape.looksUp = true → other.find? field.type = table.find? field.type) :
    fieldOf other field = fieldOf table field := by
  have hshape : shapeOf other field = shapeOf table field := by
    unfold shapeOf
    rcases hfield : field.shape with kind | ⟨_ | kind, allowsEmpty⟩
    · rfl
    · rw [hfield] at h
      simp only [Table.itemKind?, h rfl]
    · rfl
  unfold fieldOf
  rw [hshape]

/-- A type of a closed set is declared alike. -/
theorem declarationOf_congr {names : String → Prop} (hclosed : table.ClosedUnderFields names)
    (hagree : table.AgreeOn names other) {t : InputType} (ht : table.find? t.name = some t)
    (hname : names t.name) : declarationOf other t = declarationOf table t := by
  have hfields : t.fields.mapM (fieldOf other) = t.fields.mapM (fieldOf table) :=
    mapM_congr fun field hfield => fieldOf_congr fun hlooks =>
      hagree _ (hclosed t.name t hname ht field hfield hlooks)
  unfold declarationOf
  rw [hfields]

/-- **The module of some entries** is the same in tables that agree on a closed set of names with
all that the entries refer to. -/
theorem moduleOf_congr {names : String → Prop} (hclosed : table.ClosedUnderFields names)
    (hagree : table.AgreeOn names other)
    (hentries : ∀ name ∈ entries.flatMap Catalog.Entry.types, names name) :
    (moduleOf config other entries).outcome = (moduleOf config table entries).outcome := by
  simp only [moduleOf, Logged.outcome_bind_do, closureOf_congr hclosed hagree hentries]
  rcases hclosure : (closureOf table entries).outcome with fault | closure
  · rw [error_bind, error_bind]
  · -- what is declared is registered, and so it is in the set
    have hresolved := closureOf_eq_ok_iff.mp hclosure
    have hregistered := Closure.registered_of_resolveAll (c := .empty) hclosed
      (by simp [Closure.empty]) hentries
    rw [hresolved] at hregistered
    have hdeclarations : closure.declared.mapM (declarationOf other) =
        closure.declared.mapM (declarationOf table) := mapM_congr fun t ht => by
      obtain ⟨hreg, hfind, -⟩ := (settled_of_closureOf hclosure).declared t ht
      exact declarationOf_congr hclosed hagree hfind (hregistered _ hreg)
    simp only [ok_bind, hdeclarations]

/-- **What is generated is the same** in two tables that agree on the names that matter in one of
them. -/
theorem generate_congr (hagree : table.AgreeOn (Concerned table documents) other) :
    (generate config other documents).outcome = (generate config table documents).outcome := by
  have hcatalog : Catalog.build other config.documentSuffix documents =
      Catalog.build table config.documentSuffix documents :=
    Catalog.build_congr fun name hname => hagree name (.described hname)
  simp only [generate, Logged.outcome_bind_do, Logged.outcome_record, Logged.outcome_mapError,
    ok_bind, hcatalog]
  rcases hbuild : (Catalog.build table config.documentSuffix documents).outcome with
    fault | entries
  · simp only [Except.mapError, error_bind]
  · have hentries : ∀ name ∈ entries.flatMap Catalog.Entry.types,
        Concerned table documents name := fun name hname => by
      obtain ⟨e, he, hname⟩ := List.mem_flatMap.mp hname
      obtain ⟨p, hp, rfl⟩ := List.mem_map.mp hname
      exact .described (Catalog.describes_of_build hbuild he hp)
    simp only [Except.mapError, ok_bind, moduleOf_congr closedUnderFields_concerned hagree hentries]

/-! ### The rest of the table -/

/-- **What is generated depends on the names that matter alone.** Let two tables have the same entry
of every name that matters in the first, or none in either; then both give the same module, and with
it the same text, or fail with the same fault. So neither the order of a table matters, nor a type
that is added or changed under a name that does not. -/
theorem generate_depends_on_concerned (config : Config) (table : Table)
    (documents : List GraphQL.Document) :
    (∀ other, (∀ name, Concerned table documents name → other.find? name = table.find? name) →
      (generate config other documents).outcome = (generate config table documents).outcome) ∧
    (∀ other : Table, other.types.Perm table.types →
      (generate config other documents).outcome = (generate config table documents).outcome) ∧
    ∀ t : InputType, ¬Concerned table documents t.name →
      (generate config (table.put t) documents).outcome =
        (generate config table documents).outcome := by
  refine ⟨fun other => generate_congr, fun other h => ?_, fun t ht => ?_⟩
  · exact generate_congr fun name _ => Table.find?_of_perm h name
  · refine generate_congr fun name hname => Table.find?_put_of_ne ?_
    rintro rfl
    exact ht hname

/-- An operation that takes an object, which refers to itself, to an enumeration and to a scalar. -/
def sortDocument : GraphQL.Document :=
  [.operation ⟨.query, some "Sort", [⟨"order", .nonNull (.named "Order"), none, []⟩], [], []⟩]

/-- The types of `Closure.loopedTable` the other way round, after a type that is new and with an
enumeration in the place of the scalar. -/
def rearrangedTable : Table :=
  .ofTypes (⟨"Extra", none, .object []⟩ :: Closure.loopedTable.types.reverse ++
    [⟨"Int", none, .enum ["ONE"]⟩])

theorem mem_of_concerned_sortDocument {name : String}
    (h : Concerned Closure.loopedTable [sortDocument] name) :
    name ∈ ["Order", "Filter", "Direction"] := by
  induction h with
  | described hname =>
    obtain ⟨d, hd, o, ho, v, hv, hname⟩ := hname
    obtain rfl := List.mem_singleton.mp hd
    obtain rfl := List.mem_singleton.mp ho
    obtain rfl := List.mem_singleton.mp hv
    obtain rfl := Option.some.inj hname
    decide
  | @contained owner t field _ ht hfield hlooks ih =>
    -- the fields of the two objects are gone through; the enumeration has none
    simp only [List.mem_cons, List.not_mem_nil, or_false] at ih
    rcases ih with rfl | rfl | rfl
    all_goals
      obtain rfl := Option.some.inj ht
      revert hlooks
      revert hfield
      revert field
      simp [InputType.fields, FieldShape.looksUp]

theorem generate_depends_on_concerned_sortDocument :
    (∀ name, Concerned Closure.loopedTable [sortDocument] name →
      rearrangedTable.find? name = Closure.loopedTable.find? name) ∧
    ¬Concerned Closure.loopedTable [sortDocument] "Int" ∧
    (generate {} rearrangedTable [sortDocument]).outcome =
      (generate {} Closure.loopedTable [sortDocument]).outcome ∧
    ∃ m, (generate {} rearrangedTable [sortDocument]).outcome = .ok m ∧
      m.declarations.map (·.name) = ["Direction", "Filter", "Order"] := by
  have hagree : ∀ name, Concerned Closure.loopedTable [sortDocument] name →
      rearrangedTable.find? name = Closure.loopedTable.find? name := fun name h => by
    have hname := mem_of_concerned_sortDocument h
    simp only [List.mem_cons, List.not_mem_nil, or_false] at hname
    rcases hname with rfl | rfl | rfl <;> rfl
  have hsame := (generate_depends_on_concerned {} Closure.loopedTable [sortDocument]).1 _ hagree
  exact ⟨hagree, fun h => absurd (mem_of_concerned_sortDocument h) (by decide), hsame, _, rfl, rfl⟩

end OperationCatalog.TypeScript
