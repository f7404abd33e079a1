import OperationCatalog.Proofs.GraphQL.Schema.Build
import OperationCatalog.Proofs.Metadata.Extraction
import OperationCatalog.Proofs.Metadata.Files
import OperationCatalog.Proofs.Metadata.Table

/-!
# Where the names of a table come from

The table of a run is merged from the types of its schema and from its metadata files
(`OperationCatalog.Metadata.exists_files_of_buildTable`), so a type of it is in the schema or is
declared in one of the files (`OperationCatalog.Metadata.mem_names_of_buildTable`). The two differ
in what a type may be called:
those of a schema are called by names of the query language, since the schema was parsed
(`OperationCatalog.Metadata.Extracted.isName`); those of a file are called by any text, and nothing
that reads the file looks at it.
-/

namespace OperationCatalog.Metadata

variable {w : Workspace} {root : Option Path} {patterns : List String} {schema : Option Table}
  {table : Table} {name : String}

/-- **The metadata of a schema** that some text defines. -/
def Extracted (table : Table) : Prop :=
  ∃ trusted text schema, GraphQL.schemaOfText trusted text = .ok schema ∧
    (extract schema).outcome = .ok table

/-- **Extracted types are called by names.** -/
theorem Extracted.isName (h : Extracted table) (hname : name ∈ table.names) :
    GraphQL.IsName name := by
  obtain ⟨trusted, text, schema, hschema, hextract⟩ := h
  obtain ⟨u, hu, rfl⟩ := List.mem_map.mp hname
  obtain ⟨t, ht, hof⟩ := exists_of_mem_extract hextract hu
  rw [(typeOf_eq_some hof).1]
  exact GraphQL.isName_of_schemaOfText hschema t (List.mem_of_mem_filter ht)

/-- **A metadata file declares a type** of this name: it is one of those that patterns stand for. -/
def DeclaredInFiles (w : Workspace) (root : Option Path) (patterns : List String)
    (name : String) : Prop :=
  ∃ files, (resolveFiles w root patterns).outcome = .ok files ∧
    ∃ path ∈ files, ∃ table, (loadFile w path).outcome = .ok table ∧ name ∈ table.names

/-- The tables of some files are those of each. -/
theorem loadFiles_eq_ok_iff {files : List Path} {tables : List Table} :
    (loadFiles w files).outcome = .ok tables ↔
      List.Forall₂ (fun path table => (loadFile w path).outcome = .ok table) files tables := by
  induction files generalizing tables with
  | nil => simp [loadFiles, eq_comm]
  | cons path rest ih =>
    rw [outcome_loadFiles_cons, List.forall₂_cons_left_iff]
    constructor
    · intro h
      obtain ⟨table, htable, h⟩ := bind_eq_ok_iff.mp h
      obtain ⟨more, hmore, h⟩ := bind_eq_ok_iff.mp h
      exact ⟨table, more, htable, ih.mp hmore, (pure_eq_ok_iff.mp h).symm⟩
    · rintro ⟨table, more, htable, hmore, rfl⟩
      exact bind_eq_ok_iff.mpr ⟨table, htable, bind_eq_ok_iff.mpr ⟨more, ih.mpr hmore, rfl⟩⟩

/-- **The table of a run** is merged from its schema and the tables of its files. -/
theorem exists_files_of_buildTable
    (h : (buildTable w root patterns schema).outcome = .ok table) :
    ∃ files tables, FilesOf w root patterns files ∧
      List.Forall₂ (fun path table => (loadFile w path).outcome = .ok table) files tables ∧
      table = .merge (schema.getD .empty :: tables) := by
  rcases hpatterns : patterns.isEmpty
  · rw [outcome_buildTable hpatterns] at h
    obtain ⟨files, hfiles, h⟩ := bind_eq_ok_iff.mp h
    obtain ⟨tables, htables, h⟩ := bind_eq_ok_iff.mp h
    refine ⟨files, tables, ⟨fun hnil => ?_, fun _ => mapError_eq_ok_iff.mp hfiles⟩,
      loadFiles_eq_ok_iff.mp htables, (pure_eq_ok_iff.mp h).symm⟩
    simp [hnil] at hpatterns
  · -- without patterns, the table is that of the schema
    simp only [buildTable, hpatterns, if_true] at h
    split at h
    · simp at h
    · obtain rfl := Except.ok.inj h
      refine ⟨[], [], ⟨fun _ => rfl, fun hne => ?_⟩, .nil, (Table.merge_singleton _).symm⟩
      exact absurd (List.isEmpty_iff.mp hpatterns) hne

/-- **A type of a run** is one of its schema, or a metadata file declares it. -/
theorem mem_names_of_buildTable (h : (buildTable w root patterns schema).outcome = .ok table)
    (hname : name ∈ table.names) :
    (∃ t ∈ schema, name ∈ t.names) ∨ DeclaredInFiles w root patterns name := by
  obtain ⟨files, tables, ⟨hnone, hfiles⟩, hload, rfl⟩ := exists_files_of_buildTable h
  obtain ⟨source, hsource, hmem⟩ := Table.mem_names_merge_iff.mp hname
  rcases List.mem_cons.mp hsource with rfl | hsource
  · cases schema with
    | none => simp [Table.empty, Table.names] at hmem
    | some t => exact Or.inl ⟨t, rfl, hmem⟩
  · obtain ⟨path, hpath, hsource⟩ := exists_of_forall₂_of_mem hload hsource
    have hpatterns : patterns ≠ [] := fun hnil => by
      simp [hnone hnil] at hpath
    exact Or.inr ⟨files, hfiles hpatterns, path, hpath, source, hsource, hmem⟩

end OperationCatalog.Metadata
