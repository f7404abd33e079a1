import OperationCatalog.Proofs.Catalog.Classification
import OperationCatalog.Proofs.Metadata.Closed
import OperationCatalog.Proofs.TypeScript.Generate

/-!
# Modules of extracted tables

Where the table of a run is extracted from a schema, three of the four steps of a run cannot fail.
Every type that the documents refer to is collected, since the table is closed; every field of a
declared type has a shape, since it is right about its type; and every opaque value has a text,
since it is a tree of plain scalars. What is left is the catalog, and of its faults only those that
lie in the documents themselves (`OperationCatalog.TypeScript.faults_of_extracted_table`).
-/

namespace OperationCatalog.TypeScript

open GraphQL Metadata

variable {config : Config} {schema : Schema} {table : Table} {documents : List GraphQL.Document}
  {entries : List Catalog.Entry}

/-! ### Values with a text -/

theorem exists_optionalLiteral {value : Option ValueGraph}
    (h : ∀ g ∈ value, g.IsTree Scalar.Plain) : ∃ code, optionalLiteral value = .ok code := by
  cases value with
  | none => exact ⟨none, rfl⟩
  | some g =>
    obtain ⟨text, htext⟩ := Json.exists_compactText (h g rfl)
    exact ⟨some text, map_eq_ok_iff.mpr ⟨text, htext, rfl⟩⟩

/-- **A rule of plain trees** has code. -/
theorem exists_ruleCode {r : Rule} (h : r.IsTree Scalar.Plain) : ∃ code, ruleCode r = .ok code := by
  have hconstraints : ∀ g ∈ r.constraints.getD [], ∃ text, valueLiteral g = .ok text := by
    rcases hgs : r.constraints with _ | gs
    · simp
    · exact fun g hg => Json.exists_compactText (h.constraints gs hgs g hg)
  obtain ⟨constraints, hconstraints⟩ := exists_mapM hconstraints
  obtain ⟨context, hcontext⟩ := exists_optionalLiteral h.context
  obtain ⟨options, hoptions⟩ := exists_optionalLiteral h.options
  exact ⟨_, by rw [ruleCode, hconstraints, ok_bind, hcontext, ok_bind, hoptions, ok_bind]; rfl⟩

/-! ### Declarations and modules -/

/-- A field that is right about its type has code, if its rules do. -/
theorem exists_fieldOf {owner : String} {field : Field} {need : Option String}
    (hneed : Closure.needed table owner field = .ok need)
    (hrules : ∀ rules ∈ field.validation, ∀ r ∈ rules, r.IsTree Scalar.Plain) :
    ∃ code, fieldOf table field = .ok code := by
  have hcodes : ∀ r ∈ field.validation.getD [], ∃ code, ruleCode r = .ok code := by
    rcases hvalidation : field.validation with _ | rules
    · simp
    · exact fun r hr => exists_ruleCode (hrules rules hvalidation r hr)
  obtain ⟨rules, hmap⟩ := exists_mapM hcodes
  obtain ⟨shape, hshape⟩ := exists_shapeOf hneed
  exact ⟨_, by rw [fieldOf, mapError_eq_ok_iff.mpr hmap, ok_bind, hshape, ok_bind]; rfl⟩

/-- **A module of some entries is made** once everything that they refer to is collected, if the
opaque values of the table are plain trees. -/
theorem exists_moduleOf {closure : Closure} (htable : table.IsTree Scalar.Plain)
    (hclosure : (closureOf table entries).outcome = .ok closure) :
    ∃ m, (moduleOf config table entries).outcome = .ok m := by
  have hc := settled_of_closureOf hclosure
  have hdeclarations : ∀ t ∈ closure.declared, ∃ d, declarationOf table t = .ok d := by
    intro t ht
    obtain ⟨-, hfind, -⟩ := hc.declared t ht
    have hfields : ∀ field ∈ t.fields, ∃ code, fieldOf table field = .ok code := fun field hf => by
      obtain ⟨need, hneed⟩ := hc.exists_needed ht hf
      exact exists_fieldOf hneed (htable t (Table.find?_eq_some_iff.mp hfind).1 field hf)
    obtain ⟨fields, hmap⟩ := exists_mapM hfields
    unfold declarationOf
    split
    · exact ⟨_, rfl⟩
    · exact ⟨_, by rw [hmap, ok_bind]; rfl⟩
  obtain ⟨declarations, hmap⟩ := exists_mapM hdeclarations
  exact ⟨_, moduleOf_eq_ok_iff.mpr ⟨closure, hclosure, declarations, mapM_eq_ok_iff.mp hmap, rfl⟩⟩

/-- **A run fails like its catalog**, if every type that the catalog may refer to is collected. -/
theorem catalog_of_generate_eq_error {fault : Fault} (htable : table.IsTree Scalar.Plain)
    (hresolve : ∀ names : List String, (∀ name ∈ names, Catalog.Describes documents name) →
      ∃ closure, Closure.empty.resolveAll table names = (closure, none))
    (h : (generate config table documents).outcome = .error fault) :
    ∃ cause, (Catalog.build table config.documentSuffix documents).outcome = .error cause ∧
      fault = .catalog cause := by
  simp only [generate, Logged.outcome_bind_do, Logged.outcome_record, Logged.outcome_mapError,
    ok_bind] at h
  rcases bind_eq_error_iff.mp h with h | ⟨entries, hentries, h⟩
  · obtain ⟨cause, hcause, rfl⟩ := mapError_eq_error_iff.mp h
    exact ⟨cause, hcause, rfl⟩
  · -- there is a catalog, and so there is a module of its entries
    have hnames : ∀ name ∈ entries.flatMap Catalog.Entry.types,
        Catalog.Describes documents name := fun name hname => by
      obtain ⟨e, he, hname⟩ := List.mem_flatMap.mp hname
      obtain ⟨p, hp, rfl⟩ := List.mem_map.mp hname
      exact Catalog.describes_of_build (mapError_eq_ok_iff.mp hentries) he hp
    obtain ⟨closure, hclosure⟩ := hresolve _ hnames
    obtain ⟨m, hm⟩ := @exists_moduleOf config _ _ _ htable (closureOf_eq_ok_iff.mpr hclosure)
    rw [hm] at h
    cases h

/-! ### Extracted tables -/

/-- **What can go wrong with an extracted table.** Let a table be extracted from a schema that a
text defines, and let no input field of the schema use a type of introspection. Then

* every name of the table is resolved without a fault, whatever was collected before;
* a module for documents whose variables only use names of the table is refused for one of three
  reasons: an operation with variables has no name, two of them have one name, or a variable has a
  type that cannot be described – which is a list of lists, if it is a type expression at all.

So no type is missing, no kind is wrong, and no value is without a text. -/
theorem faults_of_extracted_table {trusted : Bool} {text : String}
    (hschema : schemaOfText trusted text = .ok schema)
    (hextract : (extract schema).outcome = .ok table) (havoids : schema.AvoidsIntrospection) :
    (∀ c : Closure, ∀ name ∈ table.names, (c.resolve table name).2 = none) ∧
      ∀ (config : Config) (documents : List GraphQL.Document),
        (∀ name, Catalog.Describes documents name → name ∈ table.names) →
        ∀ fault, (generate config table documents).outcome = .error fault →
          fault = .catalog .anonymous ∨ (∃ name, fault = .catalog (.duplicate name)) ∨
            ∃ v, Catalog.Declares documents v ∧ (v.type.isExpression = true → v.type.IsNested) ∧
              ∃ type, fault = .catalog (.unsupportedItem type) ∨
                fault = .catalog (.unsupported type) := by
  have hclosed := closed_of_schemaOfText hschema
  have hresolve (c : Closure) {names : List String} (hnames : ∀ name ∈ names, name ∈ table.names) :=
    exists_resolveAll_of_extract hclosed havoids hextract c hnames
  refine ⟨fun c name hname => ?_, fun config documents hknown fault hfault => ?_⟩
  · have hone : ∀ other ∈ [name], other ∈ table.names := by simpa using hname
    obtain ⟨c', hc'⟩ := hresolve c hone
    exact (Closure.resolveAll_cons hc').1
  · obtain ⟨cause, hcause, rfl⟩ := catalog_of_generate_eq_error
      (isTree_of_extract (plain_of_schemaOfText hschema) hextract)
      (fun names hnames => hresolve .empty fun name hname => hknown name (hnames name hname)) hfault
    rcases Catalog.build_eq_error hcause with rfl | ⟨name, rfl⟩ | ⟨v, hv, hrefused⟩
    · exact Or.inl rfl
    · exact Or.inr (Or.inl ⟨name, rfl⟩)
    · rcases Catalog.describeVariable_eq_error hrefused with ⟨name, hname, hmissing⟩ |
        ⟨hnone, hcause⟩
      · -- the name is one that a variable uses, and all of those are in the table
        obtain ⟨d, hd, o, ho, hvo⟩ := hv
        obtain ⟨t, ht⟩ := Table.find?_of_mem_names (hknown name ⟨d, hd, o, ho, v, hvo, hname⟩)
        simp [hmissing] at ht
      · refine Or.inr (Or.inr ⟨v, hv, fun h => TypeRef.isNested_of_describedName? h hnone, ?_⟩)
        cases cause with
        | unsupported type => exact ⟨type, Or.inr rfl⟩
        | unsupportedItem type => exact ⟨type, Or.inl rfl⟩
        | anonymous | duplicate _ | missing _ => exact hcause.elim

/-- An object that refers to itself in a list and to an enumeration, with a rule whose argument is
not given. -/
def filterText : String :=
  "directive @length(max: Int = 5) on INPUT_FIELD_DEFINITION " ++
  "input Filter \x7b and: [Filter!] by: [Direction!]! @length \x7d enum Direction \x7b UP DOWN \x7d"

/-- The schema that the text defines. -/
def filterSchema : Schema := (schemaOfText false filterText).toOption.getD .empty

/-- The table that is extracted from the schema. -/
def filterTable : Table := (extract filterSchema).outcome.toOption.getD .empty

/-- A query with a filter and a list of lists of filters. -/
def filterDocument : GraphQL.Document :=
  [.operation ⟨.query, some "Find",
    [⟨"filter", .nonNull (.named "Filter"), none, []⟩,
      ⟨"rows", .list (.list (.named "Filter")), none, []⟩], [], []⟩]

theorem faults_of_extracted_table_filterText :
    schemaOfText false filterText = .ok filterSchema ∧
      (extract filterSchema).outcome = .ok filterTable ∧ filterSchema.AvoidsIntrospection ∧
      (∀ c : Closure, (c.resolve filterTable "Filter").2 = none) ∧
      (∀ name, Catalog.Describes [filterDocument] name → name ∈ filterTable.names) ∧
      ∃ fault, (generate {} filterTable [filterDocument]).outcome = .error fault ∧
        (fault = .catalog .anonymous ∨ (∃ name, fault = .catalog (.duplicate name)) ∨
          ∃ v, Catalog.Declares [filterDocument] v ∧
            (v.type.isExpression = true → v.type.IsNested) ∧
            ∃ type, fault = .catalog (.unsupportedItem type) ∨
              fault = .catalog (.unsupported type)) := by
  -- the text is parsed once for all that is computed from it
  obtain ⟨hschema, hextract, havoids, hname, hfault⟩ :
      (schemaOfText false filterText).toOption.isSome = true ∧
        (extract filterSchema).outcome.toOption.isSome = true ∧
        filterSchema.AvoidsIntrospection ∧ "Filter" ∈ filterTable.names ∧
        (generate {} filterTable [filterDocument]).outcome.toOption.isNone = true := by
    decide +kernel
  replace hschema : schemaOfText false filterText = .ok filterSchema := eq_ok_getD hschema _
  replace hextract : (extract filterSchema).outcome = .ok filterTable := eq_ok_getD hextract _
  obtain ⟨hresolve, hfaults⟩ := faults_of_extracted_table hschema hextract havoids
  have hdescribes : ∀ name, Catalog.Describes [filterDocument] name →
      name ∈ filterTable.names := by
    rintro name ⟨d, hd, o, ho, v, hv, hdescribed⟩
    obtain rfl := List.mem_singleton.mp hd
    obtain rfl := List.mem_singleton.mp ho
    rcases List.mem_pair.mp hv with rfl | rfl
    · obtain rfl := Option.some.inj hdescribed
      exact hname
    · cases hdescribed
  refine ⟨hschema, hextract, havoids, fun c => hresolve c _ hname, hdescribes, ?_⟩
  rcases hgenerate : (generate {} filterTable [filterDocument]).outcome with fault | m
  · exact ⟨fault, rfl, hfaults {} [filterDocument] hdescribes fault hgenerate⟩
  · rw [hgenerate] at hfault
    simp [Except.toOption] at hfault

end OperationCatalog.TypeScript
