import OperationCatalog.Proofs.TypeScript.Reference
import OperationCatalog.Proofs.TypeScript.RoundTrip

/-!
# When names of a generated module meet

A module introduces the documents that it imports, a namespace, and one constant per operation. The
names of these are made independently of each other: from the name of an operation and a suffix that
is configured, from the name of an operation and `Operation`, and by the configuration alone. The
only names that are compared while a module is generated are those of the operations.

So documents are told apart, and constants are (`OperationCatalog.TypeScript.Module.NamedBy`), but a
document may be called like a constant, and the namespace like either of them. This file says
exactly when (`OperationCatalog.TypeScript.valueNames_nodup_iff`). Two names that are made of
different endings can only meet if one of the endings ends in the other, so most configurations rule
it out whatever the operations are called (`OperationCatalog.Config.TellsApart`), and the default
one does.

A constant *inside* of the namespace may be called like the namespace, too, and then hides it where
types are referred to. That is a matter of the table: there has to be a type of this name that the
operations lead to.
-/

namespace OperationCatalog

/-- **Endings that tell names apart**: of the suffix of documents and that of constants, neither
ends in the other, and the namespace ends in neither. -/
structure Config.TellsApart (config : Config) : Prop where
  /-- The ending of a constant does not end in that of a document. -/
  constants : ¬config.documentSuffix.toList <:+ "Operation".toList
  /-- The ending of a document does not end in that of a constant. -/
  documents : ¬"Operation".toList <:+ config.documentSuffix.toList
  /-- The namespace does not end like a document. -/
  fromDocuments : ¬config.documentSuffix.toList <:+ config.namespaceName.toList
  /-- The namespace does not end like a constant. -/
  fromConstants : ¬"Operation".toList <:+ config.namespaceName.toList

example : Config.TellsApart {} := ⟨by decide, by decide, by decide, by decide⟩

namespace TypeScript

open Metadata

/-! ### Names -/

theorem suffix_toList_append (name ending : String) :
    ending.toList <:+ (name ++ ending).toList := by
  rw [String.toList_append]
  exact List.suffix_append _ _

/-- **Names of two endings** only meet if one of the endings ends in the other. -/
theorem suffix_or_suffix_of_append_eq {a b s t : String} (h : a ++ s = b ++ t) :
    s.toList <:+ t.toList ∨ t.toList <:+ s.toList :=
  List.suffix_or_suffix_of_suffix (suffix_toList_append a s) (h ▸ suffix_toList_append b t)

namespace Module

/-- The documents that a module imports. -/
def importedNames (m : Module) : List String := (m.imports.map (·.1)).getD []

/-- The constants of the operations of a module. -/
def constantNames (m : Module) : List String := m.operations.map (·.name ++ "Operation")

/-- **The values that a module introduces**, those inside of its namespace left aside. -/
def valueNames (m : Module) : List String :=
  m.importedNames ++ m.namespaceName :: m.constantNames

/-- **A module whose documents are named by a suffix**: each has the name of its operation before
it, and no two operations share their name. -/
structure NamedBy (suffix : String) (m : Module) : Prop where
  /-- A document is named after its operation. -/
  document : ∀ o ∈ m.operations, o.document = o.name ++ suffix
  /-- No two operations share their name. -/
  distinct : (m.operations.map (·.name)).Nodup

variable {m : Module} {suffix : String}

/-- Distinct names stay distinct with the same ending. -/
theorem nodup_map_append {α : Type} {name : α → String} {items : List α} (ending : String)
    (h : (items.map name).Nodup) : (items.map (name · ++ ending)).Nodup := by
  have hinj : Function.Injective fun s : String => s ++ ending := fun a b hab =>
    (String.append_left_inj ending).mp hab
  simpa only [List.map_map, Function.comp_def] using h.map hinj

namespace NamedBy

/-- What is imported are documents, if there is an import. -/
theorem mem_importedNames_iff (h : m.NamedBy suffix) {name : String} :
    name ∈ m.importedNames ↔
      m.imports.isSome = true ∧ ∃ o ∈ m.operations, o.name ++ suffix = name := by
  unfold importedNames
  rcases himports : m.imports with _ | ⟨documents, source⟩
  · simp
  · obtain ⟨-, rfl⟩ := imports_eq_some himports
    simp only [Option.map_some, Option.getD_some, List.mem_map, Option.isSome_some, true_and]
    exact exists_congr fun o => and_congr_right fun ho => by rw [h.document o ho]

theorem nodup_importedNames (h : m.NamedBy suffix) : m.importedNames.Nodup := by
  unfold importedNames
  rcases himports : m.imports with _ | ⟨documents, source⟩
  · simp
  · obtain ⟨-, rfl⟩ := imports_eq_some himports
    have hnames : m.operations.map (·.document) = m.operations.map (·.name ++ suffix) :=
      List.map_congr_left h.document
    simpa [hnames] using nodup_map_append suffix h.distinct

theorem nodup_constantNames (h : m.NamedBy suffix) : m.constantNames.Nodup :=
  nodup_map_append "Operation" h.distinct

/-- **The values of a module are told apart** exactly if the namespace is no constant and, where
documents are imported, no document is the namespace or a constant. -/
theorem nodup_valueNames_iff (h : m.NamedBy suffix) :
    m.valueNames.Nodup ↔
      (∀ o ∈ m.operations, m.namespaceName ≠ o.name ++ "Operation") ∧
        (m.imports.isSome = true → ∀ o ∈ m.operations, m.namespaceName ≠ o.name ++ suffix ∧
          ∀ o' ∈ m.operations, o'.name ++ "Operation" ≠ o.name ++ suffix) := by
  have hconstant : ∀ {name}, name ∈ m.constantNames ↔
      ∃ o ∈ m.operations, o.name ++ "Operation" = name := List.mem_map
  rw [valueNames, List.nodup_append, List.nodup_cons]
  constructor
  · rintro ⟨-, ⟨hnamespace, -⟩, happart⟩
    refine ⟨fun o ho he => hnamespace (hconstant.mpr ⟨o, ho, he.symm⟩), fun hdue o ho => ?_⟩
    have himported := h.mem_importedNames_iff.mpr ⟨hdue, o, ho, rfl⟩
    refine ⟨fun he => happart _ himported _ List.mem_cons_self he.symm, fun o' ho' he => ?_⟩
    exact happart _ himported _ (List.mem_cons_of_mem _ (hconstant.mpr ⟨o', ho', rfl⟩)) he.symm
  · rintro ⟨hnamespace, hdocuments⟩
    refine ⟨h.nodup_importedNames, ⟨fun hmem => ?_, h.nodup_constantNames⟩,
      fun a ha b hb he => ?_⟩
    · obtain ⟨o, ho, he⟩ := hconstant.mp hmem
      exact hnamespace o ho he.symm
    · obtain ⟨hdue, o, ho, rfl⟩ := h.mem_importedNames_iff.mp ha
      obtain ⟨hfirst, hrest⟩ := hdocuments hdue o ho
      rcases List.mem_cons.mp hb with rfl | hb
      · exact hfirst he.symm
      · obtain ⟨o', ho', rfl⟩ := hconstant.mp hb
        exact hrest o' ho' he.symm

/-- **Endings that tell names apart** do so whatever the operations are called. -/
theorem nodup_valueNames {config : Config} (h : m.NamedBy config.documentSuffix)
    (hname : m.namespaceName = config.namespaceName) (hconfig : config.TellsApart) :
    m.valueNames.Nodup := by
  refine h.nodup_valueNames_iff.mpr
    ⟨fun o _ he => ?_, fun _ o _ => ⟨fun he => ?_, fun o' _ he => ?_⟩⟩
  · exact hconfig.fromConstants (hname ▸ he ▸ suffix_toList_append _ _)
  · exact hconfig.fromDocuments (hname ▸ he ▸ suffix_toList_append _ _)
  · exact (suffix_or_suffix_of_append_eq he).elim hconfig.documents hconfig.constants

end NamedBy

end Module

/-! ### Generated modules -/

variable {config : Config} {table : Table} {documents : List GraphQL.Document} {m : Module}

theorem namespaceName_of_generate (h : (generate config table documents).outcome = .ok m) :
    m.namespaceName = config.namespaceName := by
  obtain ⟨entries, -, hm⟩ := generate_eq_ok_iff.mp h
  obtain ⟨closure, -, declarations, -, rfl⟩ := moduleOf_eq_ok_iff.mp hm
  rfl

/-- The documents of a generated module are named by the suffix of its configuration. -/
theorem namedBy_of_generate (h : (generate config table documents).outcome = .ok m) :
    m.NamedBy config.documentSuffix := by
  obtain ⟨entries, closure, hentries, -, -, hoperations, -⟩ := exists_closure_of_generate h
  refine ⟨fun o ho => ?_, ?_⟩
  · rw [hoperations] at ho
    obtain ⟨e, he, rfl⟩ := List.mem_map.mp ho
    obtain ⟨-, -, o, -, hof⟩ := Catalog.exists_operation_of_build hentries e he
    exact (Catalog.describeOperation_eq_some hof).2.2.1
  · obtain ⟨made, -, -, hnodup⟩ := Catalog.build_eq_ok_iff.mp hentries
    rw [hoperations, List.map_map]
    exact hnodup

/-- The types of the parameters of a generated module are those of its entries. -/
theorem mem_types_iff {entries : List Catalog.Entry} (h : m.operations = entries.map operationOf)
    {name : String} : name ∈ entries.flatMap Catalog.Entry.types ↔
      ∃ o ∈ m.operations, ∃ p ∈ o.parameters, p.type = name := by
  rw [h, List.mem_flatMap]
  constructor
  · rintro ⟨e, he, hname⟩
    obtain ⟨p, hp, rfl⟩ := List.mem_map.mp hname
    exact ⟨operationOf e, List.mem_map_of_mem he, parameterOf p, List.mem_map_of_mem hp, rfl⟩
  · rintro ⟨o, ho, code, hcode, rfl⟩
    obtain ⟨e, he, rfl⟩ := List.mem_map.mp ho
    obtain ⟨p, hp, rfl⟩ := List.mem_map.mp hcode
    exact ⟨e, he, List.mem_map_of_mem hp⟩

/-- **What is declared** is an enumeration or object of the table that a parameter leads to. -/
theorem exists_reaches_of_declared (h : (generate config table documents).outcome = .ok m)
    {name : String} (hname : name ∈ m.declarations.map (·.name)) :
    (∃ t, table.find? name = some t ∧ t.kind ≠ .scalar) ∧
      ∃ o ∈ m.operations, ∃ p ∈ o.parameters, table.Reaches p.type name := by
  obtain ⟨entries, closure, -, hclosure, -, hoperations, hnames⟩ := exists_closure_of_generate h
  obtain ⟨t, ht, rfl⟩ := List.mem_map.mp (hnames ▸ hname)
  obtain ⟨hreg, hfind, hkind⟩ := (settled_of_closureOf hclosure).declared t ht
  refine ⟨⟨t, hfind, hkind⟩, ?_⟩
  obtain hreg | ⟨n, hn, hreach⟩ :=
    Closure.reaches_of_resolveAll (closureOf_eq_ok_iff.mp hclosure) hreg
  · simp [Closure.empty] at hreg
  · obtain ⟨o, ho, p, hp, rfl⟩ := (mem_types_iff hoperations).mp hn
    exact ⟨o, ho, p, hp, hreach⟩

/-- An enumeration or object that a parameter leads to is declared, if every type of the table has a
name. -/
theorem declared_of_reaches (h : (generate config table documents).outcome = .ok m)
    (unnamed : "" ∉ table.names) {o : OperationCode} (ho : o ∈ m.operations) {p : ParameterCode}
    (hp : p ∈ o.parameters) {name : String} (hreach : table.Reaches p.type name) {t : InputType}
    (ht : table.find? name = some t) (hkind : t.kind ≠ .scalar) :
    name ∈ m.declarations.map (·.name) := by
  obtain ⟨entries, closure, -, hclosure, -, hoperations, hnames⟩ := exists_closure_of_generate h
  rw [← hnames]
  refine mem_declared_names (settled_of_closureOf hclosure) ?_ ht hkind
  refine (Closure.settled_empty.mem_registered_iff unnamed (closureOf_eq_ok_iff.mp hclosure)).mpr ?_
  exact Or.inr ⟨p.type, (mem_types_iff hoperations).mpr ⟨o, ho, p, hp, rfl⟩, hreach⟩

/-- **Where the names of a generated module meet.** In a module that is generated,

* no document is imported twice, and no two operations share their constant;
* the values that it introduces outside of its namespace all have different names exactly if its
  namespace is not called like the constant of an operation and, where documents are imported, no
  document is called like the namespace or like a constant;
* that is so whatever the operations are called, if the endings of the configuration tell names
  apart;
* a constant in the namespace is called like the namespace only if the table has an enumeration or
  object of this name that a parameter leads to, and if every type of the table has a name, then
  whenever it has one. -/
theorem valueNames_nodup_iff (h : (generate config table documents).outcome = .ok m) :
    m.importedNames.Nodup ∧ m.constantNames.Nodup ∧
      (m.valueNames.Nodup ↔
        (∀ o ∈ m.operations, config.namespaceName ≠ o.name ++ "Operation") ∧
          (m.imports.isSome = true → ∀ o ∈ m.operations,
            config.namespaceName ≠ o.name ++ config.documentSuffix ∧
            ∀ o' ∈ m.operations, o'.name ++ "Operation" ≠ o.name ++ config.documentSuffix)) ∧
      (config.TellsApart → m.valueNames.Nodup) ∧
      (m.namespaceName ∈ m.declarations.map (·.name) →
        (∃ t, table.find? config.namespaceName = some t ∧ t.kind ≠ .scalar) ∧
          ∃ o ∈ m.operations, ∃ p ∈ o.parameters, table.Reaches p.type config.namespaceName) ∧
      ("" ∉ table.names → ∀ o ∈ m.operations, ∀ p ∈ o.parameters,
        table.Reaches p.type config.namespaceName →
          ∀ t, table.find? config.namespaceName = some t → t.kind ≠ .scalar →
            m.namespaceName ∈ m.declarations.map (·.name)) := by
  have hnamed := namedBy_of_generate h
  have hname := namespaceName_of_generate h
  rw [← hname]
  exact ⟨hnamed.nodup_importedNames, hnamed.nodup_constantNames, hnamed.nodup_valueNames_iff,
    hnamed.nodup_valueNames hname, exists_reaches_of_declared h,
    fun unnamed o ho p hp hreach t ht hkind => declared_of_reaches h unnamed ho hp hreach ht hkind⟩

theorem valueNames_nodup_ordersDocument :
    ∃ m, (generate { documentsImport := some "./documents" } Closure.loopedTable
        [ordersDocument]).outcome = .ok m ∧
      m.valueNames = ["OrdersDocument", "GraphQLInputTypes", "OrdersOperation"] ∧
      m.valueNames.Nodup ∧ m.namespaceName ∉ m.declarations.map (·.name) := by
  have apart : Config.TellsApart { documentsImport := some "./documents" } :=
    ⟨by decide, by decide, by decide, by decide⟩
  have names := @valueNames_nodup_iff { documentsImport := some "./documents" } Closure.loopedTable
    [ordersDocument] _ rfl
  refine ⟨_, rfl, rfl, names.2.2.2.1 apart, fun hmem => ?_⟩
  obtain ⟨⟨t, ht, -⟩, -⟩ := names.2.2.2.2.1 hmem
  exact absurd (Table.mem_names_of_find? ht) (by decide)

/-- The settings of a configuration in which all names meet. -/
def meetingSettings : ValueGraph := .ofTree (.map
  [(.str "namespace", .text "Order"), (.str "documentSuffix", .text "Operation"),
    (.str "documentsImport", .text "./documents")])

/-- A suffix may be the ending of constants, and a namespace the name of a type: both are accepted,
and the documents are called like the constants, and one constant like the namespace around it. -/
theorem names_meet_meetingSettings :
    ∃ config m, Config.ofValue meetingSettings = .ok config ∧
      (generate config Closure.loopedTable [ordersDocument]).outcome = .ok m ∧
      m.valueNames = ["OrdersOperation", "Order", "OrdersOperation"] ∧ ¬m.valueNames.Nodup ∧
      m.namespaceName ∈ m.declarations.map (·.name) := by
  refine ⟨⟨[], "Order", "Operation", some "./documents"⟩, _, rfl, rfl, rfl, by decide, by decide⟩

end TypeScript

end OperationCatalog
