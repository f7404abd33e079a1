import OperationCatalog.Proofs.Metadata.Revisit
import OperationCatalog.Proofs.TypeScript.Dependence

/-!
# The order of operations

In which order the operations of a run come – in one document or another, before or after each
other – decides about the order of what is generated, and about nothing else
(`OperationCatalog.TypeScript.generate_of_reordered`). It does not even decide whether something is
generated, although it does decide which fault is reported if not: the operations share one closure,
so a type may be visited for one operation or for another, and with it a fault be met.

The catalog has the same entries in another order, the closure of these declares the same types in
another order, and each declaration depends on its type alone.
-/

namespace OperationCatalog.TypeScript

open Metadata

variable {config : Config} {table : Table} {documents documents' : List GraphQL.Document}
  {entries entries' : List Catalog.Entry} {m : Module}

/-- A module with its declarations and its operations in another order. -/
structure Module.Reordered (m m' : Module) : Prop where
  /-- The namespace is the same. -/
  namespaceName : m'.namespaceName = m.namespaceName
  /-- The import is from the same module. -/
  documentsImport : m'.documentsImport = m.documentsImport
  /-- There are the same declarations. -/
  declarations : m'.declarations.Perm m.declarations
  /-- There are the same operations. -/
  operations : m'.operations.Perm m.operations

/-- The text of each declaration of a reordered module is the same. -/
theorem Module.Reordered.declarationLines {m' : Module} (h : m.Reordered m') :
    (m'.declarations.map (Module.declarationLines m'.namespaceName)).Perm
      (m.declarations.map (Module.declarationLines m.namespaceName)) := by
  rw [h.namespaceName]
  exact h.declarations.map _

/-- The text of each operation of a reordered module is the same. -/
theorem Module.Reordered.operationLines {m' : Module} (h : m.Reordered m') :
    (m'.operations.map (Module.operationLines m'.namespaceName)).Perm
      (m.operations.map (Module.operationLines m.namespaceName)) := by
  rw [h.namespaceName]
  exact h.operations.map _

/-- **The closure of the same entries** in another order declares the same types. -/
theorem closureOf_of_perm {closure : Closure} (hperm : entries'.Perm entries)
    (h : (closureOf table entries).outcome = .ok closure) :
    ∃ closure', (closureOf table entries').outcome = .ok closure' ∧
      closure'.declared.Perm closure.declared := by
  obtain ⟨closure', hresolved, hdeclared⟩ := Closure.resolveAll_of_same_names
    (fun n => (hperm.flatMap_right Catalog.Entry.types).mem_iff) (closureOf_eq_ok_iff.mp h)
  exact ⟨closure', closureOf_eq_ok_iff.mpr hresolved, hdeclared⟩

/-- **The module of the same entries** in another order is reordered. -/
theorem moduleOf_of_perm (hperm : entries'.Perm entries)
    (h : (moduleOf config table entries).outcome = .ok m) :
    ∃ m', (moduleOf config table entries').outcome = .ok m' ∧ m.Reordered m' := by
  obtain ⟨closure, hclosure, declarations, hdeclarations, rfl⟩ := moduleOf_eq_ok_iff.mp h
  obtain ⟨closure', hclosure', hdeclared⟩ := closureOf_of_perm hperm hclosure
  obtain ⟨declarations', hdeclarations', hsame⟩ := List.perm_comp_forall₂ hdeclared hdeclarations
  exact ⟨_, moduleOf_eq_ok_iff.mpr ⟨closure', hclosure', declarations', hdeclarations', rfl⟩,
    ⟨rfl, rfl, hsame, hperm.map operationOf⟩⟩

theorem generate_of_perm
    (hperm : (documents'.flatMap Catalog.operationsOf).Perm
      (documents.flatMap Catalog.operationsOf))
    (h : (generate config table documents).outcome = .ok m) :
    ∃ m', (generate config table documents').outcome = .ok m' ∧ m.Reordered m' := by
  obtain ⟨entries, hentries, hm⟩ := generate_eq_ok_iff.mp h
  obtain ⟨entries', hentries', hsame⟩ := Catalog.build_of_perm hperm hentries
  obtain ⟨m', hm', hreordered⟩ := moduleOf_of_perm hsame hm
  exact ⟨m', generate_eq_ok_iff.mpr ⟨entries', hentries', hm'⟩, hreordered⟩

/-- **The order of operations only decides about the order of what is generated.** For documents
with the same operations in another order, whatever the table and the settings,

* something is generated for the ones exactly if something is generated for the others;
* the two modules have the same namespace, the same import, and the same declarations and operations
  in another order;
* so the text of each declaration and of each operation is the same in both. -/
theorem generate_of_reordered (config : Config) (table : Table)
    (hperm : (documents'.flatMap Catalog.operationsOf).Perm
      (documents.flatMap Catalog.operationsOf)) :
    ((∃ m', (generate config table documents').outcome = .ok m') ↔
      ∃ m, (generate config table documents).outcome = .ok m) ∧
    ∀ m m', (generate config table documents).outcome = .ok m →
      (generate config table documents').outcome = .ok m' →
        m.Reordered m' ∧
        (m'.declarations.map (Module.declarationLines m'.namespaceName)).Perm
          (m.declarations.map (Module.declarationLines m.namespaceName)) ∧
        (m'.operations.map (Module.operationLines m'.namespaceName)).Perm
          (m.operations.map (Module.operationLines m.namespaceName)) := by
  refine ⟨⟨fun ⟨m', hm'⟩ => ?_, fun ⟨m, hm⟩ => ?_⟩, fun m m' hm hm' => ?_⟩
  · obtain ⟨m, hm, -⟩ := generate_of_perm hperm.symm hm'
    exact ⟨m, hm⟩
  · obtain ⟨m', hm', -⟩ := generate_of_perm hperm hm
    exact ⟨m', hm'⟩
  · obtain ⟨m'', hm'', h⟩ := generate_of_perm hperm hm
    obtain rfl := Except.ok.inj (hm''.symm.trans hm')
    exact ⟨h, h.declarationLines, h.operationLines⟩

/-- An operation that takes a filter, which refers to what the others take. -/
def filterOperation : GraphQL.Operation :=
  ⟨.mutation, some "Filter", [⟨"filter", .named "Filter", none, []⟩], [], []⟩

/-- An operation that takes a list of directions. -/
def turnOperation : GraphQL.Operation :=
  ⟨.query, some "Turn", [⟨"to", .list (.named "Direction"), none, []⟩], [], []⟩

theorem generate_of_reordered_turnOperation :
    List.Perm
      ([[.operation turnOperation], [.operation filterOperation]].flatMap Catalog.operationsOf)
      ([[.operation filterOperation, .operation turnOperation]].flatMap Catalog.operationsOf) ∧
    ∃ m m',
      (generate {} Closure.loopedTable
        [[.operation filterOperation, .operation turnOperation]]).outcome = .ok m ∧
      (generate {} Closure.loopedTable
        [[.operation turnOperation], [.operation filterOperation]]).outcome = .ok m' ∧
      m.operations.map (·.name) = ["Filter", "Turn"] ∧
      m'.operations.map (·.name) = ["Turn", "Filter"] ∧
      m.declarations.map (·.name) = ["Direction", "Order", "Filter"] ∧ m.Reordered m' := by
  have hperm : List.Perm
      ([[.operation turnOperation], [.operation filterOperation]].flatMap Catalog.operationsOf)
      ([[.operation filterOperation, .operation turnOperation]].flatMap Catalog.operationsOf) :=
    List.Perm.swap filterOperation turnOperation []
  refine ⟨hperm, _, _, rfl, rfl, rfl, rfl, rfl, ?_⟩
  exact ((generate_of_reordered {} Closure.loopedTable hperm).2 _ _ rfl rfl).1

end OperationCatalog.TypeScript
