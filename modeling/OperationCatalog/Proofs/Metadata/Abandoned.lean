import OperationCatalog.Proofs.Metadata.Agreement
import OperationCatalog.Proofs.Metadata.Interrupted

/-!
# Visiting again what failed

A visit that fails may be asked for again, of the closure that it has left. What happens then is
decided by the table alone, and by nothing that was visited before or in between
(`OperationCatalog.Metadata.Closure.resolve_after_fault`): a name that is not in the table is never
registered, so it fails every time; a name that is in the table was registered before its fields
were visited, so it fails only once.

The second case is the one to know about. The name has been **abandoned**: it is pending, a later
visit passes it over, and no walk declares a name that was registered before it, so its type is
missing from the declarations for good. This is of no harm to a run, which ends with its first
fault (`OperationCatalog.Metadata.Closure.resolveAll`) and visits nothing after it.
-/

namespace OperationCatalog.Metadata

namespace Closure

variable {table : Table} {c : Closure} {errand : Errand} {r : Visited} {name n : String}
  {fault : ClosureFault}

/-! ### Pending names are not taken up -/

/-- **What is pending stays pending**, whatever is visited: a walk declares no name that was
registered before it. -/
theorem Walk.pending (h : Walk table c errand r) (hp : Pending table c n) :
    Pending table r.1 n := by
  obtain ⟨hreg, t, ht, hkind, hdecl⟩ := hp
  refine ⟨h.prefix_registered.subset hreg, t, ht, hkind, fun hmem => hdecl ?_⟩
  have hname : t.name ∈ c.registered := (Table.name_of_find? ht).symm ▸ hreg
  exact h.mem_declared_of_registered hmem hname

theorem Pending.after (hp : Pending table c n) (names : List String) :
    Pending table (c.after table names) n := by
  induction names generalizing c with
  | nil => exact hp
  | cons name names ih => exact ih ((walk_resolve table c name).pending hp)

/-- **A visit of a name of the table that fails abandons the name.** -/
theorem Walk.abandons (h : Walk table c (.type name) r) (hc : Consistent table c)
    (hr : r.2 = some fault) (hname : name ∈ table.names) : Pending table r.1 name := by
  have hunsound : ∃ owner field, table.ReachesUnsound name owner field := by
    rcases h.blames trivial hr with ⟨-, habsent⟩ | ⟨owner, field, hunsound, -⟩
    · exact absurd hname habsent
    · exact ⟨owner, field, hunsound⟩
  cases h with
  | known _ | finished _ _ _ => simp at hr
  | missing _ hfind => exact absurd hname (Table.not_mem_names_of_find? hfind)
  | abandoned hnew ht hwalk =>
    -- only an object has fields to fail in, so the name is pending from its registration on
    obtain ⟨owner, field, hunsound⟩ := hunsound
    have hkind := hunsound.kind_eq_object ht
    exact hwalk.pending ((pending_register ht hc hnew).mpr (Or.inr ⟨rfl, by simp [hkind]⟩))

/-! ### Visits of known and of missing names -/

/-- A name that was visited is passed over. -/
theorem resolve_of_registered (h : name ∈ c.registered) : c.resolve table name = (c, none) :=
  (Walk.known h).resolve_eq

/-- A name that is not in the table fails, and leaves everything as it is. -/
theorem resolve_of_missing (hc : Consistent table c) (h : name ∉ table.names) :
    c.resolve table name = (c, some (.missing name)) := by
  have hfind : table.find? name = none := by
    rw [Option.eq_none_iff_forall_ne_some]
    exact fun t ht => h (Table.mem_names_of_find? ht)
  refine (Walk.missing (fun hreg => ?_) hfind).resolve_eq
  obtain ⟨t, ht⟩ := hc.registered name hreg
  exact h (Table.mem_names_of_find? ht)

/-! ### Visits after a fault -/

theorem after_append (c : Closure) (names names' : List String) :
    c.after table (names ++ names') = (c.after table names).after table names' := by
  simp [Closure.after]

/-- **What a visit that failed comes to when it is repeated**, at once or after other visits, all
of which may fail as well. After any visits, let the visit of a name fail.

* If the name is not in the table, then each visit of it fails, for that reason, and changes
  nothing.
* If it is in the table, then it is the name of an object, and each later visit of it meets no
  fault and changes nothing, while the object is still not declared. -/
theorem resolve_after_fault {names : List String}
    (h : ((empty.after table names).resolve table name).2 = some fault) (more : List String) :
    (name ∉ table.names → fault = .missing name ∧
      (empty.after table (names ++ name :: more)).resolve table name =
        (empty.after table (names ++ name :: more), some (.missing name))) ∧
    (name ∈ table.names →
      (empty.after table (names ++ name :: more)).resolve table name =
        (empty.after table (names ++ name :: more), none) ∧
      ∃ t, table.find? name = some t ∧ t.kind = .object ∧
        t ∉ (empty.after table (names ++ name :: more)).declared) := by
  have hc : Consistent table (empty.after table names) :=
    (interrupted_empty.after names).toConsistent
  constructor
  · intro hname
    have hlater : Interrupted table (empty.after table (names ++ name :: more)) :=
      interrupted_empty.after _
    refine ⟨?_, resolve_of_missing hlater.toConsistent hname⟩
    rw [resolve_of_missing hc hname] at h
    exact (Option.some.inj h).symm
  · intro hname
    have hwalk := walk_resolve table (empty.after table names) name
    have hpending : Pending table (empty.after table (names ++ name :: more)) name := by
      rw [after_append]
      exact (hwalk.abandons hc h hname).after more
    obtain ⟨hreg, t, ht, -, hdecl⟩ := hpending
    refine ⟨resolve_of_registered hreg, t, ht, ?_, hdecl⟩
    rcases hwalk.blames trivial h with ⟨-, habsent⟩ | ⟨owner, field, hunsound, -⟩
    · exact absurd hname habsent
    · exact hunsound.kind_eq_object ht

theorem resolve_after_fault_mistakenTable :
    ((empty.after mistakenTable ["Page"]).resolve mistakenTable "Filter").2 =
        some (.kindMismatch "Order" "by" .enum "Date" .scalar) ∧
      ((empty.after mistakenTable ["Page", "Filter", "Time", "Order"]).resolve mistakenTable
        "Filter").2 = none ∧
      ((empty.after mistakenTable ["Page"]).resolve mistakenTable "Time").2 =
        some (.missing "Time") ∧
      ((empty.after mistakenTable ["Page", "Time", "Filter"]).resolve mistakenTable "Time").2 =
        some (.missing "Time") := by
  have hfilter : ((empty.after mistakenTable ["Page"]).resolve mistakenTable "Filter").2 =
      some (.kindMismatch "Order" "by" .enum "Date" .scalar) := rfl
  have htime : ((empty.after mistakenTable ["Page"]).resolve mistakenTable "Time").2 =
      some (.missing "Time") := rfl
  refine ⟨hfilter, ?_, htime, ?_⟩
  · have hlater := (resolve_after_fault hfilter ["Time", "Order"]).2 (by decide)
    exact congrArg Prod.snd hlater.1
  · have hlater := (resolve_after_fault htime ["Filter"]).1 (by decide)
    exact congrArg Prod.snd hlater.2

/-- **A failed visit is not always a failed one when it is repeated**, though the type is not
declared. -/
theorem resolve_forgets_mistakenTable :
    (empty.resolve mistakenTable "Filter").2 ≠ none ∧
      ((empty.resolve mistakenTable "Filter").1.resolve mistakenTable "Filter").2 = none ∧
      "Filter" ∈ mistakenTable.names ∧
      "Filter" ∉ ((empty.resolve mistakenTable "Filter").1.resolve mistakenTable
        "Filter").1.declared.map (·.name) := by
  decide

end Closure

end OperationCatalog.Metadata
