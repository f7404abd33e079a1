import OperationCatalog.Proofs.Metadata.Fault

/-!
# What failed visits leave

A visit that fails stops in the middle: the names on the way to its fault are registered, and their
types are not declared. A later visit skips these names, so they stay as they are. This file
describes every closure that visits can lead to, the failed ones included
(`OperationCatalog.Metadata.Closure.after_invariant`).

The half-finished names are the pending ones. A visit without a fault leaves pending what was
pending before it, and a visit with one adds the names that it has abandoned. From each of these an
unsound field can be reached – the one that stopped the visit. That is the invariant
`OperationCatalog.Metadata.Closure.Interrupted`: one walk keeps it
(`OperationCatalog.Metadata.Closure.Walk.interrupted`), so any number of visits does.
-/

namespace OperationCatalog.Metadata

namespace Table

variable {table : Table} {name owner : String} {field : Field} {t : InputType}

/-- A type that has an unsound field below it is an object. -/
theorem ReachesUnsound.kind_eq_object (h : table.ReachesUnsound name owner field)
    (ht : table.find? name = some t) : t.kind = .object := by
  have hkind : ∀ f ∈ t.fields, t.kind = .object := fun f hf => by
    obtain ⟨_, _, _ | _ | _⟩ := t <;> simp_all [InputType.kind, TypeShape.kind, InputType.fields]
  -- it is the owner itself, or it has a field that refers to another type
  obtain rfl | ⟨_, ⟨u, hu, f, hf, -⟩, -⟩ := h.reaches.cases_head
  · obtain ⟨u, hu, hfield⟩ := h.mem
    obtain rfl : t = u := Option.some.inj (ht.symm.trans hu)
    exact hkind field hfield
  · obtain rfl : t = u := Option.some.inj (ht.symm.trans hu)
    exact hkind f hf

end Table

namespace Closure

variable {table : Table} {c c' : Closure} {errand : Errand} {r : Visited} {n name : String}
  {t : InputType}

/-! ### One walk -/

theorem prefix_declare (c : Closure) (t : InputType) : c.declared <+: (c.declare t).declared := by
  rw [declared_declare]
  split
  · exact List.prefix_refl _
  · exact List.prefix_append _ _

/-- **A walk takes no declaration back**, and it declares after what is declared. -/
theorem Walk.prefix_declared (h : Walk table c errand r) : c.declared <+: r.1.declared := by
  induction h with
  | known _ | missing _ _ | done | refused _ => exact List.prefix_refl _
  | finished _ _ _ ih => exact ih.trans (prefix_declare _ _)
  | abandoned _ _ _ ih => exact ih
  | passed _ _ _ ih => exact ih
  | followed _ _ _ _ ih ih' => exact ih.trans ih'
  | stopped _ _ _ ih => exact ih

/-- **What a walk leaves pending** was pending before it, or an unsound field can be reached from
it. -/
theorem Walk.pending_or_unsound (h : Walk table c errand r) (he : errand.Proper table)
    (hc : Consistent table c) (hp : Pending table r.1 n) :
    Pending table c n ∨ ∃ owner field, table.ReachesUnsound n owner field := by
  induction h with
  | known _ | missing _ _ | done | refused _ => exact Or.inl hp
  | finished hnew ht hwalk _ => exact Or.inl (((hwalk.finished hnew ht).pending_iff rfl hc).mp hp)
  | abandoned hnew ht hwalk ih =>
    rcases ih (Errand.proper_fields ht) (hc.register ht) hp with hp | hunsound
    · rcases (pending_register ht hc hnew).mp hp with hp | ⟨rfl, -⟩
      · exact Or.inl hp
      · -- the name that is abandoned is the one above the fault
        rcases hwalk.blames (Errand.proper_fields ht) rfl with ⟨-, habsent⟩ |
          ⟨owner, field, hunsound, -⟩
        · exact absurd (Table.mem_names_of_find? ht) habsent
        · exact Or.inr ⟨owner, field, hunsound⟩
    · exact Or.inr hunsound
  | passed _ _ _ ih => exact ih he.tail hc hp
  | followed _ _ hfirst _ _ ih' =>
    -- the visit of the field met no fault, so it has finished what it started
    exact (ih' he.tail (hfirst.consistent hc) hp).imp_left (hfirst.pending_iff rfl hc).mp
  | stopped _ _ _ ih => exact ih trivial hc hp

/-- **A closure between two visits**, whether or not they met a fault: it is consistent, and what
is pending in it is above an unsound field. -/
structure Interrupted (table : Table) (c : Closure) : Prop extends Consistent table c where
  /-- From a pending name, an unsound field can be reached. -/
  unsound : ∀ name, Pending table c name → ∃ owner field, table.ReachesUnsound name owner field

theorem interrupted_empty : Interrupted table empty :=
  ⟨consistent_empty, fun _ hp => absurd hp not_pending_empty⟩

theorem Walk.interrupted (h : Walk table c errand r) (he : errand.Proper table)
    (hc : Interrupted table c) : Interrupted table r.1 :=
  ⟨h.consistent hc.toConsistent, fun name hp =>
    (h.pending_or_unsound he hc.toConsistent hp).elim (hc.unsound name) id⟩

namespace Interrupted

/-- Registered types that are no scalars are declared, or they are above an unsound field. -/
theorem declared_or_unsound (h : Interrupted table c) (hreg : n ∈ c.registered)
    (ht : table.find? n = some t) (hkind : t.kind ≠ .scalar) :
    t ∈ c.declared ∨ ∃ owner field, table.ReachesUnsound n owner field := by
  by_cases hdecl : t ∈ c.declared
  · exact Or.inl hdecl
  · exact Or.inr (h.unsound n ⟨hreg, t, ht, hkind, hdecl⟩)

/-- **A registered enumeration is declared**: nothing is below it. -/
theorem declared_of_enum (h : Interrupted table c) (hreg : n ∈ c.registered)
    (ht : table.find? n = some t) (hkind : t.kind = .enum) : t ∈ c.declared := by
  rcases h.declared_or_unsound hreg ht (by simp [hkind]) with hdecl | ⟨owner, field, hunsound⟩
  · exact hdecl
  · exact absurd (hkind.symm.trans (hunsound.kind_eq_object ht)) (by simp)

end Interrupted

/-! ### Any number of visits -/

/-- **What is collected after visits**, whether or not they meet faults. -/
def after (table : Table) (c : Closure) (names : List String) : Closure :=
  names.foldl (fun c name => (c.resolve table name).1) c

theorem after_concat (c : Closure) (names : List String) (name : String) :
    c.after table (names ++ [name]) = ((c.after table names).resolve table name).1 := by
  simp [after]

/-- Without a fault, visits are not cut off. -/
theorem after_of_resolveAll {names : List String} (h : c.resolveAll table names = (c', none)) :
    c.after table names = c' := by
  induction names generalizing c with
  | nil => exact (Prod.mk.inj h).1
  | cons name names ih => exact ih (resolveAll_cons h).2

theorem Interrupted.after (h : Interrupted table c) (names : List String) :
    Interrupted table (c.after table names) := by
  induction names generalizing c with
  | nil => exact h
  | cons name names ih => exact ih ((walk_resolve table c name).interrupted trivial h)

/-- **What visits leave**, whether or not they meet faults. After any number of them,

* one more visit adds declarations after those that are there, and takes none back;
* no name is declared twice;
* what is declared is the entry of a registered name, and what is registered is in the table;
* a registered enumeration is declared;
* a registered object that is not declared is one from which an unsound field can be reached, of
  the object itself or of another one;
* as long as no visit has met a fault, every registered enumeration and object is declared. -/
theorem after_invariant (table : Table) (names : List String) :
    (∀ name, (empty.after table names).declared <+:
        (empty.after table (names ++ [name])).declared) ∧
      ((empty.after table names).declared.map (·.name)).Nodup ∧
      (∀ t ∈ (empty.after table names).declared,
        t.name ∈ (empty.after table names).registered ∧ table.find? t.name = some t) ∧
      (∀ n ∈ (empty.after table names).registered, n ∈ table.names) ∧
      (∀ n ∈ (empty.after table names).registered, ∀ t, table.find? n = some t →
        (t.kind = .enum → t ∈ (empty.after table names).declared) ∧
        (t.kind = .object → t ∉ (empty.after table names).declared →
          ∃ owner field, table.ReachesUnsound n owner field)) ∧
      ((empty.resolveAll table names).2 = none →
        ∀ n ∈ (empty.after table names).registered, ∀ t, table.find? n = some t →
          t.kind ≠ .scalar → t ∈ (empty.after table names).declared) := by
  have h : Interrupted table (empty.after table names) := interrupted_empty.after names
  refine ⟨fun name => ?_, h.distinct, fun t ht => ?_, fun n hreg => ?_, fun n hreg t ht => ?_,
    fun hnone n hreg t ht hkind => ?_⟩
  · rw [after_concat]
    exact (walk_resolve table _ name).prefix_declared
  · obtain ⟨hreg, hfind, -⟩ := h.declared t ht
    exact ⟨hreg, hfind⟩
  · obtain ⟨t, ht⟩ := h.registered n hreg
    exact Table.mem_names_of_find? ht
  · refine ⟨h.declared_of_enum hreg ht, fun hkind hdecl => ?_⟩
    exact (h.declared_or_unsound hreg ht (by simp [hkind])).resolve_left hdecl
  · obtain ⟨c, hc⟩ : ∃ c, empty.resolveAll table names = (c, none) :=
      ⟨_, Prod.ext rfl hnone⟩
    rw [after_of_resolveAll hc] at hreg ⊢
    refine (settled_empty.resolveAll hc).mem_declared_iff.mpr ?_
    obtain rfl := Table.name_of_find? ht
    exact ⟨hreg, ht, hkind⟩

/-- A visit that failed leaves the names on its way registered, and the visits after it do not
declare them. -/
theorem after_mistakenTable :
    (empty.after mistakenTable ["Filter", "Sort", "Filter", "Page"]).registered =
        ["Filter", "Sort", "Order", "Page"] ∧
      (empty.after mistakenTable ["Filter", "Sort", "Filter", "Page"]).declared.map (·.name) =
        ["Sort", "Page"] ∧
      (∃ owner field, mistakenTable.ReachesUnsound "Order" owner field) ∧
      (empty.resolveAll mistakenTable ["Page", "Date"]).2 = none ∧
      ∃ t, mistakenTable.find? "Page" = some t ∧
        t ∈ (empty.after mistakenTable ["Page", "Date"]).declared := by
  refine ⟨by decide, by decide, ?_, rfl, _, rfl, ?_⟩
  · refine ((after_invariant mistakenTable ["Filter", "Sort", "Filter", "Page"]).2.2.2.2.1 "Order"
      (by decide) _ rfl).2 rfl fun hdecl => ?_
    exact absurd (List.mem_map_of_mem (f := (·.name)) hdecl) (by decide)
  · exact (after_invariant mistakenTable ["Page", "Date"]).2.2.2.2.2 rfl "Page" (by decide) _ rfl
      (by decide)

end Closure

end OperationCatalog.Metadata
