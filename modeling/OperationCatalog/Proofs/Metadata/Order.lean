import OperationCatalog.Proofs.Metadata.Reach

/-!
# The order of declarations

A closure declares a type after the types that it refers to, wherever that is possible. It is not
possible on a cycle, and this file proves that nothing but a cycle is an excuse
(`OperationCatalog.Metadata.Closure.resolveAll_declares_in_order`): a type that is not declared
before one that refers to it reaches the latter by references itself.

The excuse can only arise where a field needs a name that is registered and not declared, that is
a **pending** one. So the invariant is about the names that are pending while something is visited:
*each of them reaches what is visited.* They are the types whose fields are being gone through,
from the first visited name down to the present one. When a field needs one of them, its reference
closes a cycle.
-/

namespace OperationCatalog.Metadata

namespace Closure

variable {table : Table} {c c' : Closure} {errand : Errand} {r : Visited} {name n : String}
  {t : InputType}

/-- **Declared in order**: what a declared type refers to is declared before it, or reaches it. -/
def Ordered (table : Table) (declared : List InputType) : Prop :=
  ∀ before d after, declared = before ++ d :: after →
    ∀ n, table.Refers d.name n → n ∈ before.map (·.name) ∨ table.Reaches n d.name

theorem ordered_nil : Ordered table [] := fun before d after h => by simp at h

/-- A type may be declared next, if what it refers to is declared, or reaches it. -/
theorem Ordered.concat {declared : List InputType} (h : Ordered table declared)
    (ht : ∀ n, table.Refers t.name n → n ∈ declared.map (·.name) ∨ table.Reaches n t.name) :
    Ordered table (declared ++ [t]) := by
  intro before d after hsplit
  -- the declared type in question is the new one or one of the others
  rcases List.eq_nil_or_concat after with rfl | ⟨after, u, rfl⟩
  · obtain ⟨rfl, hd⟩ := List.append_inj' hsplit rfl
    obtain rfl : t = d := by simpa using hd
    exact ht
  · have hsplit' : declared ++ [t] = (before ++ d :: after) ++ [u] := by simpa using hsplit
    obtain ⟨hinit, -⟩ := List.append_inj' hsplit' rfl
    exact h before d after hinit

/-- What a met errand refers to is declared or pending. -/
theorem Errand.Met.declared_or_pending (unnamed : "" ∉ table.names)
    (h : (Errand.fields name t.fields).Met table c) (ht : table.find? name = some t)
    (href : table.Refers name n) : n ∈ c.declared.map (·.name) ∨ Pending table c n := by
  have hreg := h.mem_registered unnamed ht href
  obtain ⟨t', ht', field, hf, rfl, kind, hkind, hne⟩ := href
  obtain rfl : t = t' := Option.some.inj (ht.symm.trans ht')
  obtain ⟨need, hneed, -⟩ := h field hf
  rcases need with _ | m
  · rw [needed_eq_none_iff, hkind] at hneed
    exact absurd (Option.some.inj hneed) hne
  · obtain ⟨rfl, kind', hkind', hne', u, hu, rfl⟩ := needed_eq_some_iff.mp hneed
    by_cases hdecl : u ∈ c.declared
    · exact Or.inl (List.mem_map.mpr ⟨u, hdecl, Table.name_of_find? hu⟩)
    · exact Or.inr ⟨hreg, u, hu, hne', hdecl⟩

/-- **A walk without a fault declares in order**, if all that is pending before it reaches what it
visits. -/
theorem Walk.ordered (h : Walk table c errand r) (unnamed : "" ∉ table.names) (hr : r.2 = none)
    (he : errand.Proper table) (hc : Consistent table c)
    (hp : ∀ n, Pending table c n → table.Reaches n errand.source)
    (ho : Ordered table c.declared) : Ordered table r.1.declared := by
  induction h with
  | known _ | done => exact ho
  | missing _ _ | abandoned _ _ _ _ | refused _ | stopped _ _ _ _ => simp at hr
  | @finished c c' name t hnew ht hwalk ih =>
    have hc' := hc.register ht
    -- the name itself is pending now, and it reaches itself
    have hp' : ∀ n, Pending table (c.register name) n → table.Reaches n name := fun n hn => by
      rcases (pending_register ht hc hnew).mp hn with hn | ⟨rfl, -⟩
      · exact hp n hn
      · exact .refl
    have ho' : Ordered table c'.declared := ih rfl (Errand.proper_fields ht) hc' hp' ho
    rw [declared_declare]
    split
    · exact ho'
    · refine ho'.concat fun n href => ?_
      rw [Table.name_of_find? ht] at href ⊢
      refine ((hwalk.met rfl).declared_or_pending unnamed ht href).imp_right fun hn => ?_
      exact hp' n ((hwalk.pending_iff rfl hc').mp hn)
  | passed _ _ _ ih => exact ih hr he.tail hc hp ho
  | followed hneed _ hfirst _ ih ih' =>
    refine ih' hr he.tail (hfirst.consistent hc) (fun n hn => ?_) ?_
    · exact hp n ((hfirst.pending_iff rfl hc).mp hn)
    · exact ih rfl trivial hc (fun n hn => (hp n hn).tail (he.refers hneed)) ho

/-- **A run of visits without a fault declares in order.** -/
theorem Settled.ordered {names : List String} (h : Settled table c) (unnamed : "" ∉ table.names)
    (hr : c.resolveAll table names = (c', none)) (ho : Ordered table c.declared) :
    Ordered table c'.declared := by
  induction names generalizing c with
  | nil =>
    obtain ⟨rfl, -⟩ := Prod.mk.inj hr
    exact ho
  | cons name names ih =>
    obtain ⟨hfirst, hrest⟩ := resolveAll_cons hr
    refine ih (h.resolve hfirst) hrest ?_
    exact (walk_resolve table c name).ordered unnamed hfirst trivial h.toConsistent
      (fun n hn => absurd hn (h.finished n)) ho

/-- **What a declared type refers to is declared before it, or there is a cycle.** After visits
without a fault, in a table in which every type has a name, a type that a declared type refers to
is declared strictly before it, or it reaches the declared type by references itself. So where no
type reaches itself, each type is declared after all that it refers to. -/
theorem resolveAll_declares_in_order {names : List String} (unnamed : "" ∉ table.names)
    (hr : empty.resolveAll table names = (c, none)) :
    (∀ before d after, c.declared = before ++ d :: after → ∀ n, table.Refers d.name n →
        n ∈ before.map (·.name) ∨ table.Reaches n d.name) ∧
      ((∀ n, ¬Relation.TransGen table.Refers n n) →
        ∀ before d after, c.declared = before ++ d :: after → ∀ n, table.Refers d.name n →
          n ∈ before.map (·.name)) := by
  have ho : Ordered table c.declared := settled_empty.ordered unnamed hr ordered_nil
  refine ⟨ho, fun hacyclic before d after hsplit n href => ?_⟩
  refine (ho before d after hsplit n href).resolve_right fun hreach => ?_
  exact hacyclic d.name (.head' href hreach)

theorem resolveAll_orders_loopedTable :
    "" ∉ loopedTable.names ∧ ∃ c, empty.resolveAll loopedTable ["Order"] = (c, none) ∧
      c.declared.map (·.name) = ["Direction", "Filter", "Order"] ∧
      ∀ before d after, c.declared = before ++ d :: after → ∀ n, loopedTable.Refers d.name n →
        n ∈ before.map (·.name) ∨ loopedTable.Reaches n d.name := by
  refine ⟨by decide, _, rfl, rfl, ?_⟩
  have hr : empty.resolveAll loopedTable ["Order"] = (_, none) := rfl
  exact (resolveAll_declares_in_order (by decide) hr).1

end Closure

end OperationCatalog.Metadata
