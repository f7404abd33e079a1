import OperationCatalog.Proofs.Metadata.Reach

/-!
# Visiting what was collected

What a settled closure holds can be collected again, from anywhere in it and in any order: such a
visit meets no fault, since every registered name is without one, and it does not leave the closure,
since all that is needed there is registered
(`OperationCatalog.Metadata.Closure.Walk.within`). So two runs of visits to the same names meet
faults or not together, and collect the same
(`OperationCatalog.Metadata.Closure.resolveAll_of_same_names`) – though a name may be visited from
very different places in the two, and be passed over in one where the other visits it.

Nothing is said here about types without a name. They are not followed from a field, but they can
be visited, and it makes no difference.
-/

namespace OperationCatalog.Metadata

namespace Closure

variable {table : Table} {s c c' : Closure} {errand : Errand} {r : Visited} {name : String}

/-- The fields of a registered name are an errand that a settled closure has met. -/
theorem Settled.met_fields (h : Settled table s) (hname : name ∈ s.registered) {t : InputType}
    (ht : table.find? name = some t) : (Errand.fields name t.fields).Met table s := by
  obtain ⟨u, hu, hmet⟩ := h.closed name hname (h.finished name)
  obtain rfl : t = u := Option.some.inj (ht.symm.trans hu)
  exact hmet

/-- **A walk on an errand that a settled closure has met** meets no fault, and stays within the
closure. -/
theorem Walk.within (h : Walk table c errand r) (hs : Settled table s)
    (hmet : errand.Met table s) (hc : c.registered ⊆ s.registered) :
    r.2 = none ∧ r.1.registered ⊆ s.registered := by
  have hregister {c : Closure} {name : String} (hname : name ∈ s.registered)
      (hc : c.registered ⊆ s.registered) : (c.register name).registered ⊆ s.registered := by
    simpa [hc] using hname
  induction h with
  | known _ | done => exact ⟨rfl, hc⟩
  | missing _ hmissing =>
    obtain ⟨t, ht⟩ := hs.registered _ hmet
    simp [hmissing] at ht
  | finished _ ht _ ih =>
    rw [registered_declare]
    exact ih (hs.met_fields hmet ht) (hregister hmet hc)
  | abandoned _ ht _ ih =>
    have hfault := (ih (hs.met_fields hmet ht) (hregister hmet hc)).1
    simp at hfault
  | refused hrefused =>
    obtain ⟨need, hneed, -⟩ := hmet _ List.mem_cons_self
    simp [hrefused] at hneed
  | passed _ _ _ ih => exact ih (fun f hf => hmet f (List.mem_cons_of_mem _ hf)) hc
  | followed hneed hnamed _ _ ih ih' =>
    obtain ⟨need, hneed', hreg⟩ := hmet _ List.mem_cons_self
    obtain rfl := Except.ok.inj (hneed.symm.trans hneed')
    exact ih' (fun f hf => hmet f (List.mem_cons_of_mem _ hf)) (ih (hreg _ rfl hnamed) hc).2
  | stopped hneed hnamed _ ih =>
    obtain ⟨need, hneed', hreg⟩ := hmet _ List.mem_cons_self
    obtain rfl := Except.ok.inj (hneed.symm.trans hneed')
    have hfault := (ih (hreg _ rfl hnamed) hc).1
    simp at hfault

/-- **Names that a settled closure holds** can be collected within it. -/
theorem Settled.resolveAll_within (c : Closure) (names : List String) (hs : Settled table s)
    (hnames : ∀ n ∈ names, n ∈ s.registered) (hc : c.registered ⊆ s.registered) :
    ∃ c', c.resolveAll table names = (c', none) ∧ c'.registered ⊆ s.registered := by
  induction names generalizing c with
  | nil => exact ⟨c, rfl, hc⟩
  | cons name names ih =>
    obtain ⟨hname, hnames⟩ := List.forall_mem_cons.mp hnames
    obtain ⟨hfault, hwithin⟩ := (walk_resolve table c name).within hs hname hc
    obtain ⟨c', hr, hc'⟩ := ih _ hnames hwithin
    refine ⟨c', ?_, hc'⟩
    rw [Closure.resolveAll]
    rcases hfirst : c.resolve table name with ⟨c₁, _ | fault⟩
    · rw [hfirst] at hr
      exact hr
    · simp [hfirst] at hfault

/-- **Visiting the same names** in another order, or more than once, meets no fault either and
collects the same. -/
theorem resolveAll_of_same_names {names names' : List String}
    (hsame : ∀ n, n ∈ names' ↔ n ∈ names) (hr : empty.resolveAll table names = (c, none)) :
    ∃ c', empty.resolveAll table names' = (c', none) ∧ c'.declared.Perm c.declared := by
  have hs := settled_empty.resolveAll hr
  obtain ⟨c', hr', hsub⟩ := hs.resolveAll_within empty names'
    (fun n hn => mem_registered_of_resolveAll hr (Or.inr ((hsame n).mp hn))) (by simp [empty])
  -- the other way round, the first names are collected within the second closure
  have hs' := settled_empty.resolveAll hr'
  obtain ⟨c'', hr'', hsub'⟩ := hs'.resolveAll_within empty names
    (fun n hn => mem_registered_of_resolveAll hr' (Or.inr ((hsame n).mpr hn))) (by simp [empty])
  obtain rfl : c'' = c := (Prod.mk.inj (hr''.symm.trans hr)).1
  exact ⟨c', hr', hs.declared_perm hs' fun n => ⟨fun h => hsub h, fun h => hsub' h⟩⟩

end Closure

end OperationCatalog.Metadata
