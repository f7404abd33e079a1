import OperationCatalog.Proofs.Metadata.Reach

/-!
# Tables that agree

What a closure collects depends on the entries of some names only. They are the visited names and
what is reached from them when a type leads to the types of its fields – all of them but those
that a field itself says are scalars, for these are never looked up
(`OperationCatalog.Metadata.FieldShape.looksUp`).

Where two tables agree on a set of names that is closed in this sense
(`OperationCatalog.Metadata.Table.ClosedUnderFields`), visiting a name of the set does the same in
both, faults included (`OperationCatalog.Metadata.Closure.resolve_congr`). The walk in one table is
carried over to the other rule by rule, and there it is the visit, too
(`OperationCatalog.Metadata.Closure.Walk.resolve_eq`), though the two visits need not have the same
depth.
-/

namespace OperationCatalog.Metadata

/-- Whether a field of this shape has its type looked up: not if it says that it is a scalar. -/
def FieldShape.looksUp : FieldShape → Bool
  | one kind => kind != .scalar
  | list stated _ => stated != some .scalar

namespace Table

/-- **Two tables agree** on some names: each has the same entry in both, or none in either. -/
def AgreeOn (names : String → Prop) (table other : Table) : Prop :=
  ∀ name, names name → other.find? name = table.find? name

/-- **A set of names that is closed under fields**: with an object, it has the types of the fields
that have them looked up. -/
def ClosedUnderFields (table : Table) (names : String → Prop) : Prop :=
  ∀ owner t, names owner → table.find? owner = some t →
    ∀ field ∈ t.fields, field.shape.looksUp = true → names field.type

variable {table other : Table} {names : String → Prop} {field : Field}

/-- A field that takes its type to be no scalar has it looked up. -/
theorem looksUp_of_claimedKind? {kind : TypeKind} (h : table.claimedKind? field = some kind)
    (hne : kind ≠ .scalar) : field.shape.looksUp = true := by
  unfold claimedKind? at h
  rcases hshape : field.shape with kind' | ⟨_ | kind', allowsEmpty⟩
  · rw [hshape] at h
    obtain rfl := Option.some.inj h
    simpa [FieldShape.looksUp] using hne
  · rfl
  · rw [hshape] at h
    obtain rfl := Option.some.inj h
    simpa [FieldShape.looksUp] using hne

/-- What a type of the set refers to is in the set. -/
theorem ClosedUnderFields.refers (h : table.ClosedUnderFields names) {a b : String} (ha : names a)
    (href : table.Refers a b) : names b := by
  obtain ⟨t, ht, field, hf, rfl, kind, hkind, hne⟩ := href
  exact h a t ha ht field hf (looksUp_of_claimedKind? hkind hne)

theorem ClosedUnderFields.reaches (h : table.ClosedUnderFields names) {a b : String}
    (ha : names a) (hreach : table.Reaches a b) : names b := by
  induction hreach with
  | refl => exact ha
  | tail _ href ih => exact h.refers ih href

/-- The kind that a field takes its type to be of is the same in two tables with the same entry of
the type, or without a look at it. -/
theorem claimedKind?_congr
    (h : field.shape.looksUp = true → other.find? field.type = table.find? field.type) :
    other.claimedKind? field = table.claimedKind? field := by
  unfold claimedKind?
  rcases hshape : field.shape with kind | ⟨_ | kind, allowsEmpty⟩
  · rfl
  · rw [hshape] at h
    simp only [itemKind?, h rfl]
  · rfl

end Table

namespace Closure

variable {table other : Table} {names : String → Prop} {field : Field} {c : Closure}
  {errand : Errand} {r : Visited} {owner name : String}

theorem needed_congr
    (h : field.shape.looksUp = true → other.find? field.type = table.find? field.type) :
    needed other owner field = needed table owner field := by
  have hclaimed := Table.claimedKind?_congr h
  rcases hkind : table.claimedKind? field with _ | kind
  · simp [needed, hclaimed, hkind]
  · by_cases hne : kind = .scalar
    · simp [needed, hclaimed, hkind, hne]
    · rw [needed_of_claimedKind? hkind hne, needed_of_claimedKind? (hclaimed.trans hkind) hne,
        h (Table.looksUp_of_claimedKind? hkind hne)]

/-- What the first field of a proper errand needs is the same in tables that agree. -/
theorem Errand.Proper.needed_congr {rest : List Field}
    (he : (Errand.fields owner (field :: rest)).Proper table)
    (hclosed : table.ClosedUnderFields names) (hagree : table.AgreeOn names other)
    (howner : names owner) : needed other owner field = needed table owner field := by
  obtain ⟨t, ht, hsub⟩ := he
  refine Closure.needed_congr fun hlooks => hagree _ ?_
  exact hclosed owner t howner ht field (hsub List.mem_cons_self) hlooks

/-- **A walk that starts in a closed set of names** is a walk in every table that agrees on it. -/
theorem Walk.congr (h : Walk table c errand r) (hclosed : table.ClosedUnderFields names)
    (hagree : table.AgreeOn names other) (he : errand.Proper table)
    (hsource : names errand.source) : Walk other c errand r := by
  induction h with
  | known hreg => exact .known hreg
  | missing hnew ht => exact .missing hnew ((hagree _ hsource).trans ht)
  | finished hnew ht _ ih =>
    exact .finished hnew ((hagree _ hsource).trans ht) (ih (Errand.proper_fields ht) hsource)
  | abandoned hnew ht _ ih =>
    exact .abandoned hnew ((hagree _ hsource).trans ht) (ih (Errand.proper_fields ht) hsource)
  | done => exact .done
  | refused hneed => exact .refused ((he.needed_congr hclosed hagree hsource).trans hneed)
  | passed hneed hnone _ ih =>
    exact .passed ((he.needed_congr hclosed hagree hsource).trans hneed) hnone (ih he.tail hsource)
  | followed hneed hne _ _ ih ih' =>
    have hname := hclosed.refers hsource (he.refers hneed)
    exact .followed ((he.needed_congr hclosed hagree hsource).trans hneed) hne (ih trivial hname)
      (ih' he.tail hsource)
  | stopped hneed hne _ ih =>
    have hname := hclosed.refers hsource (he.refers hneed)
    exact .stopped ((he.needed_congr hclosed hagree hsource).trans hneed) hne (ih trivial hname)

/-! ### Visits -/

/-- **A visit is the same in tables that agree.** -/
theorem resolve_congr (hclosed : table.ClosedUnderFields names)
    (hagree : table.AgreeOn names other) (hname : names name) :
    c.resolve other name = c.resolve table name :=
  ((walk_resolve table c name).congr hclosed hagree trivial hname).resolve_eq

/-- Several visits are the same in tables that agree. -/
theorem resolveAll_congr {visited : List String} (hclosed : table.ClosedUnderFields names)
    (hagree : table.AgreeOn names other) (hvisited : ∀ name ∈ visited, names name) :
    c.resolveAll other visited = c.resolveAll table visited := by
  induction visited generalizing c with
  | nil => rfl
  | cons name rest ih =>
    obtain ⟨hname, hrest⟩ := List.forall_mem_cons.mp hvisited
    rw [resolveAll, resolveAll, resolve_congr hclosed hagree hname]
    rcases c.resolve table name with ⟨c', _ | fault⟩
    · exact ih hrest
    · rfl

/-- Visits of names in a closed set register names in the set only. -/
theorem registered_of_resolveAll {visited : List String} (hclosed : table.ClosedUnderFields names)
    (hc : ∀ n ∈ c.registered, names n) (hvisited : ∀ name ∈ visited, names name) :
    ∀ n ∈ (c.resolveAll table visited).1.registered, names n := by
  induction visited generalizing c with
  | nil => exact hc
  | cons name rest ih =>
    obtain ⟨hname, hrest⟩ := List.forall_mem_cons.mp hvisited
    have hfirst : ∀ n ∈ (c.resolve table name).1.registered, names n := fun n hn => by
      rcases (walk_resolve table c name).reaches trivial hn with hn | hreach
      · exact hc n hn
      · exact hclosed.reaches hname hreach
    rw [resolveAll]
    rcases hr : c.resolve table name with ⟨c', _ | fault⟩
    · rw [hr] at hfirst
      exact ih hfirst hrest
    · rw [hr] at hfirst
      exact hfirst

end Closure

end OperationCatalog.Metadata
