import Mathlib.Data.List.Nodup
import Mathlib.Logic.Relation
import OperationCatalog.Proofs.Metadata.Walk

/-!
# What a closure collects

A type refers to the types that its fields take to be enumerations or objects
(`OperationCatalog.Metadata.Table.Refers`), and what can be reached from some names is what a
closure of these names has to hold. This file proves that it holds exactly that
(`OperationCatalog.Metadata.Closure.resolveAll_collects_reachable`).

The difficulty is that a name is registered *before* the types of its fields are visited, so a
registered name need not be finished. What carries the proof is the set of names in between:

* **Pending** (`OperationCatalog.Metadata.Closure.Pending`) is an enumeration or object that is
  registered and not declared yet. A walk without a fault leaves exactly the names pending that were
  pending before it (`OperationCatalog.Metadata.Closure.Walk.pending_iff`): whatever it starts it
  finishes.
* **Closed** (`OperationCatalog.Metadata.Closure.Closed`) is a closure in which all that the
  *other* registered names need is registered. Walks keep that.

Nothing is pending where no visit is going on. There a closed closure is closed under references,
and so it holds what can be reached.
-/

namespace OperationCatalog.Metadata

/-! ### References -/

namespace Table

/-- **A type refers to another**: one of its fields takes the other to be an enumeration or an
object, or to be one of the items of its list. -/
def Refers (table : Table) (a b : String) : Prop :=
  ∃ t, table.find? a = some t ∧ ∃ field ∈ t.fields, field.type = b ∧
    ∃ kind, table.claimedKind? field = some kind ∧ kind ≠ .scalar

/-- What can be reached from a type by references, the type itself included. -/
abbrev Reaches (table : Table) : String → String → Prop := Relation.ReflTransGen table.Refers

/-- **A type without fault**: it is in the table, and its fields are right about their types. -/
def Faultless (table : Table) (name : String) : Prop :=
  ∃ t, table.find? name = some t ∧
    ∀ field ∈ t.fields, ∃ need, Closure.needed table name field = .ok need

variable {table : Table} {name : String} {t : InputType}

theorem refers_of_needed {owner : String} {field : Field} (ht : table.find? owner = some t)
    (hf : field ∈ t.fields) (hn : Closure.needed table owner field = .ok (some name)) :
    table.Refers owner name := by
  obtain ⟨htype, kind, hkind, hne, -⟩ := Closure.needed_eq_some_iff.mp hn
  exact ⟨t, ht, field, hf, htype, kind, hkind, hne⟩

theorem fields_eq_nil_of_scalar (h : t.kind = .scalar) : t.fields = [] := by
  obtain ⟨_, _, _ | _ | _⟩ := t <;> simp_all [InputType.kind, TypeShape.kind, InputType.fields]

/-- What a type without fault refers to is in the table. -/
theorem Faultless.mem_names_of_refers {other : String} (h : table.Faultless name)
    (href : table.Refers name other) : other ∈ table.names := by
  obtain ⟨t, ht, field, hfield, rfl, kind, hkind, hne⟩ := href
  obtain ⟨t', ht', hall⟩ := h
  obtain rfl : t = t' := Option.some.inj (ht.symm.trans ht')
  obtain ⟨need, hneed⟩ := hall field hfield
  rcases need with _ | m
  · rw [Closure.needed_eq_none_iff, hkind] at hneed
    exact absurd (Option.some.inj hneed) hne
  · obtain ⟨rfl, -, -, -, u, hu, -⟩ := Closure.needed_eq_some_iff.mp hneed
    exact mem_names_of_find? hu

/-- **What is reached in a table without fault** is in the table. -/
theorem mem_names_of_reaches {other : String} (h : ∀ n ∈ table.names, table.Faultless n)
    (hname : name ∈ table.names) (hreach : table.Reaches name other) : other ∈ table.names := by
  induction hreach with
  | refl => exact hname
  | tail _ href ih => exact (h _ ih).mem_names_of_refers href

end Table

namespace Closure

/-! ### Errands -/

/-- **An errand is met**: the name is registered, or the fields are right about their types and
what they need is registered. -/
def Errand.Met (table : Table) (c : Closure) : Errand → Prop
  | .type name => name ∈ c.registered
  | .fields owner list => ∀ field ∈ list, ∃ need, needed table owner field = .ok need ∧
      ∀ name, need = some name → name ≠ "" → name ∈ c.registered

/-- The fields of an errand are fields of their owner. -/
def Errand.Proper (table : Table) : Errand → Prop
  | .type _ => True
  | .fields owner list => ∃ t, table.find? owner = some t ∧ list ⊆ t.fields

variable {table : Table} {c c' : Closure} {errand : Errand} {r : Visited} {name n : String}
  {t : InputType}

theorem Errand.Met.mono (h : errand.Met table c) (hc : c.registered ⊆ c'.registered) :
    errand.Met table c' := by
  cases errand with
  | type name => exact hc h
  | fields owner list =>
    intro field hf
    obtain ⟨need, hneed, hreg⟩ := h field hf
    exact ⟨need, hneed, fun name hn hne => hc (hreg name hn hne)⟩

/-- The fields of a type are an errand of it. -/
theorem Errand.proper_fields (ht : table.find? name = some t) :
    (Errand.fields name t.fields).Proper table :=
  ⟨t, ht, List.Subset.refl _⟩

theorem Errand.Proper.tail {owner : String} {field : Field} {rest : List Field}
    (h : (Errand.fields owner (field :: rest)).Proper table) :
    (Errand.fields owner rest).Proper table := by
  obtain ⟨t, ht, hsub⟩ := h
  exact ⟨t, ht, fun f hf => hsub (List.mem_cons_of_mem _ hf)⟩

/-- What a field of a proper errand needs is referred to. -/
theorem Errand.Proper.refers {owner : String} {field : Field} {rest : List Field}
    (h : (Errand.fields owner (field :: rest)).Proper table)
    (hn : needed table owner field = .ok (some name)) : table.Refers owner name := by
  obtain ⟨t, ht, hsub⟩ := h
  exact Table.refers_of_needed ht (hsub List.mem_cons_self) hn

/-- **A walk without a fault meets its errand.** -/
theorem Walk.met (h : Walk table c errand r) (hr : r.2 = none) : errand.Met table r.1 := by
  induction h with
  | known hreg => exact hreg
  | missing _ _ | abandoned _ _ _ _ | refused _ | stopped _ _ _ _ => simp at hr
  | @finished c c' name t _ _ hwalk _ =>
    change name ∈ (c'.declare t).registered
    rw [registered_declare]
    exact hwalk.prefix_registered.subset (by simp)
  | done => exact fun field hf => by simp at hf
  | passed hneed hnone _ ih =>
    intro field hf
    rcases List.mem_cons.mp hf with rfl | hf
    · exact ⟨_, hneed, fun name hn hne => absurd (by simpa [hn] using hnone) hne⟩
    · exact ih hr field hf
  | followed hneed _ _ hrest ih ih' =>
    intro field hf
    rcases List.mem_cons.mp hf with rfl | hf
    · refine ⟨_, hneed, fun name hn _ => ?_⟩
      obtain rfl := Option.some.inj hn
      exact hrest.prefix_registered.subset (ih rfl)
    · exact ih' hr field hf

/-- What is referred to is in the table, and a met errand registers it if it has a name. -/
theorem Errand.Met.refers (h : (Errand.fields name t.fields).Met table c)
    (ht : table.find? name = some t) (href : table.Refers name n) :
    n ∈ table.names ∧ (n ≠ "" → n ∈ c.registered) := by
  obtain ⟨t', ht', field, hf, rfl, kind, hkind, hne⟩ := href
  obtain rfl : t = t' := Option.some.inj (ht.symm.trans ht')
  obtain ⟨need, hneed, hreg⟩ := h field hf
  rcases need with _ | m
  · rw [needed_eq_none_iff, hkind] at hneed
    exact absurd (Option.some.inj hneed) hne
  · obtain ⟨rfl, -, -, -, u, hu, -⟩ := needed_eq_some_iff.mp hneed
    exact ⟨Table.mem_names_of_find? hu, hreg _ rfl⟩

/-- In a table in which every type has a name, a met errand registers all that is referred to. -/
theorem Errand.Met.mem_registered (unnamed : "" ∉ table.names)
    (h : (Errand.fields name t.fields).Met table c) (ht : table.find? name = some t)
    (href : table.Refers name n) : n ∈ c.registered := by
  obtain ⟨hmem, hreg⟩ := h.refers ht href
  exact hreg fun he => unnamed (he ▸ hmem)

/-! ### Consistent closures -/

/-- **A consistent closure** has registered names of the table, and has declared registered types
of the table that are no scalars, each once. -/
structure Consistent (table : Table) (c : Closure) : Prop where
  /-- What is registered is in the table. -/
  registered : ∀ name ∈ c.registered, ∃ t, table.find? name = some t
  /-- What is declared is the entry of a registered name. -/
  declared : ∀ t ∈ c.declared,
    t.name ∈ c.registered ∧ table.find? t.name = some t ∧ t.kind ≠ .scalar
  /-- No name is declared twice. -/
  distinct : (c.declared.map (·.name)).Nodup

theorem consistent_empty : Consistent table empty :=
  ⟨by simp [empty], by simp [empty], by simp [empty]⟩

theorem Consistent.register (h : Consistent table c) (ht : table.find? name = some t) :
    Consistent table (c.register name) := by
  refine ⟨fun n hn => ?_, fun u hu => ?_, h.distinct⟩
  · rcases List.mem_append.mp hn with hn | hn
    · exact h.registered n hn
    · exact ⟨t, by rwa [List.mem_singleton.mp hn]⟩
  · obtain ⟨hreg, hfind, hkind⟩ := h.declared u hu
    exact ⟨List.mem_append_left _ hreg, hfind, hkind⟩

theorem Consistent.declare (h : Consistent table c) (ht : table.find? name = some t)
    (hreg : name ∈ c.registered) (hnew : name ∉ c.declared.map (·.name)) :
    Consistent table (c.declare t) := by
  obtain rfl := Table.name_of_find? ht
  refine ⟨fun n hn => h.registered n (by simpa using hn), fun u hu => ?_, ?_⟩
  · rw [registered_declare]
    rcases mem_declared_declare.mp hu with hu | ⟨hkind, rfl⟩
    · exact h.declared u hu
    · exact ⟨hreg, ht, hkind⟩
  · rw [declared_declare]
    split
    · exact h.distinct
    · rw [List.map_append, List.nodup_append]
      refine ⟨h.distinct, by simp, fun a ha b hb e => hnew ?_⟩
      simp only [List.map_cons, List.map_nil, List.mem_singleton] at hb
      exact hb ▸ e ▸ ha

/-- A walk declares no name that was registered before it. -/
theorem Walk.mem_declared_of_registered (h : Walk table c errand r) {u : InputType}
    (hu : u ∈ r.1.declared) (hreg : u.name ∈ c.registered) : u ∈ c.declared := by
  induction h with
  | known _ | missing _ _ | done | refused _ => exact hu
  | finished hnew ht _ ih =>
    rcases mem_declared_declare.mp hu with hu | ⟨-, rfl⟩
    · exact ih hu (List.mem_append_left _ hreg)
    · exact absurd (Table.name_of_find? ht ▸ hreg) hnew
  | abandoned _ _ _ ih => exact ih hu (List.mem_append_left _ hreg)
  | passed _ _ _ ih => exact ih hu hreg
  | followed _ _ hfirst _ ih ih' => exact ih (ih' hu (hfirst.prefix_registered.subset hreg)) hreg
  | stopped _ _ _ ih => exact ih hu hreg

/-- **A walk keeps a closure consistent**, with or without a fault. -/
theorem Walk.consistent (h : Walk table c errand r) (hc : Consistent table c) :
    Consistent table r.1 := by
  induction h with
  | known _ | missing _ _ | done | refused _ => exact hc
  | finished hnew ht hwalk ih =>
    have hreg := hwalk.prefix_registered.subset (List.mem_append_right _ List.mem_cons_self)
    refine (ih (hc.register ht)).declare ht hreg fun hmem => ?_
    -- the fields are visited when the name is registered, so they do not declare it
    obtain ⟨u, hu, rfl⟩ := List.mem_map.mp hmem
    have hold := hwalk.mem_declared_of_registered hu (by simp)
    exact hnew (hc.declared u hold).1
  | abandoned _ ht _ ih => exact ih (hc.register ht)
  | passed _ _ _ ih => exact ih hc
  | followed _ _ _ _ ih ih' => exact ih' (ih hc)
  | stopped _ _ _ ih => exact ih hc

/-! ### Pending names -/

/-- **A pending name**: it is registered, it is no scalar, and it is not declared yet. -/
def Pending (table : Table) (c : Closure) (name : String) : Prop :=
  name ∈ c.registered ∧ ∃ t, table.find? name = some t ∧ t.kind ≠ .scalar ∧ t ∉ c.declared

theorem not_pending_empty : ¬Pending table empty n := fun h => by
  simpa [empty] using h.1

theorem pending_register (ht : table.find? name = some t) (hc : Consistent table c)
    (hnew : name ∉ c.registered) :
    Pending table (c.register name) n ↔ Pending table c n ∨ (n = name ∧ t.kind ≠ .scalar) := by
  constructor
  · rintro ⟨hreg, u, hu, hkind, hdecl⟩
    rcases List.mem_append.mp hreg with hreg | hreg
    · exact Or.inl ⟨hreg, u, hu, hkind, hdecl⟩
    · obtain rfl := List.mem_singleton.mp hreg
      obtain rfl : t = u := Option.some.inj (ht.symm.trans hu)
      exact Or.inr ⟨rfl, hkind⟩
  · rintro (⟨hreg, hrest⟩ | ⟨rfl, hkind⟩)
    · exact ⟨List.mem_append_left _ hreg, hrest⟩
    · refine ⟨by simp, t, ht, hkind, fun hdecl => hnew ?_⟩
      exact Table.name_of_find? ht ▸ (hc.declared t hdecl).1

theorem pending_declare (ht : table.find? name = some t) :
    Pending table (c.declare t) n ↔ Pending table c n ∧ n ≠ name := by
  constructor
  · rintro ⟨hreg, u, hu, hkind, hdecl⟩
    rw [registered_declare] at hreg
    rw [mem_declared_declare, not_or] at hdecl
    refine ⟨⟨hreg, u, hu, hkind, hdecl.1⟩, ?_⟩
    rintro rfl
    obtain rfl : t = u := Option.some.inj (ht.symm.trans hu)
    exact hdecl.2 ⟨hkind, rfl⟩
  · rintro ⟨⟨hreg, u, hu, hkind, hdecl⟩, hne⟩
    refine ⟨(registered_declare c t).symm ▸ hreg, u, hu, hkind, fun hin => ?_⟩
    rcases mem_declared_declare.mp hin with hin | ⟨-, rfl⟩
    · exact hdecl hin
    · exact hne ((Table.name_of_find? hu).symm.trans (Table.name_of_find? ht))

/-- **A walk without a fault finishes whatever it starts**: it leaves pending what was pending. -/
theorem Walk.pending_iff (h : Walk table c errand r) (hr : r.2 = none) (hc : Consistent table c) :
    Pending table r.1 n ↔ Pending table c n := by
  induction h with
  | known _ | done => exact Iff.rfl
  | missing _ _ | abandoned _ _ _ _ | refused _ | stopped _ _ _ _ => simp at hr
  | finished hnew ht _ ih =>
    rw [pending_declare ht, ih rfl (hc.register ht), pending_register ht hc hnew]
    refine ⟨fun ⟨h, hne⟩ => h.resolve_right fun h => hne h.1, fun h => ⟨Or.inl h, ?_⟩⟩
    rintro rfl
    exact hnew h.1
  | passed _ _ _ ih => exact ih hr hc
  | followed _ _ hfirst _ ih ih' =>
    exact (ih' hr (hfirst.consistent hc)).trans (ih rfl hc)

/-! ### Closed closures -/

/-- **A closed closure**: what the fields of a registered name need is registered, too, unless the
name is pending. -/
def Closed (table : Table) (c : Closure) : Prop :=
  ∀ name ∈ c.registered, ¬Pending table c name →
    ∃ t, table.find? name = some t ∧ (Errand.fields name t.fields).Met table c

/-- **A walk without a fault keeps a closure closed.** -/
theorem Walk.closed (h : Walk table c errand r) (hr : r.2 = none) (hc : Consistent table c)
    (hcl : Closed table c) : Closed table r.1 := by
  induction h with
  | known _ | done => exact hcl
  | missing _ _ | abandoned _ _ _ _ | refused _ | stopped _ _ _ _ => simp at hr
  | @finished c c' name t hnew ht hwalk ih =>
    -- while its fields are visited, the name is pending, or it is a scalar and has none
    have hopen : Closed table (c.register name) := by
      intro n hn hnp
      rw [pending_register ht hc hnew, not_or] at hnp
      rcases List.mem_append.mp hn with hn | hn
      · obtain ⟨u, hu, hmet⟩ := hcl n hn hnp.1
        exact ⟨u, hu, hmet.mono (List.subset_append_left _ _)⟩
      · obtain rfl := List.mem_singleton.mp hn
        have hscalar : t.kind = .scalar := by
          by_contra hkind
          exact hnp.2 ⟨rfl, hkind⟩
        exact ⟨t, ht, by simp [Table.fields_eq_nil_of_scalar hscalar, Errand.Met]⟩
    intro n hn hnp
    rw [registered_declare] at hn
    have hsub : c'.registered ⊆ (c'.declare t).registered := by simp
    by_cases hname : n = name
    · exact ⟨t, hname ▸ ht, (hname ▸ hwalk.met rfl).mono hsub⟩
    · obtain ⟨u, hu, hmet⟩ := ih rfl (hc.register ht) hopen n hn fun hp =>
        hnp ((pending_declare ht).mpr ⟨hp, hname⟩)
      exact ⟨u, hu, hmet.mono hsub⟩
  | passed _ _ _ ih => exact ih hr hc hcl
  | followed _ _ hfirst _ ih ih' => exact ih' hr (hfirst.consistent hc) (ih rfl hc hcl)

/-! ### Reachability -/

/-- **A walk only registers what can be reached.** -/
theorem Walk.reaches (h : Walk table c errand r) (he : errand.Proper table)
    (hn : n ∈ r.1.registered) : n ∈ c.registered ∨ table.Reaches errand.source n := by
  -- what a type registers before its fields is its own name
  have hname : ∀ {c : Closure} {name : String},
      n ∈ (c.register name).registered ∨ table.Reaches name n →
        n ∈ c.registered ∨ table.Reaches name n := by
    rintro c name (hn | hn)
    · rcases List.mem_append.mp hn with hn | hn
      · exact Or.inl hn
      · exact Or.inr (List.mem_singleton.mp hn ▸ .refl)
    · exact Or.inr hn
  induction h with
  | known _ | missing _ _ | done | refused _ => exact Or.inl hn
  | finished _ ht _ ih =>
    rw [registered_declare] at hn
    exact hname (ih (Errand.proper_fields ht) hn)
  | abandoned _ ht _ ih => exact hname (ih (Errand.proper_fields ht) hn)
  | passed _ _ _ ih => exact ih he.tail hn
  | followed hneed _ _ _ ih ih' =>
    rcases ih' he.tail hn with hn | hn
    · exact (ih trivial hn).imp_right fun h => .head (he.refers hneed) h
    · exact Or.inr hn
  | stopped hneed _ _ ih => exact (ih trivial hn).imp_right fun h => .head (he.refers hneed) h

/-- **A walk meets no fault that cannot be reached.** -/
theorem Walk.snd_eq_none (h : Walk table c errand r) (he : errand.Proper table)
    (hsound : ∀ m, table.Reaches errand.source m → table.Faultless m) : r.2 = none := by
  induction h with
  | known _ | done | finished _ _ _ _ => rfl
  | missing _ ht =>
    obtain ⟨t, hfind, -⟩ := hsound _ .refl
    exact absurd (ht.symm.trans hfind) (by simp)
  | abandoned _ ht _ ih => exact ih (Errand.proper_fields ht) hsound
  | refused hneed =>
    obtain ⟨t, ht, hsub⟩ := he
    obtain ⟨t', ht', hall⟩ := hsound _ .refl
    obtain rfl : t = t' := Option.some.inj (ht.symm.trans ht')
    obtain ⟨need, hok⟩ := hall _ (hsub List.mem_cons_self)
    exact absurd (hneed.symm.trans hok) (by simp)
  | passed _ _ _ ih => exact ih he.tail hsound
  | followed _ _ _ _ _ ih' => exact ih' he.tail hsound
  | stopped hneed _ _ ih =>
    exact ih trivial fun m hm => hsound m (.head (he.refers hneed) hm)

/-! ### Between two visits -/

/-- **A settled closure**: nothing is pending in it. It is what there is between two visits, as
long as none of them met a fault. -/
structure Settled (table : Table) (c : Closure) : Prop extends Consistent table c where
  /-- What registered names need is registered. -/
  closed : Closed table c
  /-- No visit is going on. -/
  finished : ∀ name, ¬Pending table c name

theorem settled_empty : Settled table empty :=
  ⟨consistent_empty, fun n hn => by simp [empty] at hn, fun _ => not_pending_empty⟩

namespace Settled

theorem resolve (h : Settled table c) (hr : (c.resolve table name).2 = none) :
    Settled table (c.resolve table name).1 := by
  have hwalk := walk_resolve table c name
  refine ⟨hwalk.consistent h.toConsistent, hwalk.closed hr h.toConsistent h.closed, fun n hn => ?_⟩
  exact h.finished n ((hwalk.pending_iff hr h.toConsistent).mp hn)

/-- What a registered name refers to is registered, if it has a name. -/
theorem refers (h : Settled table c) (hn : n ∈ c.registered) {m : String}
    (href : table.Refers n m) : m ∈ table.names ∧ (m ≠ "" → m ∈ c.registered) := by
  obtain ⟨t, ht, hmet⟩ := h.closed n hn (h.finished n)
  exact hmet.refers ht href

theorem mem_of_refers (h : Settled table c) (unnamed : "" ∉ table.names)
    (hn : n ∈ c.registered) {m : String} (href : table.Refers n m) : m ∈ c.registered := by
  obtain ⟨hmem, hreg⟩ := h.refers hn href
  exact hreg fun he => unnamed (he ▸ hmem)

/-- **What can be reached from a registered name is registered.** -/
theorem mem_of_reaches (h : Settled table c) (unnamed : "" ∉ table.names)
    (hn : n ∈ c.registered) {m : String} (hreach : table.Reaches n m) : m ∈ c.registered := by
  induction hreach with
  | refl => exact hn
  | tail _ href ih => exact h.mem_of_refers unnamed ih href

/-- A registered name is without fault. -/
theorem faultless (h : Settled table c) (hn : n ∈ c.registered) : table.Faultless n := by
  obtain ⟨t, ht, hmet⟩ := h.closed n hn (h.finished n)
  refine ⟨t, ht, fun field hf => ?_⟩
  obtain ⟨need, hneed, -⟩ := hmet field hf
  exact ⟨need, hneed⟩

/-- The fields of a declared type are right about their types. -/
theorem exists_needed (h : Settled table c) (ht : t ∈ c.declared) {field : Field}
    (hf : field ∈ t.fields) : ∃ need, needed table t.name field = .ok need := by
  obtain ⟨hreg, hfind, -⟩ := h.declared t ht
  obtain ⟨t', ht', hall⟩ := h.faultless hreg
  obtain rfl : t = t' := Option.some.inj (hfind.symm.trans ht')
  exact hall field hf

/-- What is declared is what is registered and no scalar. -/
theorem mem_declared_iff (h : Settled table c) :
    t ∈ c.declared ↔ t.name ∈ c.registered ∧ table.find? t.name = some t ∧ t.kind ≠ .scalar := by
  refine ⟨h.declared t, fun ⟨hreg, ht, hkind⟩ => ?_⟩
  by_contra hdecl
  exact h.finished t.name ⟨hreg, t, ht, hkind, hdecl⟩

end Settled

/-! ### Several visits -/

/-- A run of visits without a fault starts with a visit without one. -/
theorem resolveAll_cons {names : List String}
    (h : c.resolveAll table (name :: names) = (c', none)) :
    (c.resolve table name).2 = none ∧
      (c.resolve table name).1.resolveAll table names = (c', none) := by
  rw [resolveAll] at h
  rcases hr : c.resolve table name with ⟨c₁, _ | fault⟩
  · rw [hr] at h
    exact ⟨rfl, h⟩
  · rw [hr] at h
    simp at h

theorem Settled.resolveAll {names : List String} (h : Settled table c)
    (hr : c.resolveAll table names = (c', none)) : Settled table c' := by
  induction names generalizing c with
  | nil =>
    obtain ⟨rfl, -⟩ := Prod.mk.inj hr
    exact h
  | cons name names ih =>
    obtain ⟨hfirst, hrest⟩ := resolveAll_cons hr
    exact ih (h.resolve hfirst) hrest

/-- A run of visits without a fault registers what it visits. -/
theorem mem_registered_of_resolveAll {names : List String}
    (hr : c.resolveAll table names = (c', none)) (hn : n ∈ c.registered ∨ n ∈ names) :
    n ∈ c'.registered := by
  induction names generalizing c with
  | nil =>
    obtain ⟨rfl, -⟩ := Prod.mk.inj hr
    simpa using hn
  | cons name names ih =>
    obtain ⟨hfirst, hrest⟩ := resolveAll_cons hr
    have hwalk := walk_resolve table c name
    refine ih hrest ?_
    rcases hn with hn | hn
    · exact Or.inl (hwalk.prefix_registered.subset hn)
    · rcases List.mem_cons.mp hn with rfl | hn
      · exact Or.inl (hwalk.met hfirst)
      · exact Or.inr hn

/-- A run of visits without a fault only registers what can be reached from what it visits. -/
theorem reaches_of_resolveAll {names : List String} (hr : c.resolveAll table names = (c', none))
    (hn : n ∈ c'.registered) : n ∈ c.registered ∨ ∃ name ∈ names, table.Reaches name n := by
  induction names generalizing c with
  | nil =>
    obtain ⟨rfl, -⟩ := Prod.mk.inj hr
    exact Or.inl hn
  | cons name names ih =>
    obtain ⟨-, hrest⟩ := resolveAll_cons hr
    rcases ih hrest with hn | ⟨m, hm, hreach⟩
    · rcases (walk_resolve table c name).reaches trivial hn with hn | hreach
      · exact Or.inl hn
      · exact Or.inr ⟨name, List.mem_cons_self, hreach⟩
    · exact Or.inr ⟨m, List.mem_cons_of_mem _ hm, hreach⟩

/-- **The registered names** after a run of visits without a fault are those before it and what can
be reached from the visited names. -/
theorem Settled.mem_registered_iff {names : List String} (h : Settled table c)
    (unnamed : "" ∉ table.names) (hr : c.resolveAll table names = (c', none)) :
    n ∈ c'.registered ↔ n ∈ c.registered ∨ ∃ name ∈ names, table.Reaches name n := by
  refine ⟨reaches_of_resolveAll hr, ?_⟩
  rintro (hn | ⟨name, hname, hreach⟩)
  · exact mem_registered_of_resolveAll hr (Or.inl hn)
  · have hreg : name ∈ c'.registered := mem_registered_of_resolveAll hr (Or.inr hname)
    exact (h.resolveAll hr).mem_of_reaches unnamed hreg hreach

/-- A run of visits meets no fault, if none can be reached from the visited names. -/
theorem exists_resolveAll {names : List String}
    (h : ∀ name ∈ names, ∀ m, table.Reaches name m → table.Faultless m) :
    ∃ c', c.resolveAll table names = (c', none) := by
  induction names generalizing c with
  | nil => exact ⟨c, rfl⟩
  | cons name names ih =>
    have hr : (c.resolve table name).2 = none :=
      (walk_resolve table c name).snd_eq_none trivial (h name List.mem_cons_self)
    obtain ⟨c', hc'⟩ := ih (c := (c.resolve table name).1) fun m hm =>
      h m (List.mem_cons_of_mem _ hm)
    refine ⟨c', ?_⟩
    rw [Closure.resolveAll, ← hc']
    rcases hs : c.resolve table name with ⟨c₁, _ | fault⟩
    · rfl
    · simp [hs] at hr

/-- Two settled closures with the same registered names declare the same types. -/
theorem Settled.declared_perm (h : Settled table c) (h' : Settled table c')
    (hreg : ∀ n, n ∈ c'.registered ↔ n ∈ c.registered) : c'.declared.Perm c.declared := by
  refine (List.perm_ext_iff_of_nodup (List.Nodup.of_map _ h'.distinct)
    (List.Nodup.of_map _ h.distinct)).mpr fun t => ?_
  rw [h'.mem_declared_iff, h.mem_declared_iff, hreg]

/-- **A closure collects what can be reached.** After visits without a fault, in a table in which
every type has a name,

* the declared types are the enumerations and objects that can be reached from the visited names,
  as they are in the table, and each is declared once;
* the registered names are those that can be reached from the visited names;
* visiting the same names in another order, or more than once, meets no fault either and declares
  the same types. -/
theorem resolveAll_collects_reachable {names : List String} (unnamed : "" ∉ table.names)
    (hr : empty.resolveAll table names = (c, none)) :
    (∀ t, t ∈ c.declared ↔ table.find? t.name = some t ∧ t.kind ≠ .scalar ∧
        ∃ name ∈ names, table.Reaches name t.name) ∧
      (c.declared.map (·.name)).Nodup ∧
      (∀ n, c.contains n = true ↔ ∃ name ∈ names, table.Reaches name n) ∧
      ∀ names', (∀ n, n ∈ names' ↔ n ∈ names) →
        ∃ c', empty.resolveAll table names' = (c', none) ∧ c'.declared.Perm c.declared := by
  have hc := settled_empty.resolveAll hr
  have hreg : ∀ n, n ∈ c.registered ↔ ∃ name ∈ names, table.Reaches name n := fun n => by
    rw [settled_empty.mem_registered_iff unnamed hr]
    simp [empty]
  -- the order of the names does not matter to what can be reached, nor do repetitions
  refine ⟨fun t => ?_, hc.distinct, fun n => contains_iff.trans (hreg n), fun names' hsame => ?_⟩
  · rw [hc.mem_declared_iff, hreg]
    exact ⟨fun ⟨hreach, ht, hkind⟩ => ⟨ht, hkind, hreach⟩,
      fun ⟨ht, hkind, hreach⟩ => ⟨hreach, ht, hkind⟩⟩
  · obtain ⟨c', hr'⟩ : ∃ c', empty.resolveAll table names' = (c', none) :=
      exists_resolveAll fun name hname m hreach =>
        hc.faultless ((hreg m).mpr ⟨name, (hsame name).mp hname, hreach⟩)
    refine ⟨c', hr', hc.declared_perm (settled_empty.resolveAll hr') fun n => ?_⟩
    rw [settled_empty.mem_registered_iff unnamed hr', hreg]
    simp [empty, hsame]

/-- Two objects that refer to each other, one of them also to itself, an enumeration that the other
holds a list of without saying so, and a scalar. -/
def loopedTable : Table := .ofTypes
  [⟨"Filter", none, .object
      [⟨"and", "Filter", false, none, .list (some .object) true⟩,
        ⟨"order", "Order", true, none, .one .object⟩]⟩,
    ⟨"Order", none, .object
      [⟨"by", "Direction", true, none, .list none false⟩,
        ⟨"where", "Filter", false, none, .one .object⟩,
        ⟨"limit", "Int", false, none, .one .scalar⟩]⟩,
    ⟨"Direction", none, .enum ["UP", "DOWN"]⟩, ⟨"Int", none, .scalar⟩]

theorem resolveAll_collects_loopedTable :
    "" ∉ loopedTable.names ∧ ∃ c,
      empty.resolveAll loopedTable ["Order", "Int", "Order"] = (c, none) ∧
      c.declared.map (·.name) = ["Direction", "Filter", "Order"] ∧
      ∀ n, c.contains n = true ↔ ∃ name ∈ ["Order", "Int", "Order"], loopedTable.Reaches name n :=
  ⟨by decide, _, rfl, rfl, (resolveAll_collects_reachable (by decide) rfl).2.2.1⟩

end Closure

end OperationCatalog.Metadata
