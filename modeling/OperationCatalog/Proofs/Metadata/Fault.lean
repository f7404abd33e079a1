import OperationCatalog.Proofs.Metadata.Reach

/-!
# When a visit fails

A visit checks a field deep in a recursion that skips what was visited before. This file proves
that skipping hides nothing: after visits without a fault, the next visit fails exactly if its name
is not in the table or an unsound field can be reached from it
(`OperationCatalog.Metadata.Closure.resolve_fails_iff_unsound`). Whether a field is sound
(`OperationCatalog.Metadata.Table.Sound`) is said of the table alone, and so is what can be reached.

One direction is that of `OperationCatalog.Metadata.Closure.Settled`: a closure without pending
names is closed under references, and its names are without fault, whichever visit registered them.
The other is an induction on the walk: a fault is that of the name that was asked for or that of an
unsound field below it (`OperationCatalog.Metadata.Closure.Walk.blames`).
-/

namespace OperationCatalog.Metadata

/-! ### Sound fields -/

namespace Table

/-- **A field is sound** if it takes its type to be a scalar, or if its type is in the table and of
the kind that it takes it to be of. A list that leaves the kind of its items to their type is sound
if the type is in the table. -/
def Sound (table : Table) (field : Field) : Prop :=
  match field.shape with
  | .one kind | .list (some kind) _ =>
    kind = .scalar ∨ ∃ t, table.find? field.type = some t ∧ t.kind = kind
  | .list none _ => field.type ∈ table.names

/-- **An unsound field below a type**: it belongs to a type that can be reached. -/
structure ReachesUnsound (table : Table) (name owner : String) (field : Field) : Prop where
  /-- Its owner can be reached. -/
  reaches : table.Reaches name owner
  /-- It is a field of its owner. -/
  mem : ∃ t, table.find? owner = some t ∧ field ∈ t.fields
  /-- It is not sound. -/
  unsound : ¬table.Sound field

variable {table : Table} {name other owner : String} {field : Field} {t : InputType}

/-- Only a list that states no kind takes its type to be of none, and only if that is missing. -/
theorem find?_of_claimedKind?_eq_none (h : table.claimedKind? field = none) :
    table.find? field.type = none := by
  rcases hshape : field.shape with kind | ⟨_ | kind, _⟩ <;> simp_all [claimedKind?, itemKind?]

/-- What makes a field sound is the kind that it takes its type to be of. -/
theorem sound_iff_claimedKind? : table.Sound field ↔
    ∃ kind, table.claimedKind? field = some kind ∧
      (kind = .scalar ∨ ∃ t, table.find? field.type = some t ∧ t.kind = kind) := by
  unfold Sound claimedKind?
  rcases field.shape with kind | ⟨_ | kind, _⟩
  · simp
  · simp only [itemKind?, Option.map_eq_some_iff]
    constructor
    · intro h
      obtain ⟨t, ht⟩ := find?_of_mem_names h
      exact ⟨t.kind, ⟨t, ht, rfl⟩, Or.inr ⟨t, ht, rfl⟩⟩
    · rintro ⟨_, ⟨t, ht, -⟩, -⟩
      exact mem_names_of_find? ht
  · simp [itemKind?]

/-- A field is sound exactly if it can be said which type it needs. -/
theorem sound_iff_exists_needed (owner : String) :
    table.Sound field ↔ ∃ need, Closure.needed table owner field = .ok need := by
  rw [sound_iff_claimedKind?]
  constructor
  · rintro ⟨kind, hkind, h⟩
    by_cases hscalar : kind = .scalar
    · exact ⟨none, Closure.needed_eq_none_iff.mpr (hscalar ▸ hkind)⟩
    · obtain ⟨t, ht, htk⟩ := h.resolve_left hscalar
      exact ⟨_, Closure.needed_eq_some_iff.mpr ⟨rfl, kind, hkind, hscalar, t, ht, htk⟩⟩
  · rintro ⟨_ | n, hneed⟩
    · exact ⟨_, Closure.needed_eq_none_iff.mp hneed, Or.inl rfl⟩
    · obtain ⟨rfl, kind, hkind, -, hfind⟩ := Closure.needed_eq_some_iff.mp hneed
      exact ⟨kind, hkind, Or.inr hfind⟩

/-- A type is without fault exactly if it is in the table and its fields are sound. -/
theorem faultless_iff : table.Faultless name ↔
    ∃ t, table.find? name = some t ∧ ∀ field ∈ t.fields, table.Sound field := by
  unfold Faultless
  simp only [sound_iff_exists_needed name]

/-- An unsound field below a type is one below each type that refers to it. -/
theorem ReachesUnsound.head (h : table.ReachesUnsound other owner field)
    (href : table.Refers name other) : table.ReachesUnsound name owner field :=
  { h with reaches := .head href h.reaches }

/-- **Soundness below a type** leaves everything below it without fault. -/
theorem faultless_of_reaches (hname : name ∈ table.names)
    (hsound : ∀ owner field, ¬table.ReachesUnsound name owner field)
    (hreach : table.Reaches name other) : table.Faultless other := by
  have hall : ∀ n, n ∈ table.names → table.Reaches name n → table.Faultless n := by
    intro n hn hreach
    obtain ⟨t, ht⟩ := find?_of_mem_names hn
    refine faultless_iff.mpr ⟨t, ht, fun field hfield => ?_⟩
    by_contra hunsound
    exact hsound n field ⟨hreach, ⟨t, ht, hfield⟩, hunsound⟩
  refine hall other ?_ hreach
  induction hreach with
  | refl => exact hname
  | tail hreach href ih => exact (hall _ ih hreach).mem_names_of_refers href

end Table

/-! ### Where a fault comes from -/

namespace Closure

variable {table : Table} {c c' : Closure} {errand : Errand} {r : Visited} {name owner : String}
  {field : Field} {fault : ClosureFault} {t : InputType}

/-- **A fault blames a field**: the type of the field is missing, or of another kind than the field
takes it to be of. -/
def Blames (table : Table) (owner : String) (field : Field) : ClosureFault → Prop
  | .missing name => name = field.type ∧ name ∉ table.names
  | .kindMismatch owner' name claimed type actual => owner' = owner ∧ name = field.name ∧
      type = field.type ∧ table.claimedKind? field = some claimed ∧
      ∃ t, table.find? type = some t ∧ t.kind = actual ∧ actual ≠ claimed

/-- **A field that is refused** is unsound, and it is blamed. -/
theorem blames_of_needed (h : needed table owner field = .error fault) :
    ¬table.Sound field ∧ Blames table owner field fault := by
  refine ⟨fun hsound => ?_, ?_⟩
  · obtain ⟨need, hneed⟩ := (Table.sound_iff_exists_needed owner).mp hsound
    exact absurd (h.symm.trans hneed) (by simp)
  · rcases hclaimed : table.claimedKind? field with _ | kind
    · obtain rfl : ClosureFault.missing field.type = fault := by simpa [needed, hclaimed] using h
      exact ⟨rfl, Table.not_mem_names_of_find? (Table.find?_of_claimedKind?_eq_none hclaimed)⟩
    · by_cases hscalar : kind = .scalar
      · rw [needed_eq_none_iff.mpr (hscalar ▸ hclaimed)] at h
        simp at h
      · rw [needed_of_claimedKind? hclaimed hscalar] at h
        rcases hfind : table.find? field.type with _ | t
        · obtain rfl : ClosureFault.missing field.type = fault := by simpa [hfind] using h
          exact ⟨rfl, Table.not_mem_names_of_find? hfind⟩
        · by_cases hkind : t.kind = kind
          · simp [hfind, hkind] at h
          · obtain rfl : ClosureFault.kindMismatch owner field.name kind field.type t.kind =
                fault := by simpa [hfind, hkind] using h
            exact ⟨rfl, rfl, rfl, hclaimed, t, hfind, rfl, hkind⟩

/-- **Where a walk fails**: at the name that it starts from, which is not in the table then, or at
an unsound field below it. -/
theorem Walk.blames (h : Walk table c errand r) (he : errand.Proper table)
    (hr : r.2 = some fault) :
    (fault = .missing errand.source ∧ errand.source ∉ table.names) ∨
      ∃ owner field, table.ReachesUnsound errand.source owner field ∧
        Blames table owner field fault := by
  induction h with
  | known _ | done | finished _ _ _ _ => simp at hr
  | missing _ hfind =>
    obtain rfl := Option.some.inj hr
    exact Or.inl ⟨rfl, Table.not_mem_names_of_find? hfind⟩
  | abandoned _ ht _ ih => exact ih (Errand.proper_fields ht) hr
  | refused hneed =>
    obtain rfl := Option.some.inj hr
    obtain ⟨t, ht, hsub⟩ := he
    obtain ⟨hunsound, hblames⟩ := blames_of_needed hneed
    exact Or.inr ⟨_, _, ⟨.refl, ⟨t, ht, hsub List.mem_cons_self⟩, hunsound⟩, hblames⟩
  | passed _ _ _ ih => exact ih he.tail hr
  | followed _ _ _ _ _ ih' => exact ih' he.tail hr
  | stopped hneed _ _ ih =>
    rcases ih trivial hr with ⟨-, habsent⟩ | ⟨owner, field, hunsound, hblames⟩
    · -- the field has checked that its type is in the table
      obtain ⟨-, -, -, -, t, ht, -⟩ := needed_eq_some_iff.mp hneed
      exact absurd (Table.mem_names_of_find? ht) habsent
    · exact Or.inr ⟨owner, field, hunsound.head (he.refers hneed), hblames⟩

/-! ### A visit after visits without a fault -/

/-- Without a fault, everything that can be reached from the visited name is sound. -/
theorem Settled.sound_of_reaches (h : Settled table c) (unnamed : "" ∉ table.names)
    (hr : (c.resolve table name).2 = none) (hreach : table.Reaches name owner)
    (ht : table.find? owner = some t) (hfield : field ∈ t.fields) : table.Sound field := by
  have hnext := h.resolve hr
  have hreg : owner ∈ (c.resolve table name).1.registered :=
    hnext.mem_of_reaches unnamed ((walk_resolve table c name).met hr) hreach
  obtain ⟨t', ht', hall⟩ := Table.faultless_iff.mp (hnext.faultless hreg)
  obtain rfl : t = t' := Option.some.inj (ht.symm.trans ht')
  exact hall field hfield

/-- **A visit fails exactly if something unsound can be reached.** In a table in which every type
has a name, and after visits without a fault, visiting a name

* meets no fault exactly if the name is in the table and every field of every type that can be
  reached from it is sound;
* misses a type only if the name itself or the type of an unsound field that can be reached is not
  in the table, and names that type;
* finds a type to be of another kind than was said only at an unsound field that can be reached,
  whose type is in the table, and names the field, its claim, its type and the kind of that. -/
theorem resolve_fails_iff_unsound {names : List String} (unnamed : "" ∉ table.names)
    (hr : empty.resolveAll table names = (c, none)) (name : String) :
    ((c.resolve table name).2 = none ↔
        name ∈ table.names ∧ ∀ owner t, table.Reaches name owner → table.find? owner = some t →
          ∀ field ∈ t.fields, table.Sound field) ∧
      (∀ type, (c.resolve table name).2 = some (.missing type) →
        type ∉ table.names ∧
          (type = name ∨ ∃ owner field, table.ReachesUnsound name owner field ∧
            type = field.type)) ∧
      ∀ owner label claimed type actual,
        (c.resolve table name).2 = some (.kindMismatch owner label claimed type actual) →
          ∃ field t, table.ReachesUnsound name owner field ∧ label = field.name ∧
            table.claimedKind? field = some claimed ∧ type = field.type ∧
            table.find? type = some t ∧ t.kind = actual ∧ actual ≠ claimed := by
  have hwalk := walk_resolve table c name
  have hc := settled_empty.resolveAll hr
  refine ⟨⟨fun hnone => ⟨?_, fun owner t hreach ht field hfield => ?_⟩, ?_⟩, ?_, ?_⟩
  · obtain ⟨t, ht⟩ := (hc.resolve hnone).registered name (hwalk.met hnone)
    exact Table.mem_names_of_find? ht
  · exact hc.sound_of_reaches unnamed hnone hreach ht hfield
  · rintro ⟨hname, hsound⟩
    refine hwalk.snd_eq_none trivial fun m hreach => ?_
    refine Table.faultless_of_reaches hname (fun owner field hunsound => ?_) hreach
    obtain ⟨t, ht, hfield⟩ := hunsound.mem
    exact hunsound.unsound (hsound owner t hunsound.reaches ht field hfield)
  · intro type hfault
    rcases hwalk.blames trivial hfault with ⟨he, habsent⟩ | ⟨owner, field, hunsound, rfl, habsent⟩
    · obtain rfl : type = name := by simpa [Errand.source] using he
      exact ⟨habsent, Or.inl rfl⟩
    · exact ⟨habsent, Or.inr ⟨owner, field, hunsound, rfl⟩⟩
  · intro owner label claimed type actual hfault
    rcases hwalk.blames trivial hfault with ⟨he, -⟩ |
      ⟨owner, field, hunsound, rfl, rfl, rfl, hclaimed, t, ht, hactual, hne⟩
    · simp at he
    · exact ⟨field, t, hunsound, rfl, hclaimed, rfl, ht, hactual, hne⟩

/-- Two objects that refer to each other, one of which takes a scalar to be an enumeration, and an
enumeration that both of them and a third object use. -/
def mistakenTable : Table := .ofTypes
  [⟨"Page", none, .object [⟨"sort", "Sort", false, none, .list none true⟩]⟩,
    ⟨"Filter", none, .object
      [⟨"and", "Filter", false, none, .list (some .object) true⟩,
        ⟨"sort", "Sort", false, none, .one .enum⟩,
        ⟨"order", "Order", true, none, .one .object⟩]⟩,
    ⟨"Order", none, .object
      [⟨"where", "Filter", false, none, .one .object⟩,
        ⟨"by", "Date", true, none, .one .enum⟩]⟩,
    ⟨"Sort", none, .enum ["UP", "DOWN"]⟩, ⟨"Date", none, .scalar⟩]

theorem resolve_fails_mistakenTable :
    "" ∉ mistakenTable.names ∧ ∃ c, empty.resolveAll mistakenTable ["Page", "Date"] = (c, none) ∧
      (c.resolve mistakenTable "Filter").2 =
        some (.kindMismatch "Order" "by" .enum "Date" .scalar) ∧
      ∃ field t, mistakenTable.ReachesUnsound "Filter" "Order" field ∧ "by" = field.name ∧
        mistakenTable.claimedKind? field = some .enum ∧ "Date" = field.type ∧
        mistakenTable.find? "Date" = some t ∧ t.kind = .scalar ∧
        TypeKind.scalar ≠ TypeKind.enum := by
  refine ⟨by decide, _, rfl, rfl, ?_⟩
  exact (resolve_fails_iff_unsound (by decide) (rfl : empty.resolveAll _ ["Page", "Date"] = _)
    "Filter").2.2 _ _ _ _ _ rfl

end Closure

end OperationCatalog.Metadata
