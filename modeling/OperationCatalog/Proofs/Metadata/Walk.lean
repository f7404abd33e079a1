import OperationCatalog.Metadata.Closure
import OperationCatalog.Proofs.Metadata.Table

/-!
# The walk of a visit

`OperationCatalog.Metadata.Closure.visit` recurses on a depth, which is nothing that a type graph
knows of. This file says what a visit does without it: `OperationCatalog.Metadata.Closure.Walk` is
the relation between a closure, an errand – a name to visit, or fields whose types are to be
visited – and what comes out, with one rule for each thing that can happen.

The depth never runs out. Each level registers a name of the table
(`OperationCatalog.Metadata.Closure.remaining_register_lt`) and no visit takes a registration back,
so the names that remain are enough
(`OperationCatalog.Metadata.Closure.walk_resolve`). Whatever holds of every walk therefore holds of
every visit, and the files after this one only look at walks. And nothing else is a walk, for its
rules leave no choice: each walk from a name is the visit of that name
(`OperationCatalog.Metadata.Closure.Walk.resolve_eq`).
-/

namespace OperationCatalog.Metadata

namespace Closure

/-! ### Walks -/

/-- What is to be visited. -/
inductive Errand where
  /-- The type with a name. -/
  | type (name : String)
  /-- The types of some fields of a type. -/
  | fields (owner : String) (fields : List Field)

/-- The type that an errand starts from. -/
def Errand.source : Errand → String
  | .type name => name
  | .fields owner _ => owner

/-- **What a visit does**: the closure before it, what is visited, and what comes out. -/
inductive Walk (table : Table) : Closure → Errand → Visited → Prop where
  /-- A name that was visited is not visited again. -/
  | known {c name} : name ∈ c.registered → Walk table c (.type name) (c, none)
  /-- A name that is not in the table cannot be visited. -/
  | missing {c name} : name ∉ c.registered → table.find? name = none →
      Walk table c (.type name) (c, some (.missing name))
  /-- A type is declared after the types of its fields. -/
  | finished {c c' name t} : name ∉ c.registered → table.find? name = some t →
      Walk table (c.register name) (.fields name t.fields) (c', none) →
      Walk table c (.type name) (c'.declare t, none)
  /-- A type is not declared if one of its fields is at fault. -/
  | abandoned {c c' name t fault} : name ∉ c.registered → table.find? name = some t →
      Walk table (c.register name) (.fields name t.fields) (c', some fault) →
      Walk table c (.type name) (c', some fault)
  /-- No field is left. -/
  | done {c owner} : Walk table c (.fields owner []) (c, none)
  /-- A field is wrong about its type. -/
  | refused {c owner field rest fault} : needed table owner field = .error fault →
      Walk table c (.fields owner (field :: rest)) (c, some fault)
  /-- A field needs no type, or one without a name. -/
  | passed {c owner field rest need r} : needed table owner field = .ok need →
      need.getD "" = "" → Walk table c (.fields owner rest) r →
      Walk table c (.fields owner (field :: rest)) r
  /-- A field needs a type, and the fields after it are visited after that type. -/
  | followed {c c' owner field rest name r} : needed table owner field = .ok (some name) →
      name ≠ "" → Walk table c (.type name) (c', none) → Walk table c' (.fields owner rest) r →
      Walk table c (.fields owner (field :: rest)) r
  /-- A field needs a type that cannot be visited. -/
  | stopped {c c' owner field rest name fault} : needed table owner field = .ok (some name) →
      name ≠ "" → Walk table c (.type name) (c', some fault) →
      Walk table c (.fields owner (field :: rest)) (c', some fault)

variable {table : Table} {c c' : Closure} {name owner : String} {t : InputType}

/-! ### The parts of a closure -/

theorem contains_iff : c.contains name = true ↔ name ∈ c.registered := by
  simp [contains]

theorem contains_eq_false_iff : c.contains name = false ↔ name ∉ c.registered := by
  simp [contains]

@[simp] theorem registered_register (c : Closure) (name : String) :
    (c.register name).registered = c.registered ++ [name] := rfl

@[simp] theorem declared_register (c : Closure) (name : String) :
    (c.register name).declared = c.declared := rfl

@[simp] theorem registered_declare (c : Closure) (t : InputType) :
    (c.declare t).registered = c.registered := by
  unfold declare
  split <;> rfl

theorem declared_declare (c : Closure) (t : InputType) :
    (c.declare t).declared = if t.kind = .scalar then c.declared else c.declared ++ [t] := by
  unfold declare
  split <;> rfl

/-- A type is declared after it was declared, or before. -/
theorem mem_declared_declare {u : InputType} :
    u ∈ (c.declare t).declared ↔ u ∈ c.declared ∨ (t.kind ≠ .scalar ∧ u = t) := by
  rw [declared_declare]
  by_cases h : t.kind = .scalar <;> simp [h]

/-! ### What a field needs -/

variable {field : Field} {kind : TypeKind}

/-- What a field needs that takes its type to be no scalar is decided by the table. -/
theorem needed_of_claimedKind? (hkind : table.claimedKind? field = some kind)
    (hne : kind ≠ .scalar) : needed table owner field =
      (table.find? field.type).elim (.error (.missing field.type)) fun t =>
        if t.kind = kind then .ok (some field.type)
        else .error (.kindMismatch owner field.name kind field.type t.kind) := by
  unfold needed
  rw [hkind]
  cases kind with
  | scalar => exact absurd rfl hne
  | enum => cases table.find? field.type <;> rfl
  | object => cases table.find? field.type <;> rfl

/-- **A field needs a type** exactly if it takes the type to be no scalar and is right about its
kind. -/
theorem needed_eq_some_iff :
    needed table owner field = .ok (some name) ↔
      field.type = name ∧ ∃ kind, table.claimedKind? field = some kind ∧ kind ≠ .scalar ∧
        ∃ t, table.find? name = some t ∧ t.kind = kind := by
  rcases hclaimed : table.claimedKind? field with _ | kind
  · simp [needed, hclaimed]
  · by_cases hne : kind = .scalar
    · obtain rfl := hne
      constructor
      · intro h
        simp [needed, hclaimed] at h
      · rintro ⟨-, kind, hkind, hne, -⟩
        exact absurd (Option.some.inj hkind).symm hne
    · rw [needed_of_claimedKind? hclaimed hne]
      constructor
      · intro h
        rcases hfind : table.find? field.type with _ | t
        · simp [hfind] at h
        · rw [hfind, Option.elim_some] at h
          split at h
          · rename_i hkind
            obtain rfl := Option.some.inj (Except.ok.inj h)
            exact ⟨rfl, kind, rfl, hne, t, hfind, hkind⟩
          · simp at h
      · rintro ⟨rfl, kind', hkind', -, t, hfind, hkind⟩
        obtain rfl := Option.some.inj hkind'
        rw [hfind, Option.elim_some, if_pos hkind]

/-- A field needs nothing exactly if it takes its type to be a scalar. -/
theorem needed_eq_none_iff :
    needed table owner field = .ok none ↔ table.claimedKind? field = some .scalar := by
  rcases hclaimed : table.claimedKind? field with _ | kind
  · simp [needed, hclaimed]
  · by_cases hne : kind = .scalar
    · simp [needed, hclaimed, hne]
    · rw [needed_of_claimedKind? hclaimed hne]
      rcases table.find? field.type with _ | t
      · simp [hne]
      · rw [Option.elim_some]
        split <;> simp [hne]

/-! ### Nothing is taken back -/

namespace Walk

variable {errand : Errand} {r : Visited}

/-- A walk takes no registration back. -/
theorem prefix_registered (h : Walk table c errand r) : c.registered <+: r.1.registered := by
  induction h with
  | known _ | missing _ _ | done | refused _ => exact List.prefix_refl _
  | finished _ _ _ ih =>
    rw [registered_declare]
    exact (List.prefix_append _ _).trans ih
  | abandoned _ _ _ ih => exact (List.prefix_append _ _).trans ih
  | passed _ _ _ ih => exact ih
  | followed _ _ _ _ ih ih' => exact ih.trans ih'
  | stopped _ _ _ ih => exact ih

end Walk

/-! ### The depth of a visit -/

/-- Registering more leaves fewer names. -/
theorem remaining_le_of_isPrefix (h : c.registered <+: c'.registered) :
    c'.remaining table ≤ c.remaining table := by
  refine List.countP_mono_left fun name _ hn => ?_
  simp only [Bool.not_eq_true', contains_eq_false_iff] at hn ⊢
  exact fun hc => hn (h.subset hc)

/-- **Each level registers a name of the table.** -/
theorem remaining_register_lt (hn : name ∉ c.registered) (ht : name ∈ table.names) :
    (c.register name).remaining table < c.remaining table := by
  unfold remaining
  obtain ⟨before, after, hsplit⟩ := List.append_of_mem ht
  have hle : ∀ names : List String,
      names.countP (fun n => !(c.register name).contains n) ≤
        names.countP fun n => !c.contains n := fun names => by
    refine List.countP_mono_left fun n _ h => ?_
    simp only [Bool.not_eq_true', contains_eq_false_iff, registered_register,
      List.mem_append, not_or] at h ⊢
    exact h.1
  have hin : (c.register name).contains name = true := contains_iff.mpr (by simp)
  have hout : c.contains name = false := contains_eq_false_iff.mpr hn
  rw [hsplit, List.countP_append, List.countP_append, List.countP_cons, List.countP_cons, hin, hout]
  have h₁ := hle before
  have h₂ := hle after
  simp only [Bool.not_true, Bool.not_false, Bool.false_eq_true, if_false, if_true]
  omega

/-- Visiting fields is a walk, if visiting names is one as long as few enough names remain. -/
theorem walk_visitFields {visit : Closure → String → Visited} {bound : ℕ}
    (hv : ∀ c name, c.remaining table ≤ bound → Walk table c (.type name) (visit c name)) :
    ∀ (fields : List Field) (c : Closure), c.remaining table ≤ bound →
      Walk table c (.fields owner fields) (visitFields table visit owner fields c) := by
  intro fields
  induction fields with
  | nil => exact fun c _ => .done
  | cons field rest ih =>
    intro c hc
    rw [visitFields]
    rcases hneed : needed table owner field with fault | _ | name
    · exact .refused hneed
    · exact .passed hneed rfl (ih c hc)
    · by_cases hname : name = ""
      · simp only [hname, if_true]
        exact .passed hneed hname (ih c hc)
      · simp only [hname, if_false]
        have hwalk := hv c name hc
        rcases hr : visit c name with ⟨c', _ | fault⟩
        · rw [hr] at hwalk
          -- the visit of the field took no registration back, so as few names remain after it
          have hc' := Nat.le_trans (remaining_le_of_isPrefix hwalk.prefix_registered) hc
          exact .followed hneed hname hwalk (ih c' hc')
        · rw [hr] at hwalk
          exact .stopped hneed hname hwalk

/-- **A visit is a walk**, if its depth exceeds the number of names that remain. -/
theorem walk_visit : ∀ (depth : ℕ) (c : Closure) (name : String), c.remaining table < depth →
    Walk table c (.type name) (visit table depth c name) := by
  intro depth
  induction depth with
  | zero => exact fun c name h => absurd h (by omega)
  | succ depth ih =>
    intro c name hc
    rw [visit]
    by_cases hreg : c.contains name = true
    · rw [if_pos hreg]
      exact .known (contains_iff.mp hreg)
    · rw [if_neg hreg]
      have hreg' : name ∉ c.registered := fun h => hreg (contains_iff.mpr h)
      rcases ht : table.find? name with _ | t
      · exact .missing hreg' ht
      · -- the name is of the table and new, so registering it pays for the level below
        have hlt := remaining_register_lt hreg' (Table.mem_names_of_find? ht)
        have hwalk : Walk table (c.register name) (.fields name t.fields)
            (visitFields table (visit table depth) name t.fields (c.register name)) :=
          walk_visitFields (fun c' name' h => ih c' name' (Nat.lt_of_lt_of_le
            (Nat.lt_of_le_of_lt h hlt) (Nat.le_of_lt_succ hc))) t.fields _ (Nat.le_refl _)
        dsimp only
        rcases hr : visitFields table (visit table depth) name t.fields (c.register name) with
          ⟨c', _ | fault⟩
        · rw [hr] at hwalk
          exact .finished hreg' ht hwalk
        · rw [hr] at hwalk
          exact .abandoned hreg' ht hwalk

/-- **Collecting a type is a walk.** -/
theorem walk_resolve (table : Table) (c : Closure) (name : String) :
    Walk table c (.type name) (c.resolve table name) :=
  walk_visit _ c name (Nat.lt_succ_self _)

/-- What a visit makes of an errand when there are levels left below it. -/
def Errand.run (table : Table) (depth : ℕ) (c : Closure) : Errand → Visited
  | .type name => visit table (depth + 1) c name
  | .fields owner rest => visitFields table (visit table (depth + 1)) owner rest c

/-- **A walk is a visit**, of whatever depth, if as many levels are left as names remain. -/
theorem Walk.run_eq {errand : Errand} {r : Visited} (h : Walk table c errand r) {depth : ℕ}
    (hdepth : c.remaining table ≤ depth) : errand.run table depth c = r := by
  -- inside of a new name of the table, both are one less
  have hinside {c : Closure} {name : String} {t : InputType} (hnew : name ∉ c.registered)
      (ht : table.find? name = some t) {depth : ℕ} (hdepth : c.remaining table ≤ depth) :
      ∃ below, depth = below + 1 ∧ (c.register name).remaining table ≤ below := by
    have hlt := remaining_register_lt hnew (Table.mem_names_of_find? ht)
    exact ⟨depth - 1, by omega, by omega⟩
  induction h generalizing depth with
  | known hreg => simp [Errand.run, visit, contains_iff.mpr hreg]
  | missing hnew ht => simp [Errand.run, visit, contains_eq_false_iff.mpr hnew, ht]
  | finished hnew ht _ ih | abandoned hnew ht _ ih =>
    obtain ⟨below, rfl, hbelow⟩ := hinside hnew ht hdepth
    have hfields := ih hbelow
    simp only [Errand.run] at hfields ⊢
    rw [visit, contains_eq_false_iff.mpr hnew, ht]
    simp [hfields]
  | done => rfl
  | refused hneed => simp [Errand.run, visitFields, hneed]
  | @passed c owner field rest need r hneed hnone _ ih =>
    have hrest := ih hdepth
    simp only [Errand.run] at hrest ⊢
    rw [visitFields, hneed]
    cases need with
    | none => exact hrest
    | some name => simpa only [if_pos (show name = "" from hnone)] using hrest
  | followed hneed hne hfirst _ ih ih' =>
    have hname := ih hdepth
    have hrest := ih' (Nat.le_trans (remaining_le_of_isPrefix hfirst.prefix_registered) hdepth)
    simp only [Errand.run] at hname hrest ⊢
    simp only [visitFields, hneed, hne, hname, hrest, if_false]
  | stopped hneed hne _ ih =>
    have hname := ih hdepth
    simp only [Errand.run] at hname ⊢
    simp only [visitFields, hneed, hne, hname, if_false]

/-- **A walk has one result only**, for its rules leave no choice. -/
theorem Walk.deterministic {errand : Errand} {r r' : Visited} (h : Walk table c errand r)
    (h' : Walk table c errand r') : r = r' :=
  (h.run_eq (Nat.le_refl _)).symm.trans (h'.run_eq (Nat.le_refl _))

/-- **A walk from a name is the visit of it.** -/
theorem Walk.resolve_eq {r : Visited} (h : Walk table c (.type name) r) :
    c.resolve table name = r :=
  h.run_eq (Nat.le_refl _)

end Closure

end OperationCatalog.Metadata
