import OperationCatalog.Proofs.Metadata.Interrupted
import OperationCatalog.Proofs.Metadata.Steps

/-!
# How much visits do

Two things bound what visits do, and both are invariants of one step.

* **The stack.** A step that puts a type on the stack registers a name of the table, so the height of
  the stack and the number of the names that remain do not grow together
  (`OperationCatalog.Metadata.Closure.Change.height_le`). A visit is never inside of more types than
  there were names left to register when it began.
* **The fields.** A type is entered when its name is registered, that is once and never again, and
  from then on its fields are visited in their order. So the positions of the fields of a type that
  were visited, by whatever number of visits and in whatever stages, are `0`, `1` and so on up to
  where its frame stands on the stack (`OperationCatalog.Metadata.Closure.Tally`). A fault takes the
  frame away, and then they stay as they are; leaving the type takes it away after the last field.
-/

namespace OperationCatalog.Metadata

namespace Closure

variable {table : Table} {c : Closure} {s s' : Stage} {t : InputType} {i : ℕ} {name : String}
  {stack stack' : List Frame} {log : List FieldVisit}

/-! ### The height of the stack -/

/-- **The stack grows only where names become fewer.** -/
theorem Change.height_le (h : Change table s s') :
    s'.stack.length + s'.closure.remaining table ≤
      s.stack.length + s.closure.remaining table := by
  cases h with
  | entered name t hnew ht hc hstack =>
    have hlt := remaining_register_lt hnew (Table.mem_names_of_find? ht)
    rw [hc, hstack, List.length_cons]
    omega
  | visited t i stack hbefore _ _ hc hstack =>
    have hle := hstack.length_le
    rw [List.length_cons] at hle
    rw [hc, hbefore, List.length_cons]
    omega
  | left t i hbefore _ _ hc =>
    rw [hc, remaining_declare, hbefore, List.length_cons]
    omega
  | idle _ hc hstack =>
    have hle := hstack.length_le
    rw [hc]
    omega

/-- **How high the stack is at a stage**: no higher than it was, and one more for each name that
remained. -/
theorem height_le_of_mem_stages {later : Stage} (h : later ∈ stages table s) :
    later.stack.length ≤ s.stack.length + s.closure.remaining table := by
  induction s using stages.induct table with
  | case1 s hover =>
    obtain ⟨r, rfl⟩ := advance_eq_none_iff.mp hover
    rw [stages_ended, List.mem_singleton] at h
    rw [h]
    exact Nat.le_add_right _ _
  | case2 s next hnext ih =>
    rw [stages_of_advance hnext, List.mem_cons] at h
    rcases h with rfl | h
    · exact Nat.le_add_right _ _
    · exact Nat.le_trans (ih h) (change_of_advance hnext).height_le

/-! ### The fields that were visited -/

/-- The fields that are visited at some stages, in order. -/
def fieldVisits (stages : List Stage) : List FieldVisit := stages.filterMap Stage.fieldVisit?

/-- The positions of the visited fields of a type, in order. -/
def positionsOf (name : String) (log : List FieldVisit) : List ℕ :=
  (log.filter (·.owner = name)).map (·.position)

theorem fieldVisits_cons (s : Stage) (rest : List Stage) :
    fieldVisits (s :: rest) = s.fieldVisit?.toList ++ fieldVisits rest := by
  unfold fieldVisits
  cases h : s.fieldVisit? <;> simp [h]

theorem positionsOf_concat (name owner : String) (position : ℕ) (log : List FieldVisit) :
    positionsOf name (log ++ [⟨owner, position⟩]) =
      if owner = name then positionsOf name log ++ [position] else positionsOf name log := by
  by_cases h : owner = name <;> simp [positionsOf, h]

theorem positionsOf_eq_nil (h : ∀ v ∈ log, v.owner ≠ name) : positionsOf name log = [] := by
  simpa [positionsOf] using h

/-- **What was visited until now.** -/
structure Tally (table : Table) (log : List FieldVisit) (c : Closure) (stack : List Frame) :
    Prop where
  /-- The types on the stack are entries of registered names. -/
  entries : ∀ f ∈ stack, f.type.name ∈ c.registered ∧ table.find? f.type.name = some f.type
  /-- No type is on the stack twice. -/
  distinct : (stack.map (·.type.name)).Nodup
  /-- Of a type on the stack, the fields up to its position were visited. -/
  running : ∀ f ∈ stack, positionsOf f.type.name log = List.range f.passed
  /-- Of a declared type, all fields were visited, and it is not on the stack. -/
  declared : ∀ t ∈ c.declared, t.name ∈ c.registered ∧
    positionsOf t.name log = List.range t.fields.length ∧ ∀ f ∈ stack, f.type.name ≠ t.name
  /-- Of each type, some of its first fields were visited, each once. -/
  once : ∀ t ∈ table.types, ∃ k ≤ t.fields.length, positionsOf t.name log = List.range k
  /-- Only fields of registered names were visited. -/
  registered : ∀ v ∈ log, v.owner ∈ c.registered

namespace Tally

theorem empty : Tally table [] Closure.empty [] where
  entries := by simp
  distinct := List.nodup_nil
  running := by simp
  declared := by simp [Closure.empty]
  once _ _ := ⟨0, Nat.zero_le _, rfl⟩
  registered := by simp

/-- Frames may be taken from the stack. -/
theorem of_suffix (h : Tally table log c stack) (hstack : stack' <:+ stack) :
    Tally table log c stack' where
  entries f hf := h.entries f (hstack.subset hf)
  distinct := h.distinct.sublist (hstack.sublist.map _)
  running f hf := h.running f (hstack.subset hf)
  declared t ht := (h.declared t ht).imp_right fun hd =>
    hd.imp_right fun hout f hf => hout f (hstack.subset hf)
  once := h.once
  registered := h.registered

/-- The type on top of the stack is not below. -/
theorem top_ne (h : Tally table log c (⟨t, i⟩ :: stack)) : ∀ f ∈ stack, f.type.name ≠ t.name := by
  have hdistinct := h.distinct
  rw [List.map_cons, List.nodup_cons] at hdistinct
  exact fun f hf he => hdistinct.1 (he ▸ List.mem_map_of_mem hf)

/-- **A type is entered**: none of its fields was visited. -/
theorem enter (h : Tally table log c stack) (hnew : name ∉ c.registered)
    (ht : table.find? name = some t) : Tally table log (c.register name) (⟨t, 0⟩ :: stack) := by
  obtain rfl := Table.name_of_find? ht
  have hout : ∀ f ∈ stack, f.type.name ≠ t.name := fun f hf he => hnew (he ▸ (h.entries f hf).1)
  have hmono : ∀ n ∈ c.registered, n ∈ (c.register t.name).registered := fun n hn => by simp [hn]
  constructor
  case entries =>
    intro f hf
    rcases List.mem_cons.mp hf with rfl | hf
    · exact ⟨by simp, ht⟩
    · exact (h.entries f hf).imp_left (hmono _)
  case distinct =>
    rw [List.map_cons, List.nodup_cons]
    exact ⟨by simpa using hout, h.distinct⟩
  case running =>
    intro f hf
    rcases List.mem_cons.mp hf with rfl | hf
    · exact positionsOf_eq_nil fun v hv he => hnew (he ▸ h.registered v hv)
    · exact h.running f hf
  case declared =>
    intro u hu
    obtain ⟨hreg, hall, hstack⟩ := h.declared u hu
    refine ⟨hmono _ hreg, hall, fun f hf => ?_⟩
    rcases List.mem_cons.mp hf with rfl | hf
    · intro he
      exact hnew (he ▸ hreg)
    · exact hstack f hf
  case once =>
    exact h.once
  case registered =>
    exact fun v hv => hmono _ (h.registered v hv)

/-- **A field is visited**: it is the next one of the type on top of the stack. -/
theorem visit (h : Tally table log c (⟨t, i⟩ :: stack)) (hi : i < t.fields.length) :
    Tally table (log ++ [⟨t.name, i⟩]) c (⟨t, i + 1⟩ :: stack) := by
  have htop : positionsOf t.name (log ++ [⟨t.name, i⟩]) = List.range (i + 1) := by
    rw [positionsOf_concat, if_pos rfl, h.running _ List.mem_cons_self, List.range_succ]
  -- the visits of all other types are as before
  have hother : ∀ n, n ≠ t.name → positionsOf n (log ++ [⟨t.name, i⟩]) = positionsOf n log :=
    fun n hn => by rw [positionsOf_concat, if_neg hn.symm]
  obtain ⟨hreg, ht⟩ := h.entries _ List.mem_cons_self
  constructor
  case entries =>
    intro f hf
    rcases List.mem_cons.mp hf with rfl | hf
    · exact ⟨hreg, ht⟩
    · exact h.entries f (List.mem_cons_of_mem _ hf)
  case distinct =>
    exact h.distinct
  case running =>
    intro f hf
    rcases List.mem_cons.mp hf with rfl | hf
    · exact htop
    · rw [hother _ (h.top_ne f hf)]
      exact h.running f (List.mem_cons_of_mem _ hf)
  case declared =>
    intro u hu
    obtain ⟨hreg', hall, hstack⟩ := h.declared u hu
    refine ⟨hreg', ?_, fun f hf => ?_⟩
    · rw [hother _ (hstack _ List.mem_cons_self).symm]
      exact hall
    · rcases List.mem_cons.mp hf with rfl | hf
      · exact hstack ⟨t, i⟩ List.mem_cons_self
      · exact hstack f (List.mem_cons_of_mem _ hf)
  case once =>
    intro u hu
    by_cases he : u.name = t.name
    · obtain rfl : u = t := Option.some.inj
        ((Table.find?_eq_some_iff.mpr ⟨hu, he⟩).symm.trans ht)
      exact ⟨i + 1, hi, htop⟩
    · rw [hother _ he]
      exact h.once u hu
  case registered =>
    intro v hv
    rcases List.mem_append.mp hv with hv | hv
    · exact h.registered v hv
    · obtain rfl := List.mem_singleton.mp hv
      exact hreg

/-- **A type is left** after its last field. -/
theorem leave (h : Tally table log c (⟨t, i⟩ :: stack)) (hi : t.fields.length ≤ i) :
    Tally table log (c.declare t) stack := by
  obtain ⟨hreg, ht⟩ := h.entries _ List.mem_cons_self
  have hrest := h.of_suffix (List.suffix_cons _ _)
  -- no more fields were visited than there are
  have hall : positionsOf t.name log = List.range t.fields.length := by
    obtain ⟨k, hk, hpositions⟩ := h.once t (Table.find?_eq_some_iff.mp ht).1
    have hik : i = k := by
      simpa [hpositions] using (congrArg List.length (h.running _ List.mem_cons_self)).symm
    rw [hpositions, show k = t.fields.length by omega]
  constructor
  case entries =>
    simpa using hrest.entries
  case distinct =>
    exact hrest.distinct
  case running =>
    exact hrest.running
  case declared =>
    intro u hu
    rw [registered_declare]
    rcases mem_declared_declare.mp hu with hu | ⟨-, rfl⟩
    · exact hrest.declared u hu
    · exact ⟨hreg, hall, h.top_ne⟩
  case once =>
    exact h.once
  case registered =>
    simpa using h.registered

/-- **A step keeps the tally**, with the field that it visits. -/
theorem step (h : Tally table log s.closure s.stack) (hstep : Change table s s') :
    Tally table (log ++ s.fieldVisit?.toList) s'.closure s'.stack := by
  cases hstep with
  | entered name t hnew ht hc hstack hfield =>
    rw [hfield, hc, hstack, Option.toList_none, List.append_nil]
    exact h.enter hnew ht
  | visited t i stack hbefore hi hfield hc hstack =>
    rw [hfield, hc, Option.toList_some]
    rw [hbefore] at h
    exact (h.visit hi).of_suffix hstack
  | left t i hbefore hi hfield hc =>
    rw [hfield, hc, Option.toList_none, List.append_nil]
    rw [hbefore] at h
    exact h.leave hi
  | idle hfield hc hstack =>
    rw [hfield, hc, Option.toList_none, List.append_nil]
    exact h.of_suffix hstack

/-- **A visit keeps the tally**, with all fields that it visits. -/
theorem stages (h : Tally table log s.closure s.stack) {r : Visited}
    (hr : (stages table s).getLast? = some (.ended r)) :
    Tally table (log ++ fieldVisits (stages table s)) r.1 [] := by
  induction s using stages.induct table generalizing log with
  | case1 s hover =>
    obtain ⟨r', rfl⟩ := advance_eq_none_iff.mp hover
    rw [stages_ended] at hr ⊢
    obtain rfl : r' = r := by simpa using hr
    exact (List.append_nil log).symm ▸ h
  | case2 s next hnext ih =>
    rw [getLast?_stages_of_advance hnext] at hr
    rw [stages_of_advance hnext, fieldVisits_cons, ← List.append_assoc]
    exact ih (h.step (change_of_advance hnext)) hr

end Tally

/-! ### Any number of visits -/

/-- **All stages of visits** of some names, one after the other, whether or not they meet faults. -/
def life (table : Table) : Closure → List String → List Stage
  | _, [] => []
  | c, name :: names => stages table (.call c name []) ++ life table (c.resolve table name).1 names

/-- **Visits keep the tally**, with all fields that they visit. -/
theorem Tally.life (h : Tally table log c []) (names : List String) :
    Tally table (log ++ fieldVisits (life table c names)) (c.after table names) [] := by
  induction names generalizing c log with
  | nil => exact (List.append_nil log).symm ▸ h
  | cons name names ih =>
    have hfirst : Tally table _ (c.resolve table name).1 [] :=
      Tally.stages (s := .call c name []) h (getLast?_stages table c name)
    rw [Closure.life, fieldVisits, List.filterMap_append, ← List.append_assoc]
    exact ih hfirst

/-- No more fields of some types are visited than they have, if this holds of each of the types. -/
theorem length_le_length_fields {types : List InputType}
    (howner : ∀ v ∈ log, v.owner ∈ types.map (·.name))
    (hlength : ∀ t ∈ types, (positionsOf t.name log).length ≤ t.fields.length) :
    log.length ≤ (types.flatMap (·.fields)).length := by
  induction types generalizing log with
  | nil => simpa [List.eq_nil_iff_forall_not_mem] using howner
  | cons t types ih =>
    have hsplit := List.length_eq_length_filter_add (l := log) (·.owner = t.name)
    have hfirst := hlength t List.mem_cons_self
    rw [positionsOf, List.length_map] at hfirst
    have hrest : (log.filter fun v => !decide (v.owner = t.name)).length ≤
        (types.flatMap (·.fields)).length := by
      refine ih (fun v hv => ?_) fun u hu => ?_
      · obtain ⟨hv, hne⟩ := List.mem_filter.mp hv
        simpa using (List.mem_cons.mp (howner v hv)).resolve_left (by simpa using hne)
      · refine Nat.le_trans (List.Sublist.length_le ?_) (hlength u (List.mem_cons_of_mem _ hu))
        exact (List.filter_sublist.filter _).map _
    rw [List.flatMap_cons, List.length_append]
    omega

/-- **What visits do is bounded.**

* There is no endless sequence of steps from any stage. So the stages of a visit are a list, and
  the last of them is the result of the visit, whatever was collected before.
* A visit is at no stage inside of more types than there were names of the table left to register
  when it began, so it does the same with whatever depth beyond that number.
* Over all visits from the empty closure, with those that meet faults, the visited fields of each
  type are some of its first ones, in order and each once, and all of them if it is declared. So no
  more fields are visited than there are in the table. -/
theorem visits_bounded (table : Table) :
    (WellFounded fun later earlier : Stage => advance table earlier = some later) ∧
      (∀ c name, (stages table (.call c name [])).getLast? =
        some (.ended (c.resolve table name))) ∧
      (∀ c name, ∀ s ∈ stages table (.call c name []), s.stack.length ≤ c.remaining table) ∧
      (∀ c name depth, c.remaining table < depth →
        visit table depth c name = c.resolve table name) ∧
      ∀ names,
        (∀ t ∈ table.types, ∃ k ≤ t.fields.length,
          positionsOf t.name (fieldVisits (life table empty names)) = List.range k ∧
            (t ∈ (empty.after table names).declared → k = t.fields.length)) ∧
        (fieldVisits (life table empty names)).length ≤
          (table.types.flatMap (·.fields)).length := by
  refine ⟨wellFounded_advance table, getLast?_stages table, fun c name s hs => ?_,
    fun c name depth hdepth => ?_, fun names => ?_⟩
  · simpa [Stage.stack, Stage.closure] using height_le_of_mem_stages hs
  · exact (walk_visit depth c name hdepth).deterministic (walk_resolve table c name)
  · have h : Tally table (fieldVisits (life table empty names)) (empty.after table names) [] :=
      Tally.empty.life names
    refine ⟨fun t ht => ?_, length_le_length_fields (fun v hv => ?_) fun t ht => ?_⟩
    · obtain ⟨k, hk, hpositions⟩ := h.once t ht
      refine ⟨k, hk, hpositions, fun hdecl => ?_⟩
      simpa using congrArg List.length (hpositions.symm.trans (h.declared t hdecl).2.1)
    · obtain ⟨t, ht⟩ := (interrupted_empty.after names).registered _ (h.registered v hv)
      exact Table.mem_names_of_find? ht
    · obtain ⟨k, hk, hpositions⟩ := h.once t ht
      simpa [hpositions] using hk

theorem visits_bounded_mistakenTable :
    (∀ s ∈ stages mistakenTable (.call empty "Filter" []), s.stack.length ≤ 5) ∧
      empty.remaining mistakenTable < 6 ∧
      visit mistakenTable 6 empty "Filter" = empty.resolve mistakenTable "Filter" ∧
      (empty.resolve mistakenTable "Filter").2 ≠ none ∧
      (∃ k ≤ 3, positionsOf "Filter" (fieldVisits (life mistakenTable empty
        ["Filter", "Sort", "Filter", "Page"])) = List.range k) ∧
      positionsOf "Page" (fieldVisits (life mistakenTable empty
        ["Filter", "Sort", "Filter", "Page"])) = [0] ∧
      (fieldVisits (life mistakenTable empty ["Filter", "Sort", "Filter", "Page"])).length ≤ 6 := by
  obtain ⟨-, -, hheight, hdepth, hlife⟩ := visits_bounded mistakenTable
  obtain ⟨hfields, hlength⟩ := hlife ["Filter", "Sort", "Filter", "Page"]
  refine ⟨hheight empty "Filter", by decide, hdepth empty "Filter" 6 (by decide), by decide, ?_, ?_,
    hlength⟩
  · obtain ⟨k, hk, hpositions, -⟩ := hfields _ (List.mem_cons_of_mem _ List.mem_cons_self)
    exact ⟨k, hk, hpositions⟩
  · obtain ⟨k, -, hpositions, hall⟩ := hfields _ List.mem_cons_self
    rw [hall (List.mem_cons_of_mem _ List.mem_cons_self)] at hpositions
    exact hpositions

example : fieldVisits (life mistakenTable empty ["Filter", "Page"]) =
    [⟨"Filter", 0⟩, ⟨"Filter", 1⟩, ⟨"Filter", 2⟩, ⟨"Order", 0⟩, ⟨"Order", 1⟩, ⟨"Page", 0⟩] := by
  cbv

end Closure

end OperationCatalog.Metadata
