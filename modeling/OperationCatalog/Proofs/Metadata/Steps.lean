import Mathlib.Algebra.Ring.Nat
import OperationCatalog.Proofs.Metadata.Agreement

/-!
# The steps of a visit

A visit recurses from the fields of a type to their types. How often it does so, and how many types
it is inside of at a time, cannot be read off what it collects. This file takes a visit apart into
its steps (`OperationCatalog.Metadata.Closure.advance`): the types that it is inside of stand on a
stack, each with the number of its fields that were visited, and no step has a depth to go by.

* **Every visit ends.** Each step registers a name of the table, or it leaves the registered names
  as they are and has less to do for the types on the stack
  (`OperationCatalog.Metadata.Closure.advance_lt`). That is a lexicographic order, so there is no
  endless sequence of steps from any stage, and all stages that follow one another are a list
  (`OperationCatalog.Metadata.Closure.stages`).
* **The last stage is the result of the visit**
  (`OperationCatalog.Metadata.Closure.getLast?_stages`): every rule of a walk is some steps, over
  whatever is on the stack already.
-/

namespace OperationCatalog.Metadata

namespace Closure

/-! ### Stages and steps -/

/-- A type that a visit is inside of. -/
structure Frame where
  /-- The type. -/
  type : InputType
  /-- How many of its fields were visited. -/
  passed : ℕ

/-- **Where a visit stands.** The visit of a name nests as deep as the stack below it is high. -/
inductive Stage where
  /-- A name is about to be visited, from inside of the types on the stack. -/
  | call (c : Closure) (name : String) (stack : List Frame)
  /-- The type on top of the stack is about to go on with its fields. -/
  | inside (c : Closure) (stack : List Frame)
  /-- The visit is over. -/
  | ended (r : Visited)

/-- What has been collected at a stage. -/
def Stage.closure : Stage → Closure
  | call c _ _ => c
  | inside c _ => c
  | ended r => r.1

/-- The types that a visit is inside of, the innermost first. -/
def Stage.stack : Stage → List Frame
  | call _ _ stack => stack
  | inside _ stack => stack
  | ended _ => []

/-- **One step of a visit**, unless it is over. A fault leaves all types on the stack at once. -/
def advance (table : Table) : Stage → Option Stage
  | .call c name stack =>
    if c.contains name then some (.inside c stack)
    else match table.find? name with
      | none => some (.ended (c, some (.missing name)))
      | some t => some (.inside (c.register name) (⟨t, 0⟩ :: stack))
  | .inside c [] => some (.ended (c, none))
  | .inside c (⟨t, i⟩ :: stack) =>
    match t.fields[i]? with
    | none => some (.inside (c.declare t) stack)
    | some field =>
      match needed table t.name field with
      | .error fault => some (.ended (c, some fault))
      | .ok none => some (.inside c (⟨t, i + 1⟩ :: stack))
      | .ok (some name) =>
        if name = "" then some (.inside c (⟨t, i + 1⟩ :: stack))
        else some (.call c name (⟨t, i + 1⟩ :: stack))
  | .ended _ => none

variable {table : Table} {c c' : Closure} {name : String} {errand : Errand} {r : Visited}
  {s s' : Stage} {t : InputType}

/-- Only a visit that is over makes no step. -/
theorem advance_eq_none_iff : advance table s = none ↔ ∃ r, s = .ended r := by
  fun_cases advance table s <;> simp_all

/-! ### What a step does -/

/-- A visit of a field of a type. -/
structure FieldVisit where
  /-- The name of the type. -/
  owner : String
  /-- The position of the field among those of the type. -/
  position : ℕ
  deriving DecidableEq, Repr

/-- The field that is visited at a stage: the next one of the type on top of the stack. -/
def Stage.fieldVisit? : Stage → Option FieldVisit
  | inside _ (⟨t, i⟩ :: _) => if i < t.fields.length then some ⟨t.name, i⟩ else none
  | _ => none

/-- The steps that a type still takes: at most two for a field, and one to leave it. -/
def Frame.load (f : Frame) : ℕ := 2 * (f.type.fields.length - f.passed) + 1

/-- A bound on the steps before the next registration. -/
def Stage.load : Stage → ℕ
  | call _ _ stack => (stack.map Frame.load).sum + 2
  | inside _ stack => (stack.map Frame.load).sum + 1
  | ended _ => 0

/-- **What a step does** to what is collected and to the stack, and the field that it visits. Only
the first kind of step registers a name, and the others leave less to do. -/
inductive Change (table : Table) (s s' : Stage) : Prop
  /-- It enters a type of the table. -/
  | entered (name : String) (t : InputType) (hnew : name ∉ s.closure.registered)
      (ht : table.find? name = some t) (hc : s'.closure = s.closure.register name)
      (hstack : s'.stack = ⟨t, 0⟩ :: s.stack) (hfield : s.fieldVisit? = none)
  /-- It visits the next field of the innermost type, and stays inside or leaves all types. -/
  | visited (t : InputType) (i : ℕ) (stack : List Frame) (hbefore : s.stack = ⟨t, i⟩ :: stack)
      (hi : i < t.fields.length) (hfield : s.fieldVisit? = some ⟨t.name, i⟩)
      (hc : s'.closure = s.closure) (hstack : s'.stack <:+ ⟨t, i + 1⟩ :: stack)
      (hload : s'.load < s.load)
  /-- It leaves the innermost type, whose fields were all visited, and declares it. -/
  | left (t : InputType) (i : ℕ) (hbefore : s.stack = ⟨t, i⟩ :: s'.stack)
      (hi : t.fields.length ≤ i) (hfield : s.fieldVisit? = none)
      (hc : s'.closure = s.closure.declare t) (hload : s'.load < s.load)
  /-- It collects nothing and enters no type. -/
  | idle (hfield : s.fieldVisit? = none) (hc : s'.closure = s.closure)
      (hstack : s'.stack <:+ s.stack) (hload : s'.load < s.load)

theorem change_of_advance (h : advance table s = some s') : Change table s s' := by
  have hvisit {t : InputType} {i : ℕ} {field : Field} (hfield : t.fields[i]? = some field)
      (c : Closure) (stack : List Frame) :
      i < t.fields.length ∧ (Stage.inside c (⟨t, i⟩ :: stack)).fieldVisit? = some ⟨t.name, i⟩ := by
    obtain ⟨hi, -⟩ := List.getElem?_eq_some_iff.mp hfield
    exact ⟨hi, if_pos hi⟩
  revert h
  fun_cases advance table s with
  | case1 c name stack hreg =>
    -- the name was visited before
    rintro ⟨⟩
    exact .idle rfl rfl (List.suffix_refl _) (by simp [Stage.load])
  | case2 c name stack hreg ht =>
    -- the name is not in the table
    rintro ⟨⟩
    exact .idle rfl rfl List.nil_suffix (by simp [Stage.load])
  | case3 c name stack hreg t ht =>
    rintro ⟨⟩
    exact .entered name t (fun h => hreg (contains_iff.mpr h)) ht rfl rfl rfl
  | case4 c =>
    -- no type is left on the stack
    rintro ⟨⟩
    exact .idle rfl rfl (List.suffix_refl _) (by simp [Stage.load])
  | case5 c t i stack hi =>
    rintro ⟨⟩
    have hi' := List.getElem?_eq_none_iff.mp hi
    exact .left t i rfl hi' (if_neg (by omega)) rfl (by simp [Stage.load, Frame.load])
  | case6 c t i stack field hfield fault hneed =>
    -- the field is wrong about its type, and the fault leaves the whole stack
    rintro ⟨⟩
    obtain ⟨hi, hv⟩ := hvisit hfield c stack
    exact .visited t i stack rfl hi hv rfl List.nil_suffix (by simp [Stage.load])
  | case7 c t i stack field hfield hneed | case8 c t i stack field hfield hneed =>
    -- the field needs no type, or one without a name
    rintro ⟨⟩
    obtain ⟨hi, hv⟩ := hvisit hfield c stack
    refine .visited t i stack rfl hi hv rfl (List.suffix_refl _) ?_
    simp only [Stage.load, Frame.load, List.map_cons, List.sum_cons]
    omega
  | case9 c t i stack field hfield name hneed hname =>
    -- the field needs a type, which is visited next, from inside of this one
    rintro ⟨⟩
    obtain ⟨hi, hv⟩ := hvisit hfield c stack
    refine .visited t i stack rfl hi hv rfl (List.suffix_refl _) ?_
    simp only [Stage.load, Frame.load, List.map_cons, List.sum_cons]
    omega
  | case10 r => simp

/-! ### Every visit ends -/

theorem remaining_declare : (c.declare t).remaining table = c.remaining table := by
  simp [remaining, contains]

/-- **Each step registers a name, or it leaves less to do.** -/
theorem advance_lt (h : advance table s = some s') :
    Prod.Lex (· < ·) (· < ·) (s'.closure.remaining table, s'.load)
      (s.closure.remaining table, s.load) := by
  cases change_of_advance h with
  | entered name t hnew ht hc =>
    rw [hc]
    exact .left _ _ (remaining_register_lt hnew (Table.mem_names_of_find? ht))
  | visited _ _ _ _ _ _ hc _ hload =>
    rw [hc]
    exact .right _ hload
  | left t _ _ _ _ hc hload =>
    rw [hc, remaining_declare]
    exact .right _ hload
  | idle _ hc _ hload =>
    rw [hc]
    exact .right _ hload

/-- **There is no endless sequence of steps**, from whatever stage. -/
theorem wellFounded_advance (table : Table) :
    WellFounded fun later earlier : Stage => advance table earlier = some later :=
  Subrelation.wf advance_lt
    (InvImage.wf (fun s : Stage => (s.closure.remaining table, s.load))
      (Prod.lex Nat.lt_wfRel Nat.lt_wfRel).wf)

/-- **All stages of a visit** from a stage on. -/
def stages (table : Table) (s : Stage) : List Stage :=
  match _h : advance table s with
  | none => [s]
  | some later => s :: stages table later
termination_by (s.closure.remaining table, s.load)
decreasing_by exact advance_lt _h

theorem stages_of_advance (h : advance table s = some s') :
    stages table s = s :: stages table s' := by
  rw [stages]
  split <;> simp_all

theorem stages_ended (r : Visited) : stages table (.ended r) = [.ended r] := by
  rw [stages]
  rfl

/-! ### The last stage -/

theorem getLast?_stages_of_advance (h : advance table s = some s') :
    (stages table s).getLast? = (stages table s').getLast? := by
  obtain ⟨rest, hrest⟩ : ∃ rest, stages table s' = s' :: rest := by
    rw [stages]
    split
    · exact ⟨[], rfl⟩
    · exact ⟨_, rfl⟩
  rw [stages_of_advance h, hrest, List.getLast?_cons_cons]

/-- Some steps lead from a stage to another one. -/
def Leads (table : Table) : Stage → Stage → Prop :=
  Relation.ReflTransGen fun earlier later => advance table earlier = some later

theorem Leads.getLast?_stages (h : Leads table s s') :
    (stages table s).getLast? = (stages table s').getLast? := by
  induction h with
  | refl => rfl
  | tail _ hstep ih => exact ih.trans (getLast?_stages_of_advance hstep)

/-- How a visit goes on inside of a type, after the visit of something in it. -/
def resumed : Visited → List Frame → Stage
  | (c, none), stack => .inside c stack
  | (c, some fault), _ => .ended (c, some fault)

/-- The steps of an errand, over whatever is on the stack. After fields, all fields of their type
were visited. -/
def Errand.TakesSteps (table : Table) (c : Closure) (r : Visited) : Errand → Prop
  | .type name => ∀ stack, Leads table (.call c name stack) (resumed r stack)
  | .fields owner rest => ∀ (t : InputType) (seen : List Field) (stack : List Frame),
      t.name = owner → t.fields = seen ++ rest →
        Leads table (.inside c (⟨t, seen.length⟩ :: stack))
          (resumed r (⟨t, t.fields.length⟩ :: stack))

/-- **A walk is a sequence of steps.** -/
theorem Walk.takesSteps (h : Walk table c errand r) : errand.TakesSteps table c r := by
  induction h with
  | known hreg =>
    intro stack
    exact .single (by simp [advance, contains_iff.mpr hreg, resumed])
  | missing hnew ht =>
    intro stack
    exact .single (by simp [advance, contains_eq_false_iff.mpr hnew, ht, resumed])
  | @finished c c' name t hnew ht _ ih =>
    intro stack
    refine .head (b := .inside (c.register name) (⟨t, 0⟩ :: stack))
      (by simp [advance, contains_eq_false_iff.mpr hnew, ht]) ?_
    refine (ih t [] stack (Table.name_of_find? ht) rfl).tail ?_
    simp [resumed, advance]
  | @abandoned c c' name t fault hnew ht _ ih =>
    intro stack
    refine .head (b := .inside (c.register name) (⟨t, 0⟩ :: stack))
      (by simp [advance, contains_eq_false_iff.mpr hnew, ht]) ?_
    exact ih t [] stack (Table.name_of_find? ht) rfl
  | done =>
    intro t seen stack _ hsplit
    rw [List.append_nil] at hsplit
    rw [← hsplit]
    exact .refl
  | refused hneed =>
    rintro t seen stack rfl hsplit
    exact .single (by simp [advance, hsplit, hneed, resumed])
  | @passed c owner field rest need r hneed hnone _ ih =>
    rintro t seen stack rfl hsplit
    have hrest := ih t (seen ++ [field]) stack rfl (by simp [hsplit])
    rw [List.length_append, List.length_singleton] at hrest
    refine .head ?_ hrest
    rcases need with _ | name
    · simp [advance, hsplit, hneed]
    · obtain rfl : name = "" := hnone
      simp [advance, hsplit, hneed]
  | @followed c c' owner field rest name r hneed hname _ _ ih ih' =>
    rintro t seen stack rfl hsplit
    have hrest := ih' t (seen ++ [field]) stack rfl (by simp [hsplit])
    rw [List.length_append, List.length_singleton] at hrest
    refine .head ?_ ((ih (⟨t, seen.length + 1⟩ :: stack)).trans hrest)
    simp [advance, hsplit, hneed, hname]
  | @stopped c c' owner field rest name fault hneed hname _ ih =>
    rintro t seen stack rfl hsplit
    refine .head ?_ (ih (⟨t, seen.length + 1⟩ :: stack))
    simp [advance, hsplit, hneed, hname]

/-- **The last stage is the result of the visit.** -/
theorem getLast?_stages (table : Table) (c : Closure) (name : String) :
    (stages table (.call c name [])).getLast? = some (.ended (c.resolve table name)) := by
  have hleads : Leads table (.call c name []) (.ended (c.resolve table name)) := by
    have hsteps := (walk_resolve table c name).takesSteps []
    rcases hr : c.resolve table name with ⟨c', _ | fault⟩
    · rw [hr] at hsteps
      exact hsteps.tail rfl
    · rw [hr] at hsteps
      exact hsteps
  rw [hleads.getLast?_stages, stages_ended]
  rfl

end Closure

end OperationCatalog.Metadata
