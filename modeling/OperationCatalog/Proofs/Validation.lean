import Mathlib.Data.List.Forall2
import OperationCatalog.Proofs.Log
import OperationCatalog.Proofs.Value
import OperationCatalog.Validation

/-!
# Values that pass a check

A check of a whole passes if the checks of its parts do: those of the items of a sequence
(`OperationCatalog.Validation.listOf_ofTree`), of the entries of a mapping
(`OperationCatalog.Validation.mappingOf_ofTree`) and of the parts of a shape. A part that was left
out where there is nothing to say is read as what it is by default
(`OperationCatalog.Validation.optional_of_find?`).
-/

namespace OperationCatalog

/-! ### Values under a key -/

namespace Value

theorem find?_nil (key : String) : find? key [] = none := rfl

theorem find?_cons (key k : String) (v : Value) (rest : List (Scalar × Value)) :
    find? key ((.str k, v) :: rest) = if k = key then some v else find? key rest := by
  unfold find?
  rw [List.find?_cons]
  dsimp only
  rw [Scalar.sameKey_str]
  by_cases h : k = key
  · simp [h]
  · rw [beq_false_of_ne h, if_neg h]

end Value

namespace Checked

variable {α β γ : Type}

@[simp] theorem under_ok (step : Step) (a : α) : under step (.ok a) = .ok a := rfl

/-- Checks that all pass have their results. -/
theorem all_of_forall₂ {checks : List (Checked α)} {results : List α}
    (h : List.Forall₂ (fun check a => check = .ok a) checks results) :
    all checks = .ok results := by
  induction h with
  | nil => rfl
  | cons hcheck _ ih =>
    rw [all, hcheck, ih]
    rfl

/-- Two checks side by side pass if both do. -/
theorem ap_eq_ok {f : Checked (α → β)} {a : Checked α} {b : β} (h : ap f a = .ok b) :
    ∃ g x, f = .ok g ∧ a = .ok x ∧ g x = b := by
  unfold ap at h
  split at h
  · exact ⟨_, _, rfl, rfl, Except.ok.inj h⟩
  all_goals simp at h

/-- The results of checks are those of each. -/
theorem forall₂_of_all {checks : List (Checked α)} {results : List α} (h : all checks = .ok results) :
    List.Forall₂ (fun check a => check = .ok a) checks results := by
  induction checks generalizing results with
  | nil =>
    obtain rfl := Except.ok.inj h
    exact .nil
  | cons check checks ih =>
    obtain ⟨f, more, hf, hmore, rfl⟩ := ap_eq_ok h
    obtain ⟨a, ha, rfl⟩ := map_eq_ok_iff.mp hf
    exact .cons ha (ih hmore)

theorem under_eq_ok {step : Step} {check : Checked α} {a : α} (h : under step check = .ok a) :
    check = .ok a :=
  mapError_eq_ok_iff.mp h

end Checked

namespace Validation

variable {α β : Type} {check : ValueGraph → Checked α} {key : String} {others : List String}

/-! ### Collections -/

/-- **A sequence** passes if its items do. -/
theorem listOf_ofTree {items : List Value} {results : List α}
    (h : List.Forall₂ (fun v a => check (.ofTree v) = .ok a) items results) :
    listOf check (.ofTree (.list items)) = .ok results := by
  have hsteps : ∀ step : Nat → Step,
      Checked.all ((items.map ValueGraph.ofTree).mapIdx fun index item =>
      Checked.under (step index) (check item)) = .ok results := by
    induction h with
    | nil => exact fun _ => rfl
    | cons hitem _ ih =>
      intro step
      rw [List.map_cons, List.mapIdx_cons, Checked.all, hitem, ih fun index => step (index + 1)]
      rfl
  exact hsteps fun index => .index index

/-- A sequence of what things are written as is read back if each of them is. -/
theorem listOf_map {write : α → Value} {given : List α}
    (h : ∀ a ∈ given, check (.ofTree (write a)) = .ok a) :
    listOf check (.ofTree (.list (given.map write))) = .ok given :=
  listOf_ofTree (List.forall₂_map_left_iff.mpr (List.forall₂_same.mpr h))

/-- **A mapping from texts** passes if its values do. -/
theorem mappingOf_ofTree {entries : List (Scalar × Value)} {results : List (String × α)}
    (h : List.Forall₂ (fun entry result => entry.1 = .str result.1 ∧
      check (.ofTree entry.2) = .ok result.2) entries results) :
    mappingOf check (.ofTree (.map entries)) = .ok results := by
  refine Checked.all_of_forall₂ (List.forall₂_map_left_iff.mpr ?_)
  refine h.imp fun entry result hentry => ?_
  obtain ⟨k, v⟩ := entry
  obtain ⟨rfl, hcheck⟩ := hentry
  dsimp only
  rw [show check ((ValueGraph.ofTree (.map entries)).withRoot v) = .ok result.2 from hcheck]
  rfl

/-- The values of a mapping pass the check. -/
theorem exists_of_mem_mappingOf {g : ValueGraph} {pairs : List (String × α)}
    (h : mappingOf check g = .ok pairs) {pair : String × α} (hpair : pair ∈ pairs) :
    ∃ v, check v = .ok pair.2 := by
  obtain ⟨e, -, h⟩ := bind_eq_ok_iff.mp h
  obtain ⟨checked, hchecked, hof⟩ := exists_of_forall₂_of_mem (Checked.forall₂_of_all h) hpair
  obtain ⟨entry, -, rfl⟩ := List.mem_map.mp hchecked
  obtain ⟨f, a, hf, ha, rfl⟩ := Checked.ap_eq_ok (Checked.under_eq_ok hof)
  obtain ⟨name, -, rfl⟩ := map_eq_ok_iff.mp hf
  exact ⟨_, ha⟩

/-! ### Parts of a shape -/

/-- A record that shares nothing. -/
def Entries.ofTree (entries : List (Scalar × Value)) : Entries := ⟨.ofTree (.map entries), entries⟩

variable {entries : List (Scalar × Value)}

theorem entries_ofTree (otherwise : IssueCause) :
    Validation.entries otherwise (.ofTree (.map entries)) = .ok (.ofTree entries) := rfl

theorem get?_ofTree :
    (Entries.ofTree entries).get? key = (Value.find? key entries).map .ofTree := rfl

/-- **A part that is there** passes if its value does. -/
theorem required_of_find? {v : Value} {a : α} (hfind : Value.find? key entries = some v)
    (hcheck : check (.ofTree v) = .ok a) : (Entries.ofTree entries).required key check = .ok a := by
  unfold Entries.required
  rw [get?_ofTree, hfind]
  dsimp only [Option.map_some]
  rw [hcheck, Checked.under_ok]

/-- **A part that is there if there is something to say** passes if its value does, and is what it
is by default where it is left out. -/
theorem optional_of_find? (said : Option β) (write : β → Value) (result : β → α) {default : α}
    (hfind : Value.find? key entries = said.map write)
    (hothers : ∀ other ∈ others, Value.find? other entries = none)
    (hcheck : ∀ b ∈ said, check (.ofTree (write b)) = .ok (result b)) :
    (Entries.ofTree entries).optional key others default check =
      .ok ((said.map result).getD default) := by
  unfold Entries.optional Entries.first?
  rw [List.findSome?_cons, get?_ofTree, hfind]
  cases said with
  | none =>
    have hnone : (others.findSome? fun other =>
        ((Entries.ofTree entries).get? other).map (other, ·)) = none := by
      refine List.findSome?_eq_none_iff.mpr fun other hother => ?_
      rw [get?_ofTree, hothers other hother]
      rfl
    rw [Option.map_none, Option.map_none, Option.map_none, hnone]
    rfl
  | some b =>
    have hb := hcheck b rfl
    rw [Option.map_some, Option.map_some, Option.map_some]
    dsimp only
    rw [hb]
    rfl

/-- **A part that must be there** passes its check. -/
theorem required_eq_ok {e : Entries} {a : α} (h : e.required key check = .ok a) :
    ∃ g, check g = .ok a := by
  replace h := Checked.under_eq_ok h
  split at h
  · exact ⟨_, h⟩
  · simp [Checked.wrong] at h

/-- **A part that may be missing** is what it is by default, or it passes its check. -/
theorem optional_eq_ok {e : Entries} {default a : α}
    (h : e.optional key others default check = .ok a) : a = default ∨ ∃ g, check g = .ok a := by
  unfold Entries.optional at h
  split at h
  · exact Or.inr ⟨_, Checked.under_eq_ok h⟩
  · exact Or.inl (Except.ok.inj h).symm

end Validation

end OperationCatalog
