import Mathlib.Data.List.Forall2
import OperationCatalog.Log

/-!
# Results of computations in steps

When a computation of several steps has a result, each of its steps has one. This file takes such
computations apart: a failing or recording step after another, the same step for each member of a
list, and a step whose failures are renamed.
-/

namespace OperationCatalog

variable {ε ε' α β : Type}

/-! ### Computations that may fail -/

theorem ok_bind (a : α) (f : α → Except ε β) : (Except.ok a >>= f) = f a := rfl

theorem error_bind (e : ε) (f : α → Except ε β) : (Except.error e >>= f) = .error e := rfl

theorem bind_eq_ok_iff {x : Except ε α} {f : α → Except ε β} {b : β} :
    (x >>= f) = .ok b ↔ ∃ a, x = .ok a ∧ f a = .ok b := by
  cases x with
  | error e => exact ⟨fun h => by simp [bind, Except.bind] at h, fun ⟨_, h, _⟩ => by simp at h⟩
  | ok a => exact ⟨fun h => ⟨a, rfl, h⟩, fun ⟨_, h, hf⟩ => by cases h; exact hf⟩

theorem bind_eq_error_iff {x : Except ε α} {f : α → Except ε β} {e : ε} :
    (x >>= f) = .error e ↔ x = .error e ∨ ∃ a, x = .ok a ∧ f a = .error e := by
  cases x with
  | error e' => simp [bind, Except.bind]
  | ok a => simp [bind, Except.bind]

theorem toOption_eq_some_iff {x : Except ε α} {a : α} : x.toOption = some a ↔ x = .ok a := by
  cases x <;> simp [Except.toOption]

/-- A result is there exactly if there is no failure. -/
theorem exists_eq_ok_iff {x : Except ε α} : (∃ a, x = .ok a) ↔ ∀ e, x ≠ .error e := by
  cases x <;> simp

/-- What is only rearranged at the end fails where it failed before. -/
theorem bind_pure_eq_error_iff {x : Except ε α} {f : α → β} {e : ε} :
    (x >>= fun a => pure (f a)) = .error e ↔ x = .error e := by
  cases x <;> simp [bind, Except.bind, pure, Except.pure]

/-- A result that is there is the one that it defaults to. -/
theorem eq_ok_getD {x : Except ε α} (h : x.toOption.isSome = true) (a : α) :
    x = .ok (x.toOption.getD a) := by
  cases x with
  | ok b => rfl
  | error e => simp [Except.toOption] at h

theorem pure_eq_ok_iff {a b : α} : (pure a : Except ε α) = .ok b ↔ a = b := by
  simp [pure, Except.pure]

theorem map_eq_ok_iff {x : Except ε α} {f : α → β} {b : β} :
    x.map f = .ok b ↔ ∃ a, x = .ok a ∧ f a = b := by
  cases x <;> simp [Except.map]

theorem map_eq_error_iff {x : Except ε α} {f : α → β} {e : ε} :
    x.map f = .error e ↔ x = .error e := by
  cases x <;> simp [Except.map]

/-- What is only turned into something else is there exactly if it was. -/
theorem exists_map_iff {x : Except ε α} {f : α → β} : (∃ b, x.map f = .ok b) ↔ ∃ a, x = .ok a := by
  simp [map_eq_ok_iff]

theorem exists_bind_pure_iff {x : Except ε α} {f : α → β} :
    (∃ b, (x >>= fun a => pure (f a)) = .ok b) ↔ ∃ a, x = .ok a := by
  cases x <;> simp

theorem mapError_eq_ok_iff {x : Except ε α} {f : ε → ε'} {a : α} :
    x.mapError f = .ok a ↔ x = .ok a := by
  cases x <;> simp [Except.mapError]

theorem mapError_eq_error_iff {x : Except ε α} {f : ε → ε'} {e : ε'} :
    x.mapError f = .error e ↔ ∃ e', x = .error e' ∧ f e' = e := by
  cases x <;> simp [Except.mapError]

/-- **A step for each member of a list** has the results of the steps, member by member. -/
theorem mapM_eq_ok_iff {f : α → Except ε β} {as : List α} {bs : List β} :
    as.mapM f = .ok bs ↔ List.Forall₂ (fun a b => f a = .ok b) as bs := by
  induction as generalizing bs with
  | nil => rw [List.mapM_nil, pure_eq_ok_iff, List.forall₂_nil_left_iff, eq_comm]
  | cons a as ih =>
    rw [List.mapM_cons, bind_eq_ok_iff, List.forall₂_cons_left_iff]
    constructor
    · rintro ⟨b, hb, h⟩
      obtain ⟨bs', hbs, h⟩ := bind_eq_ok_iff.mp h
      exact ⟨b, bs', hb, ih.mp hbs, (pure_eq_ok_iff.mp h).symm⟩
    · rintro ⟨b, bs', hb, hbs, rfl⟩
      exact ⟨b, hb, bind_eq_ok_iff.mpr ⟨bs', ih.mpr hbs, rfl⟩⟩

/-- **The first member that offends**: those before it pass. -/
def First (passes offends : α → Prop) (as : List α) : Prop :=
  ∃ before a after, as = before ++ a :: after ∧ (∀ b ∈ before, passes b) ∧ offends a

/-- The first member that offends is either the first of all, or it comes after one that passes. -/
theorem first_cons_iff {passes offends : α → Prop} {a : α} {as : List α} :
    First passes offends (a :: as) ↔ offends a ∨ passes a ∧ First passes offends as := by
  constructor
  · rintro ⟨before, b, after, h, hbefore, hb⟩
    cases before with
    | nil =>
      obtain ⟨rfl, -⟩ := List.cons.inj h
      exact Or.inl hb
    | cons a' before =>
      obtain ⟨rfl, rfl⟩ := List.cons.inj h
      obtain ⟨ha, hbefore⟩ := List.forall_mem_cons.mp hbefore
      exact Or.inr ⟨ha, before, b, after, rfl, hbefore, hb⟩
  · rintro (ha | ⟨ha, before, b, after, rfl, hbefore, hb⟩)
    · exact ⟨[], a, as, rfl, by simp, ha⟩
    · exact ⟨a :: before, b, after, rfl, List.forall_mem_cons.mpr ⟨ha, hbefore⟩, hb⟩

/-- The first member that offends is the first in another way, if each passes or offends in that way
too. -/
theorem First.imp {passes passes' offends offends' : α → Prop} {as : List α}
    (h : First passes offends as) (hpasses : ∀ a ∈ as, passes a → passes' a)
    (hoffends : ∀ a ∈ as, offends a → offends' a) : First passes' offends' as := by
  obtain ⟨before, a, after, rfl, hbefore, ha⟩ := h
  exact ⟨before, a, after, rfl,
    fun b hb => hpasses b (List.mem_append_left _ hb) (hbefore b hb), hoffends a (by simp) ha⟩

/-- If not all members pass, there is a first one that does not. -/
theorem first_of_exists {passes : α → Prop} {as : List α} (h : ∃ a ∈ as, ¬passes a) :
    First passes (fun a => ¬passes a) as := by
  induction as with
  | nil => simp at h
  | cons a as ih =>
    rw [first_cons_iff]
    by_cases ha : passes a
    · obtain ⟨b, hb, hfails⟩ := h
      rcases List.mem_cons.mp hb with rfl | hb
      · exact absurd ha hfails
      · exact Or.inr ⟨ha, ih ⟨b, hb, hfails⟩⟩
    · exact Or.inl ha

/-- **A step for each member of a list** fails like the first of the steps that fails. -/
theorem mapM_eq_error_iff {f : α → Except ε β} {as : List α} {e : ε} :
    as.mapM f = .error e ↔ First (fun a => ∃ b, f a = .ok b) (fun a => f a = .error e) as := by
  induction as with
  | nil => simp [First, pure, Except.pure]
  | cons a as ih =>
    rw [List.mapM_cons, bind_eq_error_iff, first_cons_iff, ← ih]
    simp only [bind_pure_eq_error_iff, exists_and_right]

/-- A step for each member of a list fails like one of the steps. -/
theorem exists_of_mapM_eq_error {f : α → Except ε β} {as : List α} {e : ε}
    (h : as.mapM f = .error e) : ∃ a ∈ as, f a = .error e := by
  obtain ⟨before, a, after, rfl, -, ha⟩ := mapM_eq_error_iff.mp h
  exact ⟨a, by simp, ha⟩

/-- A step for each member of a list has results if each of the steps has one. -/
theorem exists_mapM {f : α → Except ε β} {as : List α} (h : ∀ a ∈ as, ∃ b, f a = .ok b) :
    ∃ bs, as.mapM f = .ok bs := by
  rcases hmap : as.mapM f with e | bs
  · obtain ⟨a, ha, he⟩ := exists_of_mapM_eq_error hmap
    obtain ⟨b, hb⟩ := h a ha
    simp [he] at hb
  · exact ⟨bs, rfl⟩

/-- Steps that are the same for each member of a list are the same for the list. -/
theorem mapM_congr {f g : α → Except ε β} {as : List α} (h : ∀ a ∈ as, f a = g a) :
    as.mapM f = as.mapM g := by
  induction as with
  | nil => rfl
  | cons a as ih =>
    obtain ⟨ha, has⟩ := List.forall_mem_cons.mp h
    rw [List.mapM_cons, List.mapM_cons, ha, ih has]

/-- **Steps one after the other** keep what each of them keeps. -/
theorem foldlM_keeps {f : β → α → Except ε β} {P : β → Prop} {as : List α} {b b' : β}
    (hstep : ∀ a ∈ as, ∀ b b', f b a = .ok b' → P b → P b') (h : as.foldlM f b = .ok b')
    (hb : P b) : P b' := by
  induction as generalizing b with
  | nil =>
    obtain rfl := Except.ok.inj h
    exact hb
  | cons a as ih =>
    obtain ⟨hfirst, hrest⟩ := List.forall_mem_cons.mp hstep
    rw [List.foldlM_cons] at h
    obtain ⟨next, hnext, h⟩ := bind_eq_ok_iff.mp h
    exact ih hrest h (hfirst b next hnext hb)

/-- What the steps keep, the whole keeps. -/
theorem map_eq_map_of_forall₂ {γ : Type} {r : α → β → Prop} {f : α → γ} {g : β → γ} {as : List α}
    {bs : List β} (h : List.Forall₂ r as bs) (hr : ∀ a b, r a b → f a = g b) :
    as.map f = bs.map g := by
  induction h with
  | nil => rfl
  | cons hab _ ih => rw [List.map_cons, List.map_cons, hr _ _ hab, ih]

/-- Each of the second members belongs to one of the first. -/
theorem exists_of_forall₂_of_mem {r : α → β → Prop} {as : List α} {bs : List β}
    (h : List.Forall₂ r as bs) {b : β} (hb : b ∈ bs) : ∃ a ∈ as, r a b := by
  induction h with
  | nil => simp at hb
  | cons hab _ ih =>
    rcases List.mem_cons.mp hb with rfl | hb
    · exact ⟨_, List.mem_cons_self, hab⟩
    · obtain ⟨a, ha, hr⟩ := ih hb
      exact ⟨a, List.mem_cons_of_mem _ ha, hr⟩

/-- Things in the same place belong together. -/
theorem exists_getElem?_of_forall₂ {r : α → β → Prop} {as : List α} {bs : List β}
    (h : List.Forall₂ r as bs) {i : Nat} {a : α} (ha : as[i]? = some a) :
    ∃ b, bs[i]? = some b ∧ r a b := by
  induction h generalizing i with
  | nil => simp at ha
  | @cons _ b _ _ hab _ ih =>
    cases i with
    | zero =>
      obtain rfl := Option.some.inj ha
      exact ⟨b, rfl, hab⟩
    | succ i => exact ih ha

/-- **A step for each member of a list** has results exactly if each of the steps has one. -/
theorem exists_mapM_iff {f : α → Except ε β} {as : List α} :
    (∃ bs, as.mapM f = .ok bs) ↔ ∀ a ∈ as, ∃ b, f a = .ok b := by
  refine ⟨fun ⟨bs, hbs⟩ a ha => ?_, exists_mapM⟩
  obtain ⟨b, -, hb⟩ := exists_of_forall₂_of_mem (mapM_eq_ok_iff.mp hbs).flip ha
  exact ⟨b, hb⟩

/-- What relates members relates them in another way, if it does so for each of the first ones. -/
theorem forall₂_imp_of_mem {r s : α → β → Prop} {as : List α} {bs : List β}
    (h : List.Forall₂ r as bs) (hrs : ∀ a ∈ as, ∀ b, r a b → s a b) : List.Forall₂ s as bs := by
  induction h with
  | nil => exact .nil
  | cons hab _ ih =>
    obtain ⟨ha, has⟩ := List.forall_mem_cons.mp hrs
    exact .cons (ha _ hab) (ih has)

/-- Members that are determined one by one are determined together. -/
theorem eq_of_forall₂ {r : α → β → Prop} {as : List α} {bs bs' : List β}
    (h : List.Forall₂ (fun a b => ∀ b', r a b' → b = b') as bs) (h' : List.Forall₂ r as bs') :
    bs = bs' := by
  induction h generalizing bs' with
  | nil =>
    cases h'
    rfl
  | cons hab _ ih =>
    obtain _ | ⟨hr, hrest⟩ := h'
    rw [hab _ hr, ih hrest]

/-- Members that each have something belong to some things. -/
theorem exists_forall₂ {r : α → β → Prop} {as : List α} (h : ∀ a ∈ as, ∃ b, r a b) :
    ∃ bs, List.Forall₂ r as bs := by
  induction as with
  | nil => exact ⟨[], .nil⟩
  | cons a as ih =>
    obtain ⟨⟨b, hb⟩, has⟩ := List.forall_mem_cons.mp h
    obtain ⟨bs, hbs⟩ := ih has
    exact ⟨b :: bs, .cons hb hbs⟩

/-- Of members that belong to something or to nothing, those that are kept belong to what is there. -/
theorem forall₂_filterMap_id {r : α → Option β → Prop} {p : α → Bool} {as : List α}
    {bs : List (Option β)} (h : List.Forall₂ r as bs) (hp : ∀ a b, r a b → b.isSome = p a) :
    List.Forall₂ (fun a b => r a (some b)) (as.filter p) (bs.filterMap id) := by
  induction h with
  | nil => exact .nil
  | @cons a b as bs hab _ ih =>
    have hkept : b.isSome = p a := hp a b hab
    cases b with
    | none => rwa [List.filter_cons_of_neg (by simp [← hkept])]
    | some b =>
      rw [List.filter_cons_of_pos (by simp [← hkept])]
      exact .cons hab ih

/-- What is found among the first members belongs to what is found among the second, if a member is
looked for where those that belong to it are. -/
theorem find?_of_forall₂ {r : α → β → Prop} {p : α → Bool} {q : β → Bool} {as : List α}
    {bs : List β} (h : List.Forall₂ r as bs) (hpq : ∀ a b, r a b → p a = q b) {a : α}
    (ha : as.find? p = some a) : ∃ b, bs.find? q = some b ∧ r a b := by
  induction h with
  | nil => simp at ha
  | @cons a' b' as bs hab _ ih =>
    rw [List.find?_cons] at ha ⊢
    rw [← hpq a' b' hab]
    split at ha
    · obtain rfl := Option.some.inj ha
      exact ⟨b', rfl, hab⟩
    · exact ih ha

/-! ### Computations that record -/

namespace Logged

@[simp] theorem outcome_bind_do (x : Logged ε α) (f : α → Logged ε β) :
    (x >>= f).outcome = x.outcome >>= fun a => (f a).outcome :=
  outcome_bind x f

@[simp] theorem outcome_pure_do (a : α) : (Pure.pure a : Logged ε α).outcome = Pure.pure a := rfl

@[simp] theorem outcome_record (level : Level) (text : String) :
    (record level text : Logged ε Unit).outcome = .ok () := rfl

@[simp] theorem outcome_mapError (f : ε → ε') (x : Logged ε α) :
    (x.mapError f).outcome = x.outcome.mapError f := rfl

@[simp] theorem outcome_fail (e : ε) : (fail e : Logged ε α).outcome = .error e := rfl

end Logged

end OperationCatalog
