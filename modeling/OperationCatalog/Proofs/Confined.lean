import OperationCatalog.Proofs.Log

/-!
# Steps that change a state and may fail

A computation of such steps is shown to stay within bounds by showing it of each step: from a
state with some property it comes to states with that property, and it fails only in certain ways
(`OperationCatalog.Confined`). What is put together of confined steps is confined.
-/

namespace OperationCatalog

variable {σ ε α β : Type} {inv : σ → Prop} {fails : ε → Prop}

/-- **A confined step** keeps a property of the state, and fails only in certain ways. -/
structure Confined (inv : σ → Prop) (fails : ε → Prop) (x : StateT σ (Except ε) α) : Prop where
  /-- It keeps the property. -/
  keeps : ∀ s r, inv s → x s = .ok r → inv r.2
  /-- It fails in these ways only. -/
  fault : ∀ s e, inv s → x s = .error e → fails e

theorem confined_pure (a : α) : Confined inv fails (pure a : StateT σ (Except ε) α) where
  keeps s r hs hr := by
    obtain rfl := Except.ok.inj hr
    exact hs
  fault s e hs he := by cases he

theorem Confined.bind {x : StateT σ (Except ε) α} {f : α → StateT σ (Except ε) β}
    (hx : Confined inv fails x) (hf : ∀ a, Confined inv fails (f a)) :
    Confined inv fails (x >>= f) where
  keeps s r hs hr := by
    obtain ⟨⟨a, s'⟩, hxs, hr⟩ := bind_eq_ok_iff.mp hr
    exact (hf a).keeps s' r (hx.keeps s _ hs hxs) hr
  fault s e hs he := by
    rcases bind_eq_error_iff.mp he with he | ⟨⟨a, s'⟩, hxs, he⟩
    · exact hx.fault s e hs he
    · exact (hf a).fault s' e (hx.keeps s _ hs hxs) he

theorem Confined.map {x : StateT σ (Except ε) α} (f : α → β) (hx : Confined inv fails x) :
    Confined inv fails (f <$> x) := by
  rw [map_eq_pure_bind]
  exact hx.bind fun a => confined_pure (f a)

end OperationCatalog
