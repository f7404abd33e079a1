import OperationCatalog.Proofs.Log

/-!
# Readers of texts

A reader is given a text and leaves an end of it, or it fails. As readers run one after the other,
what one of them meets stands in the text that all of them were given. So a fault that is blamed on
something that stands in the text a reader is given (`OperationCatalog.Blame`) can be blamed on the
whole text, and of readers that are put together nothing has to be shown again
(`OperationCatalog.Reads.bind`).
-/

namespace OperationCatalog

variable {ε ρ ρ' : Type}

/-- **What faults are blamed on**: something about a text, which holds of a text if it holds of an
end of it. -/
structure Blame (ε : Type) where
  /-- Whether a text is to blame for a fault. -/
  On : List Char → ε → Prop
  /-- A text is to blame if an end of it is. -/
  of_suffix : ∀ {text rest : List Char} {e : ε}, rest <:+ text → On rest e → On text e

/-- **What is read of a text**: an end of it is left, and for a fault the text is to blame. -/
structure Reads (blame : Blame ε) (left : ρ → List Char) (text : List Char) (x : Except ε ρ) :
    Prop where
  /-- What is left is an end of the text. -/
  suffix : ∀ r, x = .ok r → left r <:+ text
  /-- The text is to blame. -/
  blame : ∀ e, x = .error e → blame.On text e

variable {blame : Blame ε} {left : ρ → List Char} {left' : ρ' → List Char} {text rest : List Char}

theorem Reads.of_suffix {x : Except ε ρ} (h : Reads blame left rest x) (hrest : rest <:+ text) :
    Reads blame left text x where
  suffix r hr := (h.suffix r hr).trans hrest
  blame e he := blame.of_suffix hrest (h.blame e he)

/-- **One reader after another** reads what the first is given. -/
theorem Reads.bind {x : Except ε ρ} {f : ρ → Except ε ρ'} (hx : Reads blame left text x)
    (hf : ∀ r, Reads blame left' (left r) (f r)) : Reads blame left' text (x >>= f) where
  suffix r hr := by
    obtain ⟨s, hs, hr⟩ := bind_eq_ok_iff.mp hr
    exact ((hf s).suffix r hr).trans (hx.suffix s hs)
  blame e he := by
    rcases bind_eq_error_iff.mp he with he | ⟨s, hs, he⟩
    · exact hx.blame e he
    · exact blame.of_suffix (hx.suffix s hs) ((hf s).blame e he)

/-- What is read may be rearranged. -/
theorem Reads.map {x : Except ε ρ} {f : ρ → ρ'} (hx : Reads blame left text x)
    (hf : ∀ r, left' (f r) <:+ left r) : Reads blame left' text (x.map f) where
  suffix r hr := by
    obtain ⟨s, hs, rfl⟩ := map_eq_ok_iff.mp hr
    exact (hf s).trans (hx.suffix s hs)
  blame e he := hx.blame e (map_eq_error_iff.mp he)

end OperationCatalog
