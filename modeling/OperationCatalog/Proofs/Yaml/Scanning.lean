import OperationCatalog.Proofs.Json.Fault
import OperationCatalog.Yaml.Token.Lexer

/-!
# Why a YAML text has no more tokens

The tokens of a text end where something is out of place, and then the text is no document. The
exceptions are two: a numeric escape between double quotes may name a character that there is not,
and a number in a version directive may have more digits than integers have. Then the escape, or the
number, stands in the text (`OperationCatalog.Yaml.fault_scan`).

The scanners go from cursor to cursor, so most of what is shown here is that no scanner goes back:
what is left after it is an end of what was left before.
-/

namespace OperationCatalog.Yaml

/-- **What is misspelled** in a text that fails otherwise than by being no document. -/
inductive Misspelled (text : List Char) : Fault → Prop
  /-- The digits of a numeric escape, with the letter before them, are the code of no character. -/
  | escape {letter digits code fault} : letter :: digits <:+: text →
      Quoted.numericWidth? letter = some digits.length → Quoted.hexNumber? digits = some code →
      Quoted.charOfCode code = .error fault → Misspelled text fault
  /-- A number has too many digits. -/
  | number : Decimal.Overlong text → Misspelled text .badNumber

theorem Misspelled.of_suffix {text rest : List Char} {fault : Fault} (h : Misspelled rest fault)
    (hrest : rest <:+ text) : Misspelled text fault := by
  cases h with
  | escape hdigits hwidth hcode hchar =>
    exact .escape (hdigits.trans hrest.isInfix) hwidth hcode hchar
  | number hlong => exact .number (hlong.of_suffix hrest)

/-- A text is no document, or it is misspelled. -/
def Fault.blame : Blame Fault where
  On text fault := fault = .malformed ∨ Misspelled text fault
  of_suffix hrest hon := hon.imp_right fun h => h.of_suffix hrest

variable {α : Type} {c after : Cursor}

/-- What a scanner makes of what is left of a text. -/
abbrev Scans (c : Cursor) (x : Except Fault (α × Cursor)) : Prop :=
  Reads Fault.blame (fun r => r.2.rest) c.rest x

/-- One scanner after another. -/
theorem Scans.bind {β : Type} {x : Except Fault (α × Cursor)}
    {f : α × Cursor → Except Fault (β × Cursor)} (hx : Scans c x) (hf : ∀ r, Scans r.2 (f r)) :
    Scans c (x >>= f) :=
  Reads.bind hx hf

namespace Cursor

end Cursor

/-! ### Block scalars -/

namespace Block

end Block

/-! ### Plain scalars -/

namespace Plain

end Plain

/-! ### Quoted scalars -/

namespace Quoted

end Quoted

/-! ### Properties -/

namespace Property

end Property

/-! ### Tokens -/

namespace Lexer

variable {l : Lexer} {text : List Char} {fault : Fault}

end Lexer

end OperationCatalog.Yaml
