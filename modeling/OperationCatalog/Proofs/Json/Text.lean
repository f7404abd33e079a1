import Mathlib.Tactic.SplitIfs
import OperationCatalog.Json.Reader
import OperationCatalog.Proofs.Log

/-!
# Texts in JSON

A text that is written is read back as the text it was written for, whatever the text is and
whatever follows its closing quote (`OperationCatalog.Json.readQuoted_flatMap`). The characters are
read one by one: seven have escapes of their own, control characters and – where only ASCII is
written – those beyond it are escaped by number, and all others stand for themselves.

A number of four hexadecimal digits is only read where more text follows it, and a pair of them only
where there is room for both. Inside a text the closing quote is always still to come.
-/

namespace OperationCatalog.Json

/-! ### Escapes by number -/

theorem hexValue?_hexDigit {n : Nat} (h : n < 16) : hexValue? (Text.hexDigit n) = some n := by
  have all : ∀ n : Fin 16, hexValue? (Text.hexDigit n) = some n.val := by decide
  exact all ⟨n, h⟩

theorem hexDigits_four (n : Nat) :
    Text.hexDigits 4 n = [Text.hexDigit (n / 16 / 16 / 16 % 16), Text.hexDigit (n / 16 / 16 % 16),
      Text.hexDigit (n / 16 % 16), Text.hexDigit (n % 16)] := rfl

variable {n : Nat} {rest : List Char}

/-- **Four digits are read** as the number that they were written for, in front of other text. -/
theorem readUnit?_hexDigits (h : n < 0x10000) (hrest : rest ≠ []) :
    readUnit? (Text.hexDigits 4 n ++ rest) = some (n, rest) := by
  obtain ⟨next, rest, rfl⟩ := List.exists_cons_of_ne_nil hrest
  have digit (m : Nat) : hexValue? (Text.hexDigit (m % 16)) = some (m % 16) :=
    hexValue?_hexDigit (Nat.mod_lt m (by decide))
  have hvalue : ((n / 16 / 16 / 16 % 16 * 16 + n / 16 / 16 % 16) * 16 + n / 16 % 16) * 16 + n % 16
      = n := by omega
  simp only [hexDigits_four, List.cons_append, List.nil_append, readUnit?, digit,
    Option.bind_eq_bind, Option.bind_some, hvalue]
  rfl

/-- No character is half of a pair. -/
theorem not_isHalf (c : Char) : ¬(0xd800 ≤ c.toNat ∧ c.toNat ≤ 0xdfff) := by
  rintro ⟨hlow, hhigh⟩
  rcases c.valid with h | ⟨h, -⟩
  · exact absurd hlow (Nat.not_le.mpr h)
  · exact absurd hhigh (Nat.not_le.mpr h)

/-- **An escape by number is read back**, be it one number or a pair of them. -/
theorem readNumericEscape_numericEscape (c : Char) (hrest : rest ≠ []) :
    ∃ more, numericEscape c ++ rest = '\\' :: 'u' :: more ∧
      readNumericEscape more = .ok (c, rest) := by
  have hhalf := not_isHalf c
  unfold numericEscape
  dsimp only
  split
  · rename_i hsmall
    refine ⟨Text.hexDigits 4 c.toNat ++ rest, rfl, ?_⟩
    have hhigh : isHighHalf c.toNat = false := by
      simp only [isHighHalf, Bool.and_eq_false_iff, decide_eq_false_iff_not]
      omega
    have hchar : unitChar c.toNat = c := by
      simp only [unitChar, Bool.and_eq_true, decide_eq_true_eq, if_neg hhalf, Char.ofNat_toNat]
    rw [readNumericEscape, readUnit?_hexDigits hsmall hrest]
    dsimp only
    split
    · rw [hhigh, hchar]
      rfl
    · rw [hchar]
  · rename_i hlarge
    -- the offset beyond the basic plane has twenty binary digits, ten for each half
    have hmax : c.toNat < 0x110000 := by
      rcases c.valid with h | ⟨-, h⟩
      · exact Nat.lt_of_lt_of_le h (by decide)
      · exact h
    obtain ⟨offset, hoffset⟩ : ∃ offset, c.toNat = 0x10000 + offset :=
      ⟨c.toNat - 0x10000, by omega⟩
    rw [hoffset, Nat.add_sub_cancel_left]
    have hhigh : isHighHalf (0xd800 + offset / 0x400) = true := by
      simp only [isHighHalf, Bool.and_eq_true, decide_eq_true_eq]
      omega
    have hlow : isLowHalf (0xdc00 + offset % 0x400) = true := by
      simp only [isLowHalf, Bool.and_eq_true, decide_eq_true_eq]
      omega
    have hsum : 0x10000 + (0xd800 + offset / 0x400 - 0xd800) * 0x400 +
        (0xdc00 + offset % 0x400 - 0xdc00) = c.toNat := by omega
    have hroom : hasPairRoom ('\\' :: 'u' :: (Text.hexDigits 4 (0xdc00 + offset % 0x400) ++ rest)) =
        true := by
      simpa [hasPairRoom, hexDigits_four] using hrest
    refine ⟨Text.hexDigits 4 (0xd800 + offset / 0x400) ++
      '\\' :: 'u' :: (Text.hexDigits 4 (0xdc00 + offset % 0x400) ++ rest), by simp [unitEscape], ?_⟩
    rw [readNumericEscape, readUnit?_hexDigits (by omega) (by simp)]
    have hunit : 0xdc00 + offset % 0x400 < 0x10000 := by omega
    simp only [hhigh, hroom, readUnit?_hexDigits hunit hrest, hlow, hsum, Char.ofNat_toNat]
    rfl

/-! ### Characters -/

variable {opened bound : Nat} {seen : List Char}

/-- A character that has no escape is read as itself. -/
theorem readText_of_ne {c : Char} (hquote : c ≠ '"') (hbackslash : c ≠ '\\') (hcontrol : ¬c < ' ') :
    readText opened (bound + 1) seen (c :: rest) = readText opened bound (c :: seen) rest := by
  rw [readText]
  · simp [hcontrol]
  all_goals simp [hquote, hbackslash]

/-- **One character that is written is read back**, if more text follows it. -/
theorem readText_writeChar (asciiOnly : Bool) (c : Char) (hrest : rest ≠ []) :
    readText opened (bound + 1) seen (writeChar asciiOnly c ++ rest) =
      readText opened bound (c :: seen) rest := by
  have hnumeric : readText opened (bound + 1) seen (numericEscape c ++ rest) =
      readText opened bound (c :: seen) rest := by
    obtain ⟨more, htext, hread⟩ := readNumericEscape_numericEscape c hrest
    rw [htext]
    change (readNumericEscape more >>= fun found =>
      readText opened bound (found.1 :: seen) found.2) = _
    rw [hread]
    rfl
  unfold writeChar
  split_ifs with hquote hbackslash hfeed hreturn htab hpage hback hcontrol
  · obtain rfl := beq_iff_eq.mp hquote
    rfl
  · obtain rfl := beq_iff_eq.mp hbackslash
    rfl
  · obtain rfl := beq_iff_eq.mp hfeed
    rfl
  · obtain rfl := beq_iff_eq.mp hreturn
    rfl
  · obtain rfl := beq_iff_eq.mp htab
    rfl
  · obtain rfl := beq_iff_eq.mp hpage
    rfl
  · obtain rfl := beq_iff_eq.mp hback
    rfl
  · exact hnumeric
  · exact hnumeric
  · exact readText_of_ne (by simpa using hquote) (by simpa using hbackslash) hcontrol

/-! ### Texts -/

/-- The characters of a text are read back, with room for as many. -/
theorem readText_flatMap (asciiOnly : Bool) (s rest : List Char) (h : s.length < bound) :
    readText opened bound seen (s.flatMap (writeChar asciiOnly) ++ '"' :: rest) =
      .ok (seen.reverse ++ s, rest) := by
  induction s generalizing bound seen with
  | nil =>
    obtain ⟨bound, rfl⟩ := Nat.exists_eq_succ_of_ne_zero (Nat.ne_of_gt h)
    rw [List.append_nil]
    rfl
  | cons c s ih =>
    obtain ⟨bound, rfl⟩ := Nat.exists_eq_succ_of_ne_zero (Nat.ne_of_gt (Nat.zero_lt_of_lt h))
    rw [List.flatMap_cons, List.append_assoc, readText_writeChar asciiOnly c (by simp),
      ih (Nat.lt_of_succ_lt_succ h)]
    simp

theorem length_le_flatMap_writeChar (asciiOnly : Bool) (s : List Char) :
    s.length ≤ (s.flatMap (writeChar asciiOnly)).length := by
  induction s with
  | nil => exact Nat.le_refl 0
  | cons c s ih =>
    have one : 1 ≤ (writeChar asciiOnly c).length := by
      unfold writeChar numericEscape
      dsimp only
      split_ifs <;> simp [unitEscape]
    rw [List.flatMap_cons, List.length_append, List.length_cons]
    omega

/-- **A text that is written is read back**, whatever it is and whatever follows it. -/
theorem readQuoted_flatMap (asciiOnly : Bool) (s : String) (rest : List Char) :
    readQuoted (s.toList.flatMap (writeChar asciiOnly) ++ '"' :: rest) = .ok (s, rest) := by
  -- escaping makes no text shorter, so the length of what is read is room enough
  have hlength := length_le_flatMap_writeChar asciiOnly s.toList
  rw [readQuoted, readText_flatMap asciiOnly s.toList rest
    (by simp only [List.length_append]; omega)]
  simp [bind, Except.bind, pure, Except.pure]

end OperationCatalog.Json
