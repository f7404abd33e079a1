import OperationCatalog.Text.Lines

/-!
# Splitting texts

Parts that were put together with a separator are found again by splitting at the separator, as long
as it is in none of them. Lines are the parts of a text that a line feed ends
(`OperationCatalog.Text.splitOn_unlines`), and in general a part ends where the first character
stands that it cannot hold.
-/

namespace OperationCatalog.Text

/-! ### Up to a character -/

section

variable {property : Char → Bool} {part : List Char} {c : Char}

theorem ne_of_notMem (h : c ∉ part) : ∀ d ∈ part, (d != c) = true := by
  intro d hd
  rw [bne_iff_ne]
  rintro rfl
  exact h hd

theorem takeWhile_part (h : ∀ d ∈ part, property d = true) (hc : property c = false)
    (rest : List Char) : (part ++ c :: rest).takeWhile property = part := by
  rw [List.takeWhile_append_of_pos h]
  simp [hc]

theorem dropWhile_part (h : ∀ d ∈ part, property d = true) (hc : property c = false)
    (rest : List Char) : (part ++ c :: rest).dropWhile property = c :: rest := by
  rw [List.dropWhile_append_of_pos h]
  simp [hc]

end

/-! ### Separators -/

/-- What holds of the characters of a separator and of all parts holds of all characters. -/
theorem forall_mem_intercalate {P : Char → Prop} {separator : List Char} {parts : List (List Char)}
    (hs : ∀ c ∈ separator, P c) (h : ∀ part ∈ parts, ∀ c ∈ part, P c) :
    ∀ c ∈ separator.intercalate parts, P c := by
  induction parts with
  | nil => simp
  | cons part parts ih =>
    have first := h part List.mem_cons_self
    have later := ih fun p hp => h p (List.mem_cons_of_mem _ hp)
    cases parts with
    | nil => simpa using first
    | cons next parts =>
      rw [List.intercalate_cons_cons]
      exact List.forall_mem_append.mpr ⟨List.forall_mem_append.mpr ⟨first, hs⟩, later⟩

/-- Only the separators change where the parts have nothing that is left out. -/
theorem filter_intercalate {property : Char → Bool} (separator : List Char)
    {parts : List (List Char)} (h : ∀ part ∈ parts, ∀ c ∈ part, property c = true) :
    (separator.intercalate parts).filter property =
      (separator.filter property).intercalate parts := by
  induction parts with
  | nil => simp
  | cons part parts ih =>
    have first : part.filter property = part :=
      List.filter_eq_self.mpr (h part List.mem_cons_self)
    have later := ih fun p hp => h p (List.mem_cons_of_mem _ hp)
    cases parts with
    | nil => simpa using first
    | cons next parts =>
      rw [List.intercalate_cons_cons, List.intercalate_cons_cons, List.filter_append,
        List.filter_append, first, later]

/-! ### Lines -/

theorem toList_unlines_cons (line : String) (lines : List String) :
    (unlines (line :: lines)).toList = line.toList ++ '\n' :: (unlines lines).toList := by
  simp [unlines]

/-- **The text of some lines is split into these lines**, with an empty one at the end. -/
theorem splitOn_unlines {lines : List String} (h : ∀ line ∈ lines, '\n' ∉ line.toList) :
    (unlines lines).toList.splitOn '\n' = lines.map String.toList ++ [[]] := by
  induction lines with
  | nil => rfl
  | cons line lines ih =>
    rw [toList_unlines_cons, List.splitOn_append_cons_self_of_not_mem (h line List.mem_cons_self),
      ih fun other hother => h other (List.mem_cons_of_mem _ hother)]
    rfl

end OperationCatalog.Text
