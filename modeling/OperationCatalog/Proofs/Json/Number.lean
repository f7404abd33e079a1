import Mathlib.Data.List.TakeWhile
import OperationCatalog.Json.Reader
import OperationCatalog.Proofs.Log

/-!
# Numbers in JSON

Numbers, truth values and null stand without quotes, so a reader has to find out by itself where
they end: an *atom* is made of letters, digits, signs and points, and it ends where none of them
follows (`OperationCatalog.Json.Ends`). What is read of an atom that stands alone is therefore read
of it in front of everything that ends it (`OperationCatalog.Json.readAtom_append`), and it is
enough to know what is read of atoms that stand alone.

An integer that is written is read back (`OperationCatalog.Json.readAtom_toString`): its decimal
text has no zero in front, and if it can be written it has not too many digits to be read.
-/

namespace OperationCatalog.Json

/-! ### Digits -/

theorem toNat_le_of_isDigit {c : Char} (h : c.isDigit = true) : c.toNat - 48 ≤ 9 := by
  simp only [Char.isDigit, Bool.and_eq_true, decide_eq_true_eq] at h
  have := UInt32.le_iff_toNat_le.mp h.2
  simp only [Char.toNat] at *
  change c.val.toNat ≤ 57 at this
  omega

/-- **A number of so many digits** is below the power of ten with so many zeros. -/
theorem digitsValue_lt {digits : List Char} (h : digits.all Char.isDigit = true) :
    digitsValue digits < powerOfTen digits.length := by
  -- with digits read before, the number they make counts as one digit more
  have hfold : ∀ n : Nat, digits.foldl (fun n c => n * 10 + (c.toNat - 48)) n <
      (n + 1) * powerOfTen digits.length := by
    induction digits with
    | nil => intro n; simp
    | cons c digits ih =>
      intro n
      rw [List.all_cons, Bool.and_eq_true] at h
      have hc := toNat_le_of_isDigit h.1
      have hrest := ih h.2 (n * 10 + (c.toNat - 48))
      rw [List.foldl_cons, List.length_cons, powerOfTen_succ]
      calc digits.foldl (fun n c => n * 10 + (c.toNat - 48)) (n * 10 + (c.toNat - 48))
          < (n * 10 + (c.toNat - 48) + 1) * powerOfTen digits.length := hrest
        _ ≤ ((n + 1) * 10) * powerOfTen digits.length := Nat.mul_le_mul_right _ (by omega)
        _ = (n + 1) * (powerOfTen digits.length * 10) := by
          rw [Nat.mul_assoc, Nat.mul_comm 10]
  simpa [digitsValue] using hfold 0

theorem powerOfTen_le {m n : Nat} (h : m ≤ n) : powerOfTen m ≤ powerOfTen n :=
  Nat.pow_le_pow_right (by decide) h

/-- **A number of few digits** can be written. -/
theorem isWritable_of_digits {digits : List Char} (h : digits.all Char.isDigit = true)
    (hlength : digits.length ≤ Decimal.maxDigits) (negative : Bool) :
    Decimal.isWritable (Binary64.signed negative (digitsValue digits)) = true := by
  have hlt := Nat.lt_of_lt_of_le (digitsValue_lt h) (powerOfTen_le hlength)
  have habs : (Binary64.signed negative (digitsValue digits)).natAbs = digitsValue digits := by
    cases negative <;> simp [Binary64.signed]
  unfold Decimal.isWritable
  rw [habs, decide_eq_true hlt, Bool.or_true]

/-- The decimal text of a number is read as the number. -/
theorem digitsValue_toDigits (n : Nat) : digitsValue (Nat.toDigits 10 n) = n := by
  have hsame : digitsValue (Nat.toDigits 10 n) = Nat.ofDigitChars 10 (Nat.toDigits 10 n) 0 := by
    unfold digitsValue Nat.ofDigitChars
    congr 1
    funext m c
    rw [Nat.mul_comm]
    rfl
  rw [hsame, Nat.ofDigitChars_ten_toDigits]

theorem all_isDigit_toDigits (n : Nat) : (Nat.toDigits 10 n).all Char.isDigit = true :=
  List.all_eq_true.mpr fun _ hc => Nat.isDigit_of_mem_toDigits (by decide) (by decide) hc

/-- **No decimal text has a zero in front**, but for zero itself. -/
theorem toDigits_eq_zero_cons {n : Nat} {digits : List Char}
    (h : Nat.toDigits 10 n = '0' :: digits) : digits = [] := by
  have hall := all_isDigit_toDigits n
  have hvalue := digitsValue_toDigits n
  rw [h] at hall hvalue
  rw [List.all_cons, Bool.and_eq_true] at hall
  have hlt : n < powerOfTen digits.length := by
    have := digitsValue_lt hall.2
    rwa [show digitsValue digits = n from hvalue] at this
  by_contra hne
  -- without the zero there are fewer digits, and they are enough
  have hlength := (Nat.length_toDigits_le_iff (by decide) (List.length_pos_iff.mpr hne)).mpr hlt
  rw [h, List.length_cons] at hlength
  omega

/-- **A number that can be written** has not too many digits. -/
theorem length_toDigits_le {i : Int} (h : Decimal.isWritable i = true) :
    (Nat.toDigits 10 i.natAbs).length ≤ Decimal.maxDigits := by
  refine (Nat.length_toDigits_le_iff (by decide) (by decide)).mpr ?_
  unfold Decimal.isWritable at h
  rw [Bool.or_eq_true, decide_eq_true_iff, decide_eq_true_iff] at h
  generalize Decimal.maxDigits = size at h ⊢
  rcases h with h | h
  · by_cases hzero : i.natAbs = 0
    · rw [hzero]
      exact Nat.pow_pos (by decide)
    · -- three binary digits are less than a decimal one
      calc i.natAbs < 2 ^ (3 * size) := (Nat.log2_lt hzero).mp h
        _ = (2 ^ 3) ^ size := Nat.pow_mul 2 3 _
        _ ≤ 10 ^ size := Nat.pow_le_pow_left (by decide) _
  · exact h

/-! ### Atoms -/

/-- Whether a character may occur in what stands without quotes. -/
def isAtomChar (c : Char) : Bool := c.isAlphanum || c == '+' || c == '-' || c == '.'

/-- **A text of such characters.** -/
def AtomText (s : List Char) : Prop := ∀ c ∈ s, isAtomChar c = true

instance (s : List Char) : Decidable (AtomText s) := List.decidableBAll (isAtomChar · = true) s

namespace AtomText

variable {s t : List Char} {c : Char}

@[simp] theorem nil : AtomText [] := fun _ h => absurd h List.not_mem_nil

@[simp] theorem cons : AtomText (c :: s) ↔ isAtomChar c = true ∧ AtomText s := List.forall_mem_cons

@[simp] theorem append : AtomText (s ++ t) ↔ AtomText s ∧ AtomText t := List.forall_mem_append

theorem subset (hs : AtomText s) (h : t ⊆ s) : AtomText t := fun c hc => hs c (h hc)

theorem replicate (h : isAtomChar c = true) (count : Nat) : AtomText (List.replicate count c) :=
  fun _ hd => List.eq_of_mem_replicate hd ▸ h

end AtomText

/-- **What ends an atom**: nothing, or a text that starts with none of its characters. -/
def Ends (rest : List Char) : Prop := ∀ c ∈ rest.head?, isAtomChar c = false

theorem isAtomChar_of_isDigit {c : Char} (h : c.isDigit = true) : isAtomChar c = true := by
  simp [isAtomChar, Char.isAlphanum, h]

variable {cs rest : List Char}

/-- No character of an atom ends it. -/
theorem Ends.head_ne {c d : Char} (h : Ends (c :: rest)) (hd : isAtomChar d = true) : c ≠ d := by
  rintro rfl
  simp [h c rfl] at hd

theorem Ends.isDigit_eq_false {c : Char} (h : Ends (c :: rest)) : c.isDigit = false := by
  by_contra hdigit
  exact h.head_ne (isAtomChar_of_isDigit (by simpa using hdigit)) rfl

/-- Digits are read up to what ends the atom, too. -/
theorem takeWhile_append_of_ends (h : Ends rest) (cs : List Char) :
    (cs ++ rest).takeWhile Char.isDigit = cs.takeWhile Char.isDigit ∧
      (cs ++ rest).dropWhile Char.isDigit = cs.dropWhile Char.isDigit ++ rest := by
  induction cs with
  | nil =>
    rcases rest with _ | ⟨c, rest⟩
    · simp
    · simp [h.isDigit_eq_false]
  | cons c cs ih =>
    rw [List.cons_append, List.takeWhile_cons, List.dropWhile_cons, List.takeWhile_cons,
      List.dropWhile_cons, ih.1, ih.2]
    split <;> simp

/-! ### Parts of numbers -/

theorem readFraction_append (h : Ends rest) (cs : List Char) :
    readFraction (cs ++ rest) = ((readFraction cs).1, (readFraction cs).2 ++ rest) := by
  rcases cs with _ | ⟨c, cs⟩
  · rcases rest with _ | ⟨c, rest⟩
    · rfl
    · rw [List.nil_append,
        readFraction.eq_2 _ fun _ heq => h.head_ne (by decide) (List.cons.inj heq).1]
      rfl
  · by_cases hc : c = '.'
    · subst hc
      rw [List.cons_append, readFraction, readFraction, (takeWhile_append_of_ends h cs).1,
        (takeWhile_append_of_ends h cs).2]
      split <;> rfl
    · rw [List.cons_append, readFraction.eq_2 _ fun _ heq => hc (List.cons.inj heq).1,
        readFraction.eq_2 _ fun _ heq => hc (List.cons.inj heq).1]
      rfl

/-- The sign in front of the digits of an exponent, if there is one. -/
def splitSign : List Char → Bool × List Char
  | '-' :: more => (true, more)
  | '+' :: more => (false, more)
  | more => (false, more)

theorem readExponent_cons (e : Char) (cs : List Char) :
    readExponent (e :: cs) =
      if e == 'e' || e == 'E' then
        match (splitSign cs).2.takeWhile Char.isDigit with
        | [] => (none, e :: cs)
        | digits => (some (Binary64.signed (splitSign cs).1 (digitsValue digits)),
            (splitSign cs).2.dropWhile Char.isDigit)
      else (none, e :: cs) := rfl

theorem splitSign_append (h : Ends rest) (cs : List Char) :
    splitSign (cs ++ rest) = ((splitSign cs).1, (splitSign cs).2 ++ rest) := by
  have hother {c : Char} (hminus : c ≠ '-') (hplus : c ≠ '+') (more : List Char) :
      splitSign (c :: more) = (false, c :: more) := by
    unfold splitSign
    split <;> simp_all
  rcases cs with _ | ⟨c, cs⟩
  · rcases rest with _ | ⟨c, rest⟩
    · rfl
    · exact hother (h.head_ne (by decide)) (h.head_ne (by decide)) rest
  · by_cases hminus : c = '-'
    · subst hminus
      rfl
    · by_cases hplus : c = '+'
      · subst hplus
        rfl
      · rw [List.cons_append, hother hminus hplus, hother hminus hplus]
        rfl

theorem splitSign_suffix (cs : List Char) : (splitSign cs).2 <:+ cs := by
  unfold splitSign
  split
  · exact List.suffix_cons _ _
  · exact List.suffix_cons _ _
  · exact List.suffix_refl _

theorem readExponent_append (h : Ends rest) (cs : List Char) :
    readExponent (cs ++ rest) = ((readExponent cs).1, (readExponent cs).2 ++ rest) := by
  rcases cs with _ | ⟨e, cs⟩
  · rcases rest with _ | ⟨c, rest⟩
    · rfl
    · have hlower : (c == 'e') = false := beq_false_of_ne (h.head_ne (by decide))
      have hupper : (c == 'E') = false := beq_false_of_ne (h.head_ne (by decide))
      rw [List.nil_append, readExponent_cons, hlower, hupper]
      rfl
  · rw [List.cons_append, readExponent_cons, readExponent_cons, splitSign_append h,
      (takeWhile_append_of_ends h _).1, (takeWhile_append_of_ends h _).2]
    split
    · split <;> rfl
    · rfl

theorem readFraction_suffix (cs : List Char) : (readFraction cs).2 <:+ cs := by
  unfold readFraction
  split
  · split
    · exact List.suffix_refl _
    · exact (List.dropWhile_suffix _).trans (List.suffix_cons _ _)
  · exact List.suffix_refl _

theorem readExponent_suffix (cs : List Char) : (readExponent cs).2 <:+ cs := by
  rcases cs with _ | ⟨e, cs⟩
  · exact List.suffix_refl _
  · rw [readExponent_cons]
    split
    · split
      · exact List.suffix_refl _
      · exact (List.dropWhile_suffix _).trans
          ((splitSign_suffix cs).trans (List.suffix_cons _ _))
    · exact List.suffix_refl _

/-- The digits before the point: a zero stands alone. -/
def wholePart (cs : List Char) : List Char :=
  match cs with
  | '0' :: _ => ['0']
  | _ => cs.takeWhile Char.isDigit

theorem readNumber?_eq (negative : Bool) (cs : List Char) :
    readNumber? negative cs =
      if (wholePart cs).isEmpty then none
      else
        let fraction := readFraction (cs.drop (wholePart cs).length)
        let exponent := readExponent fraction.2
        if fraction.1.isEmpty && exponent.1.isNone then
          if (wholePart cs).length ≤ Decimal.maxDigits then
            some (.ok (.scalar (.int (Binary64.signed negative (digitsValue (wholePart cs)))),
              exponent.2))
          else some (.error .integerTooLong)
        else
          some (.ok (.scalar (.float (Binary64.ofDecimal negative
            (digitsValue (wholePart cs ++ fraction.1)) (exponent.1.getD 0 - fraction.1.length))),
            exponent.2)) := rfl

theorem wholePart_of_ne {c : Char} (hc : c ≠ '0') (cs : List Char) :
    wholePart (c :: cs) = (c :: cs).takeWhile Char.isDigit := by
  unfold wholePart
  split <;> simp_all

theorem wholePart_append (h : Ends rest) (cs : List Char) :
    wholePart (cs ++ rest) = wholePart cs := by
  rcases cs with _ | ⟨c, cs⟩
  · rcases rest with _ | ⟨c, rest⟩
    · rfl
    · rw [List.nil_append, wholePart_of_ne (h.head_ne (by decide)), List.takeWhile_cons,
        h.isDigit_eq_false]
      rfl
  · by_cases hc : c = '0'
    · subst hc
      rfl
    · rw [List.cons_append, wholePart_of_ne hc, wholePart_of_ne hc, ← List.cons_append,
        (takeWhile_append_of_ends h _).1]

theorem length_wholePart_le (cs : List Char) : (wholePart cs).length ≤ cs.length := by
  unfold wholePart
  split
  · simp
  · exact (List.takeWhile_sublist _).length_le

variable {negative : Bool} {v : Value} {left : List Char}

theorem readNumber?_append (h : Ends rest)
    (hread : readNumber? negative cs = some (.ok (v, left))) :
    readNumber? negative (cs ++ rest) = some (.ok (v, left ++ rest)) := by
  rw [readNumber?_eq] at hread ⊢
  rw [wholePart_append h, List.drop_append_of_le_length (length_wholePart_le cs),
    readFraction_append h]
  dsimp only at hread ⊢
  rw [readExponent_append h]
  split at hread
  · simp at hread
  · split at hread
    · split at hread
      · cases hread
        simp_all
      · simp at hread
    · cases hread
      simp_all

/-- **What is made of a number** that stands here: an integer if only digits do, unless they are too
many, and a float otherwise. -/
theorem readNumber?_cases {x : Except Stop (Value × List Char)}
    (h : readNumber? negative cs = some x) :
    ∃ left, left <:+ cs ∧
      ((wholePart cs).length ≤ Decimal.maxDigits ∧
          x = .ok (.scalar (.int (Binary64.signed negative (digitsValue (wholePart cs)))), left) ∨
        Decimal.maxDigits < (wholePart cs).length ∧ x = .error .integerTooLong ∨
        ∃ number, x = .ok (.scalar (.float number), left)) := by
  rw [readNumber?_eq] at h
  dsimp only at h
  refine ⟨(readExponent (readFraction (cs.drop (wholePart cs).length)).2).2,
    (readExponent_suffix _).trans ((readFraction_suffix _).trans (List.drop_suffix _ _)), ?_⟩
  split at h
  · simp at h
  · split at h
    · split at h
      · rename_i hlength
        exact .inl ⟨hlength, (Option.some.inj h).symm⟩
      · rename_i hlong
        exact .inr (.inl ⟨not_le.mp hlong, (Option.some.inj h).symm⟩)
    · exact .inr (.inr ⟨_, (Option.some.inj h).symm⟩)

theorem readNumber?_suffix (hread : readNumber? negative cs = some (.ok (v, left))) :
    left <:+ cs := by
  obtain ⟨rest, hrest, ⟨-, hok⟩ | ⟨-, hstop⟩ | ⟨number, hok⟩⟩ := readNumber?_cases hread
  · exact (Prod.mk.inj (Except.ok.inj hok)).2 ▸ hrest
  · cases hstop
  · exact (Prod.mk.inj (Except.ok.inj hok)).2 ▸ hrest

/-- **The decimal text of a number** with few enough digits is read as the number. -/
theorem readNumber?_toDigits {n : Nat} (h : (Nat.toDigits 10 n).length ≤ Decimal.maxDigits) :
    readNumber? negative (Nat.toDigits 10 n) =
      some (.ok (.scalar (.int (Binary64.signed negative n)), [])) := by
  have hwhole : wholePart (Nat.toDigits 10 n) = Nat.toDigits 10 n := by
    rcases hdigits : Nat.toDigits 10 n with _ | ⟨c, digits⟩
    · rfl
    · by_cases hc : c = '0'
      · subst hc
        rw [toDigits_eq_zero_cons hdigits]
        rfl
      · rw [wholePart_of_ne hc, ← hdigits]
        exact List.takeWhile_eq_self_iff.mpr (List.all_eq_true.mp (all_isDigit_toDigits n))
  have hne : (Nat.toDigits 10 n).isEmpty = false := by
    rw [List.isEmpty_eq_false_iff]
    exact Nat.toDigits_ne_nil
  rw [readNumber?_eq, hwhole, hne, List.drop_length, digitsValue_toDigits]
  simp [readFraction, readExponent, h]

/-! ### Names -/

/-- Whether a text starts with a word is not changed by what ends the atom. -/
theorem isPrefixOf_append (h : Ends rest) {word : List Char}
    (hword : AtomText word) (cs : List Char) :
    word.isPrefixOf (cs ++ rest) = word.isPrefixOf cs := by
  induction word generalizing cs with
  | nil => simp [List.isPrefixOf_nil_left]
  | cons d word ih =>
    obtain ⟨hd, hword⟩ := AtomText.cons.mp hword
    rcases cs with _ | ⟨c, cs⟩
    · rcases rest with _ | ⟨c, rest⟩
      · rfl
      · have hne : (d == c) = false := beq_false_of_ne (h.head_ne hd).symm
        simp [List.isPrefixOf, hne]
    · simp [List.isPrefixOf, ih hword cs]

theorem afterWord?_append (h : Ends rest) {word : String}
    (hword : AtomText word.toList) (cs : List Char) :
    afterWord? word (cs ++ rest) = (afterWord? word cs).map (· ++ rest) := by
  unfold afterWord?
  rw [isPrefixOf_append h hword]
  split
  · rename_i hprefix
    have hlength := (List.isPrefixOf_iff_prefix.mp hprefix).length_le
    rw [String.length_toList] at hlength
    rw [List.drop_append_of_le_length hlength]
    rfl
  · rfl

theorem afterWord?_suffix {word : String} (h : afterWord? word cs = some left) : left <:+ cs := by
  unfold afterWord? at h
  split at h
  · cases h
    exact List.drop_suffix _ _
  · simp at h

/-- The value that a name stands for, if one stands here. -/
def readName? (cs : List Char) : Option (Value × List Char) :=
  namedValues.findSome? fun (word, s) => (afterWord? word cs).map (Value.scalar s, ·)

theorem readName?_append (h : Ends rest) (cs : List Char) :
    readName? (cs ++ rest) = (readName? cs).map fun found => (found.1, found.2 ++ rest) := by
  have hwords : ∀ entry ∈ namedValues, AtomText entry.1.toList := by decide
  unfold readName?
  rw [List.map_findSome?]
  generalize namedValues = entries at hwords
  induction entries with
  | nil => rfl
  | cons entry entries ih =>
    obtain ⟨hword, hwords⟩ := List.forall_mem_cons.mp hwords
    rw [List.findSome?_cons, List.findSome?_cons, ih hwords]
    dsimp only [Function.comp_apply]
    rw [afterWord?_append h hword]
    cases afterWord? entry.1 cs <;> rfl

theorem readName?_suffix {found : Value × List Char} (h : readName? cs = some found) :
    found.2 <:+ cs := by
  obtain ⟨entry, -, hentry⟩ := List.exists_of_findSome?_eq_some h
  obtain ⟨left, hleft, rfl⟩ := Option.map_eq_some_iff.mp hentry
  exact afterWord?_suffix hleft

/-! ### Names and numbers -/

/-- A number with its sign. -/
def readSigned? (cs : List Char) : Option (Except Stop (Value × List Char)) :=
  match cs with
  | '-' :: rest => readNumber? true rest
  | _ => readNumber? false cs

theorem readAtom_eq (cs : List Char) :
    readAtom cs =
      match readName? cs with
      | some found => .ok found
      | none => (readSigned? cs).getD (stop .expectingValue cs) := rfl

theorem readSigned?_of_ne {c : Char} (hc : c ≠ '-') (cs : List Char) :
    readSigned? (c :: cs) = readNumber? false (c :: cs) := by
  unfold readSigned?
  split <;> simp_all

/-- **What is read of an atom** is a name or a number. -/
theorem readAtom_eq_ok (h : readAtom cs = .ok (v, left)) :
    readName? cs = some (v, left) ∨
      readName? cs = none ∧ readSigned? cs = some (.ok (v, left)) := by
  rw [readAtom_eq] at h
  split at h
  · rename_i found hname
    cases h
    exact Or.inl hname
  · rename_i hname
    refine Or.inr ⟨hname, ?_⟩
    rcases hsigned : readSigned? cs with _ | result
    · simp [hsigned, stop] at h
    · rw [hsigned] at h
      exact congrArg some h

theorem readSigned?_append (h : Ends rest) (hread : readSigned? cs = some (.ok (v, left))) :
    readSigned? (cs ++ rest) = some (.ok (v, left ++ rest)) := by
  rcases cs with _ | ⟨c, cs⟩
  · simp [readSigned?, readNumber?_eq, wholePart] at hread
  · by_cases hc : c = '-'
    · subst hc
      exact readNumber?_append h hread
    · rw [readSigned?_of_ne hc] at hread
      rw [List.cons_append, readSigned?_of_ne hc]
      exact readNumber?_append h hread

theorem readSigned?_suffix (hread : readSigned? cs = some (.ok (v, left))) : left <:+ cs := by
  unfold readSigned? at hread
  split at hread
  · exact (readNumber?_suffix hread).trans (List.suffix_cons _ _)
  · exact readNumber?_suffix hread

/-- **What is read of an atom that stands alone** is read of it in front of what ends it. -/
theorem readAtom_append (h : Ends rest) (hread : readAtom cs = .ok (v, left)) :
    readAtom (cs ++ rest) = .ok (v, left ++ rest) := by
  rw [readAtom_eq, readName?_append h]
  rcases readAtom_eq_ok hread with hname | ⟨hname, hsigned⟩
  · rw [hname]
    rfl
  · rw [hname, readSigned?_append h hsigned]
    rfl

theorem readAtom_suffix (hread : readAtom cs = .ok (v, left)) : left <:+ cs := by
  rcases readAtom_eq_ok hread with hname | ⟨-, hsigned⟩
  · exact readName?_suffix hname
  · exact readSigned?_suffix hsigned

/-- **No name has a digit** among its first three characters. -/
theorem readName?_eq_none {n : Nat} {c : Char} (hn : n < 3) (hget : cs[n]? = some c)
    (hc : c.isDigit = true) : readName? cs = none := by
  have hnames : ∀ entry ∈ namedValues, 3 ≤ entry.1.toList.length ∧
      entry.1.toList.any Char.isDigit = false := by decide
  by_contra hname
  obtain ⟨found, hfound⟩ := Option.ne_none_iff_exists'.mp hname
  obtain ⟨entry, hentry, hafter⟩ := List.exists_of_findSome?_eq_some hfound
  obtain ⟨left, hleft, -⟩ := Option.map_eq_some_iff.mp hafter
  obtain ⟨hlength, hdigit⟩ := hnames entry hentry
  unfold afterWord? at hleft
  split at hleft
  · rename_i hprefix
    obtain ⟨more, rfl⟩ := List.isPrefixOf_iff_prefix.mp hprefix
    rw [List.getElem?_append_left (by omega)] at hget
    simp [List.any_eq_false.mp hdigit c (List.mem_of_getElem? hget)] at hc
  · simp at hleft

/-- **An integer that is written is read back.** -/
theorem readAtom_toString {i : Int} (h : Decimal.isWritable i = true) :
    readAtom (toString i).toList = .ok (.scalar (.int i), []) := by
  obtain ⟨c, digits, hdigits⟩ :=
    List.exists_cons_of_ne_nil (Nat.toDigits_ne_nil (n := i.natAbs) (b := 10))
  have hc : c.isDigit = true :=
    Nat.isDigit_of_mem_toDigits (b := 10) (n := i.natAbs) (by decide) (by decide)
      (by simp [hdigits])
  have hread (negative : Bool) : readNumber? negative (c :: digits) =
      some (.ok (.scalar (.int (Binary64.signed negative i.natAbs)), [])) := by
    rw [← hdigits]
    exact readNumber?_toDigits (length_toDigits_le h)
  rw [Int.toString_eq_repr, Int.repr_eq_if]
  split
  · rename_i hi
    have hminus : c ≠ '-' := by
      rintro rfl
      simp at hc
    have habs : i.toNat = i.natAbs := by omega
    have hvalue : Binary64.signed false i.natAbs = i := by
      rw [Binary64.signed, if_neg (by simp)]
      omega
    rw [habs, Nat.toList_repr, hdigits, readAtom_eq, readName?_eq_none (n := 0) (by decide) rfl hc,
      readSigned?_of_ne hminus, hread, hvalue]
    rfl
  · rename_i hi
    have habs : (-i).toNat = i.natAbs := by omega
    have hvalue : Binary64.signed true i.natAbs = i := by
      rw [Binary64.signed, if_pos rfl]
      omega
    have htext : ("-" ++ Nat.repr i.natAbs).toList = '-' :: c :: digits := by
      rw [String.toList_append, Nat.toList_repr, hdigits]
      rfl
    rw [habs, htext, readAtom_eq, readName?_eq_none (n := 1) (by decide) rfl hc, readSigned?, hread,
      hvalue]
    rfl

/-! ### The texts of numbers -/

theorem atomText_toDigits (n : Nat) : AtomText (Nat.toDigits 10 n) := fun c hc =>
  isAtomChar_of_isDigit (List.all_eq_true.mp (all_isDigit_toDigits n) c hc)

theorem atomText_positional {digits : List Char} (h : AtomText digits) (leading : Int) :
    AtomText (Decimal.positional digits leading) := by
  have zeros (count : Nat) : AtomText (List.replicate count '0') := .replicate (by decide) count
  have hzero : isAtomChar '0' = true := by decide
  have hpoint : isAtomChar '.' = true := by decide
  unfold Decimal.positional
  split
  · simp [zeros, h, hzero, hpoint]
  · have whole := h.subset (List.take_subset (leading.toNat + 1) digits)
    have tail := h.subset (List.drop_subset (leading.toNat + 1) digits)
    dsimp only
    split <;> simp [zeros, whole, tail, hzero, hpoint]

theorem atomText_exponential {digits : List Char} (h : AtomText digits) (leading : Int) :
    AtomText (Decimal.exponential digits leading) := by
  have size := atomText_toDigits leading.natAbs
  have zeros (count : Nat) : AtomText (List.replicate count '0') := .replicate (by decide) count
  have hletter : isAtomChar 'e' = true := by decide
  have hpoint : isAtomChar '.' = true := by decide
  have hminus : isAtomChar '-' = true := by decide
  have hplus : isAtomChar '+' = true := by decide
  unfold Decimal.exponential
  dsimp only
  split <;> split <;> simp_all

/-- **A floating-point number** is written with the characters of atoms, if what has no digits
is. -/
theorem atomText_write {layout : Decimal.Layout} (hnan : AtomText layout.nan.toList)
    (hinfinity : AtomText layout.infinity.toList) (x : Binary64) : AtomText (layout.write x) := by
  have sign (negative : Bool) : AtomText (if negative then ['-'] else []) := by
    cases negative <;> decide
  unfold Decimal.Layout.write
  dsimp only
  split
  · exact hnan
  · exact AtomText.append.mpr ⟨sign _, hinfinity⟩
  · exact AtomText.append.mpr ⟨sign _, by decide⟩
  · refine AtomText.append.mpr ⟨sign _, ?_⟩
    have kept (digits : List Char) (h : AtomText digits) :
        AtomText (digits.reverse.dropWhile (· == '0')).reverse :=
      h.subset fun c hc => List.mem_reverse.mp
        ((List.dropWhile_sublist _).mem (List.mem_reverse.mp hc))
    split
    · exact atomText_positional (kept _ (atomText_toDigits _)) _
    · exact atomText_exponential (kept _ (atomText_toDigits _)) _

theorem atomText_toString (i : Int) : AtomText (toString i).toList := by
  have hminus : isAtomChar '-' = true := by decide
  rw [Int.toString_eq_repr, Int.repr_eq_if]
  split <;> simp [atomText_toDigits, hminus]

end OperationCatalog.Json
