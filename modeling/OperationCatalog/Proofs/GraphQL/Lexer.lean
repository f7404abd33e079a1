import OperationCatalog.GraphQL.Token.Lexer
import OperationCatalog.GraphQL.Value
import OperationCatalog.Proofs.Log

/-!
# Names and integers of a lexed text

A name starts with a letter or an underscore and goes on with letters, digits and underscores
(`OperationCatalog.GraphQL.IsName`), and an integer is written in digits, perhaps after a minus sign
(`OperationCatalog.GraphQL.IsInteger`). A text is lexed into tokens of many kinds, and those that
hold a name or an integer hold what is one: each of them is made by one reader only, and the
others – of strings, of block strings and of single characters – make none at all.
-/

namespace OperationCatalog.GraphQL

/-- **A name.** -/
def IsName (s : String) : Prop :=
  s.toList.head?.any isNameStart = true ∧ s.toList.all isNameChar = true

instance (s : String) : Decidable (IsName s) := inferInstanceAs (Decidable (_ ∧ _))

/-- **An integer** as it is written. -/
def IsInteger (s : String) : Prop := (splitSign s.toList).2.all Char.isDigit = true

instance (s : String) : Decidable (IsInteger s) := inferInstanceAs (Decidable (_ = true))

/-- A token that holds a name, if it is a name, and an integer, if it is one. -/
def Token.Lexical : Token → Prop
  | .name text => IsName text
  | .int text => IsInteger text
  | _ => True

theorem isNameChar_of_isNameStart {c : Char} (h : isNameStart c = true) : isNameChar c = true := by
  simp only [isNameStart, isNameChar, Char.isAlphanum, Bool.or_eq_true] at h ⊢
  tauto

/-! ### Single tokens -/

variable {token : Token} {rest cs : List Char}

theorem lexical_of_punctuator {c : Char} (h : punctuator? c = some token) : token.Lexical := by
  unfold punctuator? at h
  split at h <;> cases h <;> trivial

/-- The digits before the point are digits. -/
theorem all_isDigit_of_readWhole {whole : List Char} (h : readWhole cs = .ok (whole, rest)) :
    whole.all Char.isDigit = true := by
  unfold readWhole at h
  split at h
  · split at h
    · simp at h
    · cases h
      decide
  · unfold readDigits at h
    split at h
    · cases h
      exact List.all_takeWhile
    · simp at h

/-- Digits with or without a minus sign in front are an integer. -/
theorem isInteger_signed {sign digits : List Char} (hsign : sign = [] ∨ sign = ['-'])
    (hdigits : digits.all Char.isDigit = true) : IsInteger (String.ofList (sign ++ digits)) := by
  unfold IsInteger
  rw [String.toList_ofList]
  rcases hsign with rfl | rfl
  · rcases digits with _ | ⟨c, digits⟩
    · rfl
    · have hc : c ≠ '-' := by
        rintro rfl
        simp at hdigits
      rw [List.nil_append, splitSign.eq_2 _ (by simpa using hc)]
      exact hdigits
  · exact hdigits

/-- **A number without a fraction and an exponent** is an integer. -/
theorem lexical_of_readNumber (h : readNumber cs = .ok (token, rest)) : token.Lexical := by
  unfold readNumber at h
  obtain ⟨⟨whole, _⟩, hwhole, h⟩ := bind_eq_ok_iff.mp h
  obtain ⟨⟨fraction, _⟩, -, h⟩ := bind_eq_ok_iff.mp h
  obtain ⟨⟨exponent, _⟩, -, h⟩ := bind_eq_ok_iff.mp h
  dsimp only at h
  split at h
  · simp [bind, Except.bind] at h
  · cases h
    split
    · rename_i hplain
      simp only [Bool.and_eq_true, List.isEmpty_iff] at hplain
      obtain ⟨rfl, rfl⟩ := hplain
      rw [List.append_nil, List.append_nil]
      refine isInteger_signed ?_ (all_isDigit_of_readWhole hwhole)
      rcases cs with _ | ⟨c, cs⟩
      · exact Or.inl rfl
      · by_cases hc : c = '-' <;> simp [hc]
    · trivial

/-- **Whatever a string holds**, the token at its end is a string. -/
theorem exists_string_of_readString {bound : Nat} {seen : List Char}
    (h : readString bound seen cs = .ok (token, rest)) : ∃ value, token = .string value := by
  induction bound generalizing seen cs with
  | zero => simp [readString] at h
  | succ bound ih =>
    unfold readString at h
    split at h
    · simp at h
    · cases h
      exact ⟨_, rfl⟩
    · obtain ⟨_, -, h⟩ := bind_eq_ok_iff.mp h
      exact ih h
    · split at h
      · simp at h
      · exact ih h

/-- Whatever a block string holds, the token at its end is a block string. -/
theorem exists_blockString_of_readBlock {lines : List (List Char)} {line : List Char}
    (h : readBlock lines line cs = .ok (token, rest)) : ∃ value, token = .blockString value := by
  fun_induction readBlock lines line cs with
  | case1 =>
    cases h
    exact ⟨_, rfl⟩
  | case2 _ _ _ ih => exact ih h
  | case3 _ _ _ ih => exact ih h
  | case4 _ _ _ _ ih => exact ih h
  | case5 _ _ _ ih => exact ih h
  | case6 _ _ _ _ _ _ _ _ _ ih => exact ih h
  | case7 => simp at h

/-- **A token that is a name or an integer holds one.** -/
theorem lexical_of_readToken (h : readToken cs = .ok (token, rest)) : token.Lexical := by
  unfold readToken at h
  split at h
  · cases h
    trivial
  · obtain ⟨_, rfl⟩ := exists_blockString_of_readBlock h
    trivial
  · obtain ⟨_, rfl⟩ := exists_string_of_readString h
    trivial
  · cases h
    trivial
  · split at h
    · rename_i hpunctuator
      cases h
      exact lexical_of_punctuator hpunctuator
    · split at h
      · exact lexical_of_readNumber h
      · split at h
        · rename_i c _ _ _ _ _ _ hstart
          cases h
          have hc := isNameChar_of_isNameStart hstart
          simp [Token.Lexical, IsName, hc, hstart]
        · simp at h

/-! ### Whole texts -/

/-- The tokens of a text hold what they should. -/
theorem lexical_of_lexFrom (bound : Nat) (cs : List Char) :
    ∀ lexeme ∈ (lexFrom bound cs).lexemes, lexeme.token.Lexical := by
  induction bound generalizing cs with
  | zero => simp [lexFrom]
  | succ bound ih =>
    unfold lexFrom
    dsimp only
    split
    · simp
    · simp [Token.Lexical]
    · rename_i token rest _ htoken
      exact List.forall_mem_cons.mpr ⟨lexical_of_readToken htoken, ih rest⟩

theorem lexical_of_lex (cs : List Char) : ∀ lexeme ∈ (lex cs).lexemes, lexeme.token.Lexical :=
  lexical_of_lexFrom _ cs

/-- A text without lexemes starts with a fault. -/
theorem stop_ne_none_of_lexemes {cs : List Char} (h : (lex cs).lexemes = []) :
    (lex cs).stop ≠ none := by
  rw [lex, lexFrom] at h ⊢
  dsimp only at h ⊢
  split at h <;> simp_all

end OperationCatalog.GraphQL
