import OperationCatalog.Proofs.GraphQL.Files
import OperationCatalog.Proofs.GraphQL.Parser
import OperationCatalog.Proofs.Text.Splitting

/-!
# The tokens of a schema in several files

The text of a schema that is spread over files is that of the files, each followed by a line break.
No token goes on after a line break, apart from strings and block strings, and those end where their
closing quotes are; so what is read from a text that ends well is read from it with a line break and
more text after it, too (`OperationCatalog.GraphQL.readToken_break`). What means nothing at the end
of a text, a comment included, ends with the line as well
(`OperationCatalog.GraphQL.skipIgnored_break`).

A text **consists** of tokens (`OperationCatalog.GraphQL.Consists`) if these are read from it one
after the other up to its end. This says nothing about how much room the reading was given, so that
texts can be put together (`OperationCatalog.GraphQL.Consists.append`); the lexer gives a text room
for as many tokens as it has characters, and that is enough, since it was for each part. The main
result is `OperationCatalog.GraphQL.tokens_of_schemaText`.
-/

namespace OperationCatalog.GraphQL

/-! ### Before a line break -/

section Properties

variable {property : Char → Bool} (hbreak : property '\n' = false) (cs more : List Char)

include hbreak

theorem any_head?_break :
    (cs ++ '\n' :: more).head?.any property = cs.head?.any property := by
  cases cs <;> simp [hbreak]

theorem takeWhile_break :
    (cs ++ '\n' :: more).takeWhile property = cs.takeWhile property := by
  induction cs with
  | nil => simp [hbreak]
  | cons c cs ih => rw [List.cons_append, List.takeWhile_cons, List.takeWhile_cons, ih]

theorem dropWhile_break :
    (cs ++ '\n' :: more).dropWhile property = cs.dropWhile property ++ '\n' :: more := by
  induction cs with
  | nil => simp [hbreak]
  | cons c cs ih =>
    rw [List.cons_append, List.dropWhile_cons, List.dropWhile_cons, ih]
    split <;> rfl

theorem filter_take_break :
    ((cs ++ '\n' :: more).take 1).filter property = (cs.take 1).filter property := by
  cases cs <;> simp [hbreak]

omit hbreak in
theorem drop_filter_take (property : Char → Bool) :
    (cs ++ more).drop ((cs.take 1).filter property).length =
      cs.drop ((cs.take 1).filter property).length ++ more :=
  List.drop_append_of_le_length <|
    Nat.le_trans (List.length_filter_le _ _) (List.length_take_le' _ _)

end Properties

/-! ### Numbers -/

section Break

variable {cs rest : List Char} {token : Token} (more : List Char)

theorem readDigits_break {digits : List Char} (h : readDigits cs = .ok (digits, rest)) :
    readDigits (cs ++ '\n' :: more) = .ok (digits, rest ++ '\n' :: more) := by
  unfold readDigits at h ⊢
  rw [any_head?_break rfl]
  split at h
  · rename_i hhead
    cases h
    rw [if_pos hhead, takeWhile_break rfl, dropWhile_break rfl]
  · simp at h

theorem readWhole_break {digits : List Char} (h : readWhole cs = .ok (digits, rest)) :
    readWhole (cs ++ '\n' :: more) = .ok (digits, rest ++ '\n' :: more) := by
  rcases cs with _ | ⟨c, cs⟩
  · simp [readWhole, readDigits] at h
  by_cases hzero : c = '0'
  · subst hzero
    rw [readWhole] at h
    rw [List.cons_append, readWhole, any_head?_break rfl]
    split at h
    · simp at h
    · rename_i hhead
      cases h
      rw [if_neg hhead]
  · have hother : ∀ cs : List Char, readWhole (c :: cs) = readDigits (c :: cs) := fun cs =>
      readWhole.eq_2 _ fun _ he => hzero (List.cons.inj he).1
    rw [hother] at h
    rw [List.cons_append, hother]
    exact readDigits_break more h

theorem readFraction_break {fraction : List Char} (h : readFraction cs = .ok (fraction, rest)) :
    readFraction (cs ++ '\n' :: more) = .ok (fraction, rest ++ '\n' :: more) := by
  rcases cs with _ | ⟨c, cs⟩
  · cases h
    rfl
  by_cases hpoint : c = '.'
  · subst hpoint
    obtain ⟨⟨digits, _⟩, hdigits, h⟩ := map_eq_ok_iff.mp h
    cases h
    exact map_eq_ok_iff.mpr ⟨_, readDigits_break more hdigits, rfl⟩
  · have hother : ∀ cs : List Char, readFraction (c :: cs) = .ok ([], c :: cs) := fun cs =>
      readFraction.eq_2 _ fun _ he => hpoint (List.cons.inj he).1
    rw [hother] at h
    cases h
    exact hother _

theorem readExponent_break {exponent : List Char} (h : readExponent cs = .ok (exponent, rest)) :
    readExponent (cs ++ '\n' :: more) = .ok (exponent, rest ++ '\n' :: more) := by
  rcases cs with _ | ⟨e, cs⟩
  · cases h
    rfl
  rw [readExponent] at h
  rw [List.cons_append, readExponent]
  split at h
  · rename_i he
    obtain ⟨⟨digits, _⟩, hdigits, h⟩ := map_eq_ok_iff.mp h
    cases h
    rw [if_pos he]
    dsimp only at hdigits ⊢
    rw [filter_take_break rfl, drop_filter_take]
    exact map_eq_ok_iff.mpr ⟨_, readDigits_break more hdigits, rfl⟩
  · rename_i he
    cases h
    rw [if_neg he]
    rfl

/-- **A number** ends before a line break. -/
theorem readNumber_break (h : readNumber cs = .ok (token, rest)) :
    readNumber (cs ++ '\n' :: more) = .ok (token, rest ++ '\n' :: more) := by
  unfold readNumber at h ⊢
  obtain ⟨⟨whole, _⟩, hwhole, h⟩ := bind_eq_ok_iff.mp h
  obtain ⟨⟨fraction, _⟩, hfraction, h⟩ := bind_eq_ok_iff.mp h
  obtain ⟨⟨exponent, _⟩, hexponent, h⟩ := bind_eq_ok_iff.mp h
  dsimp only at h ⊢
  rw [filter_take_break rfl, drop_filter_take, readWhole_break more hwhole, ok_bind]
  dsimp only
  rw [readFraction_break more hfraction, ok_bind]
  dsimp only
  rw [readExponent_break more hexponent, ok_bind]
  dsimp only
  rw [any_head?_break rfl]
  split at h
  · simp [bind, Except.bind] at h
  · rename_i hhead
    cases h
    exact if_neg hhead

/-! ### Strings -/

variable {escape escape' : List Char}

theorem readFour_append {n : Nat} (h : readFour escape cs = .ok (n, rest)) :
    readFour escape' (cs ++ more) = .ok (n, rest ++ more) := by
  unfold readFour at h
  split at h
  · rename_i a b c d cs
    split at h
    · rename_i digits hdigits
      cases h
      simp only [List.cons_append, readFour, hdigits]
    · simp at h
  · simp at h

theorem readFixedEscape_append {c : Char} (h : readFixedEscape escape cs = .ok (c, rest)) :
    readFixedEscape escape' (cs ++ more) = .ok (c, rest ++ more) := by
  unfold readFixedEscape at h ⊢
  obtain ⟨⟨code, after⟩, hcode, h⟩ := bind_eq_ok_iff.mp h
  rw [readFour_append more hcode, ok_bind]
  dsimp only at h ⊢
  split at h
  · rename_i hscalar
    rw [if_pos hscalar]
    cases h
    rfl
  · rename_i hscalar
    rw [if_neg hscalar]
    split at h
    · rename_i hhigh
      rw [if_pos hhigh]
      split at h
      · obtain ⟨⟨low, last⟩, hlow, h⟩ := bind_eq_ok_iff.mp h
        simp only [List.cons_append, readFour_append more hlow, ok_bind]
        dsimp only at h ⊢
        split at h
        · rename_i hpair
          rw [if_pos hpair, pure_eq_ok_iff, Prod.mk.injEq]
          rw [pure_eq_ok_iff, Prod.mk.injEq] at h
          exact ⟨h.1, by rw [h.2]⟩
        · simp at h
      · simp at h
    · simp at h

theorem readBraced?_append {room code n : Nat} (h : readBraced? room code cs = some (n, rest)) :
    readBraced? room code (cs ++ more) = some (n, rest ++ more) := by
  induction room generalizing code cs with
  | zero => simp [readBraced?] at h
  | succ room ih =>
    rcases cs with _ | ⟨c, cs⟩
    · simp [readBraced?] at h
    rw [readBraced?] at h
    rw [List.cons_append, readBraced?]
    split at h
    · rename_i hclose
      cases h
      rw [if_pos hclose]
    · rename_i hclose
      obtain ⟨digit, hdigit, h⟩ := Option.bind_eq_some_iff.mp h
      rw [if_neg hclose, hdigit, Option.bind_some, ih h]

theorem readBracedEscape_append {c : Char} (h : readBracedEscape escape cs = .ok (c, rest)) :
    readBracedEscape escape' (cs ++ more) = .ok (c, rest ++ more) := by
  unfold readBracedEscape at h ⊢
  split at h
  · rename_i code after hcode
    have hhead : (cs ++ more).head? = cs.head? := by
      rcases cs with _ | ⟨c, cs⟩
      · simp [readBraced?] at hcode
      · rfl
    rw [readBraced?_append more hcode, hhead]
    split at h
    · rename_i hmeant
      cases h
      exact if_pos hmeant
    · simp at h
  · simp at h

theorem readEscape_fixed {backslash first : Char} (h : first ≠ '\x7b') (cs : List Char) :
    readEscape (backslash :: 'u' :: first :: cs) =
      readFixedEscape (backslash :: 'u' :: first :: cs) (first :: cs) := by
  simp [readEscape, h]

theorem readEscape_letter {backslash letter : Char} (h : letter ≠ 'u') (cs : List Char) :
    readEscape (backslash :: letter :: cs) = match escapeLetter? letter with
      | some meant => .ok (meant, cs)
      | none => .error ⟨backslash :: letter :: cs⟩ := by
  cases hmeant : escapeLetter? letter <;> simp [readEscape, h, hmeant]

/-- **An escape** is the same whatever follows it. -/
theorem readEscape_append {c : Char} (h : readEscape cs = .ok (c, rest)) :
    readEscape (cs ++ more) = .ok (c, rest ++ more) := by
  rcases cs with _ | ⟨backslash, _ | ⟨letter, cs⟩⟩
  · simp [readEscape] at h
  · simp [readEscape] at h
  by_cases hletter : letter = 'u'
  · subst hletter
    rcases cs with _ | ⟨first, cs⟩
    · simp [readEscape, readFixedEscape, readFour, bind, Except.bind] at h
    by_cases hbrace : first = '\x7b'
    · subst hbrace
      exact readBracedEscape_append more h
    · rw [readEscape_fixed hbrace] at h
      simp only [List.cons_append]
      rw [readEscape_fixed hbrace]
      exact readFixedEscape_append more h
  · rw [readEscape_letter hletter] at h
    simp only [List.cons_append]
    rw [readEscape_letter hletter]
    split at h
    · cases h
      rfl
    · simp at h

/-- **A string** is the same whatever follows it. -/
theorem readString_append {bound bound' : Nat} {seen : List Char} (hbound : bound ≤ bound')
    (h : readString bound seen cs = .ok (token, rest)) :
    readString bound' seen (cs ++ more) = .ok (token, rest ++ more) := by
  induction bound generalizing bound' seen cs with
  | zero => simp [readString] at h
  | succ bound ih =>
    obtain ⟨bound', rfl⟩ := Nat.exists_eq_add_of_le' (Nat.one_le_of_lt hbound)
    replace hbound := Nat.le_of_succ_le_succ hbound
    rcases cs with _ | ⟨c, cs⟩
    · simp [readString] at h
    by_cases hquote : c = '"'
    · subst hquote
      cases h
      rfl
    by_cases hbackslash : c = '\\'
    · subst hbackslash
      obtain ⟨⟨meant, after⟩, hmeant, h⟩ := bind_eq_ok_iff.mp h
      exact bind_eq_ok_iff.mpr ⟨_, readEscape_append more hmeant, ih hbound h⟩
    · rw [readString.eq_5 _ _ _ _ hquote hbackslash] at h
      rw [List.cons_append, readString.eq_5 _ _ _ _ hquote hbackslash]
      split at h
      · simp at h
      · rename_i hbreak
        rw [if_neg hbreak]
        exact ih hbound h

theorem three_le_of_readBlock {lines : List (List Char)} {line : List Char}
    (h : readBlock lines line cs = .ok (token, rest)) : 3 ≤ cs.length := by
  fun_induction readBlock lines line cs with
  | case1 => simp
  | case2 => simp
  | case3 _ _ _ ih => exact Nat.le_add_right_of_le (Nat.le_add_right_of_le (ih h))
  | case4 _ _ _ _ ih => exact Nat.le_add_right_of_le (ih h)
  | case5 _ _ _ ih => exact Nat.le_add_right_of_le (ih h)
  | case6 _ _ _ _ _ _ _ _ _ ih => exact Nat.le_add_right_of_le (ih h)
  | case7 => simp at h

theorem exists_of_append_eq (front : List Char) {last : List Char}
    (h : cs ++ more = front ++ last) (hlength : front.length ≤ cs.length) :
    ∃ last, cs = front ++ last := by
  obtain ⟨last, hlast⟩ :=
    List.prefix_of_prefix_length_le ⟨last, h.symm⟩ (List.prefix_append cs more) hlength
  exact ⟨last, hlast.symm⟩

/-- **A block string** is the same whatever follows it. -/
theorem readBlock_append {lines : List (List Char)} {line : List Char}
    (h : readBlock lines line cs = .ok (token, rest)) :
    readBlock lines line (cs ++ more) = .ok (token, rest ++ more) := by
  fun_induction readBlock lines line cs with
  | case1 =>
    cases h
    rfl
  | case2 _ _ _ ih => exact ih h
  | case3 _ _ _ ih => exact ih h
  | case4 lines line cs hfeed ih =>
    have hlength := three_le_of_readBlock h
    rw [List.cons_append, readBlock.eq_4, ih h]
    intro last hlast
    obtain ⟨last, hlast⟩ := exists_of_append_eq more ['\n'] hlast (by simp; omega)
    exact hfeed last hlast
  | case5 _ _ _ ih => exact ih h
  | case6 lines line c cs hclose hescaped hpair hreturn hfeed ih =>
    have hlength := three_le_of_readBlock h
    rw [List.cons_append, readBlock.eq_6, ih h]
    · intro last hc hlast
      obtain ⟨last, hlast⟩ := exists_of_append_eq more ['"', '"'] hlast (by simp; omega)
      exact hclose last hc hlast
    · intro last hc hlast
      obtain ⟨last, hlast⟩ := exists_of_append_eq more ['"', '"', '"'] hlast (by simp; omega)
      exact hescaped last hc hlast
    · intro last hc hlast
      exact hreturn hc
    · exact hreturn
    · exact hfeed
  | case7 => simp at h

/-! ### Tokens -/

omit more in
theorem eq_nil_of_readToken (h : readToken cs = .ok (.eof, rest)) : cs = [] := by
  unfold readToken at h
  split at h
  · rfl
  · obtain ⟨_, he⟩ := exists_blockString_of_readBlock h
    cases he
  · obtain ⟨_, he⟩ := exists_string_of_readString h
    cases he
  · cases h
  · split at h
    · rename_i token hpunctuator
      cases h
      unfold punctuator? at hpunctuator
      split at hpunctuator <;> cases hpunctuator
    · split at h
      · obtain ⟨_, -, h⟩ := bind_eq_ok_iff.mp h
        obtain ⟨_, -, h⟩ := bind_eq_ok_iff.mp h
        obtain ⟨_, -, h⟩ := bind_eq_ok_iff.mp h
        dsimp only at h
        split at h
        · cases h
        · rw [pure_eq_ok_iff, Prod.mk.injEq] at h
          split at h <;> cases h.1
      · split at h <;> cases h

omit more in
/-- A token that is no string and no spread. -/
theorem readToken_plain {c : Char} (hquote : c ≠ '"') (hpoint : c ≠ '.') (cs : List Char) :
    readToken (c :: cs) = match punctuator? c with
      | some token => .ok (token, cs)
      | none =>
        if c.isDigit || c == '-' then readNumber (c :: cs)
        else if isNameStart c then
          .ok (.name (String.ofList ((c :: cs).takeWhile isNameChar)),
            (c :: cs).dropWhile isNameChar)
        else .error ⟨c :: cs⟩ :=
  readToken.eq_5 c cs (fun _ hc _ => hquote hc) hquote fun _ hc _ => hpoint hc

/-- **A token** ends before a line break. -/
theorem readToken_break (h : readToken cs = .ok (token, rest)) (hne : cs ≠ []) :
    readToken (cs ++ '\n' :: more) = .ok (token, rest ++ '\n' :: more) := by
  unfold readToken at h
  split at h
  · exact absurd rfl hne
  · exact readBlock_append _ h
  · rename_i cs hblock
    rw [List.cons_append, readToken.eq_3]
    · exact readString_append _ (by simp) h
    · -- what follows the quote is no block string with the line break either
      intro last hlast
      rcases cs with _ | ⟨second, _ | ⟨third, cs⟩⟩
      · cases hlast
      · cases hlast
      · obtain ⟨last, hlast⟩ := exists_of_append_eq ('\n' :: more) ['"', '"'] hlast (by simp)
        exact hblock last hlast
  · cases h
    rfl
  · rename_i c cs _ hquote _
    have hpoint : c ≠ '.' := by
      rintro rfl
      simp [punctuator?, isNameStart] at h
    rw [List.cons_append, readToken_plain hquote hpoint]
    cases hpunctuator : punctuator? c with
    | some found =>
      simp only [hpunctuator] at h
      cases h
      rfl
    | none =>
      simp only [hpunctuator] at h ⊢
      split at h
      · rename_i hnumber
        rw [if_pos hnumber]
        exact readNumber_break more h
      · rename_i hnumber
        rw [if_neg hnumber]
        split at h
        · rename_i hname
          cases h
          rw [if_pos hname, ← List.cons_append, takeWhile_break rfl, dropWhile_break rfl]
        · cases h

/-! ### Between tokens -/

/-- **What is skipped up to a line break**: if nothing that means anything is left before it, more
is skipped after it, and no comment goes on there. -/
theorem skipIgnored_break (inComment : Bool) (cs more : List Char) :
    skipIgnored inComment (cs ++ '\n' :: more) =
      if skipIgnored inComment cs = [] then skipIgnored false more
      else skipIgnored inComment cs ++ '\n' :: more := by
  induction cs generalizing inComment with
  | nil => cases inComment <;> rfl
  | cons c cs ih =>
    rw [List.cons_append, skipIgnored.eq_2, skipIgnored.eq_2]
    split
    · exact ih _
    · split
      · exact ih _
      · split
        · exact ih _
        · simp

end Break

/-! ### Whole texts -/

/-- **A text is made of tokens**, one after the other up to its end. -/
inductive Consists : List Char → List Token → Prop where
  /-- Nothing is left that means anything. -/
  | done {cs : List Char} : skipIgnored false cs = [] → Consists cs []
  /-- A token, and then others. -/
  | next {cs rest : List Char} {token : Token} {ts : List Token} : skipIgnored false cs ≠ [] →
      readToken (skipIgnored false cs) = .ok (token, rest) → Consists rest ts →
      Consists cs (token :: ts)

variable {cs rest ds : List Char} {token : Token} {ts others : List Token} {bound : Nat}

/-- **The tokens of two texts with a line break between them** are those of the first and then
those of the second. -/
theorem Consists.append (h : Consists cs ts) (h' : Consists ds others) :
    Consists (cs ++ '\n' :: ds) (ts ++ others) := by
  induction h with
  | @done cs hnothing =>
    have hskip := skipIgnored_break false cs ds
    rw [if_pos hnothing] at hskip
    cases h' with
    | done hnothing' => exact .done (hskip.trans hnothing')
    | next hsome htoken hrest => exact .next (hskip ▸ hsome) (hskip ▸ htoken) hrest
  | @next cs _ _ _ hsome htoken _ ih =>
    have hskip := skipIgnored_break false cs ds
    rw [if_neg hsome] at hskip
    exact .next (by simp [hskip]) (hskip ▸ readToken_break ds htoken hsome) ih

/-- The end of the text is no token that a text is made of. -/
theorem Consists.eof_notMem (h : Consists cs ts) : .eof ∉ ts := by
  induction h with
  | done => simp
  | next hsome htoken _ ih =>
    refine fun hmem => (List.mem_cons.mp hmem).elim (fun he => ?_) ih
    exact hsome (eq_nil_of_readToken (he ▸ htoken))

theorem lexFrom_eof (h : readToken (skipIgnored false cs) = .ok (.eof, rest)) :
    lexFrom (bound + 1) cs = ⟨[⟨.eof, skipIgnored false cs⟩], none⟩ := by
  rw [lexFrom]
  simp only [h]

theorem lexFrom_token (h : readToken (skipIgnored false cs) = .ok (token, rest))
    (hne : token ≠ .eof) : lexFrom (bound + 1) cs =
      ⟨⟨token, skipIgnored false cs⟩ :: (lexFrom bound rest).lexemes,
        (lexFrom bound rest).stop⟩ := by
  rw [lexFrom]
  simp only [h]

/-- **A text that is made of tokens** is lexed into them. -/
theorem Consists.lexFrom (h : Consists cs ts) (hbound : ts.length < bound) :
    (lexFrom bound cs).lexemes.map (·.token) = ts ++ [.eof] ∧
      (lexFrom bound cs).stop = none := by
  induction h generalizing bound with
  | @done cs hnothing =>
    obtain ⟨bound, rfl⟩ := Nat.exists_eq_add_of_le' (Nat.one_le_of_lt hbound)
    have hend : readToken (skipIgnored false cs) = .ok (.eof, []) := by rw [hnothing, readToken]
    rw [lexFrom_eof hend]
    exact ⟨rfl, rfl⟩
  | next hsome htoken hrest ih =>
    obtain ⟨bound, rfl⟩ := Nat.exists_eq_add_of_le' (Nat.one_le_of_lt hbound)
    obtain ⟨htokens, hstop⟩ := ih (Nat.lt_of_succ_lt_succ hbound)
    rw [lexFrom_token htoken fun he => hsome (eq_nil_of_readToken (he ▸ htoken))]
    exact ⟨by rw [List.map_cons, htokens, List.cons_append], hstop⟩

/-- **A text that is lexed up to its end** is made of tokens, and of fewer than it was given room
for. -/
theorem exists_consists_of_lexFrom (h : .eof ∈ (lexFrom bound cs).lexemes.map (·.token)) :
    ∃ ts, Consists cs ts ∧ ts.length < bound := by
  induction bound generalizing cs with
  | zero => simp [lexFrom] at h
  | succ bound ih =>
    rcases hread : readToken (skipIgnored false cs) with stop | ⟨token, rest⟩
    · rw [lexFrom] at h
      simp [hread] at h
    by_cases heof : token = .eof
    · subst heof
      exact ⟨[], .done (eq_nil_of_readToken hread), Nat.succ_pos _⟩
    · rw [lexFrom_token hread heof, List.map_cons] at h
      obtain ⟨ts, hts, hlength⟩ := ih ((List.mem_cons.mp h).resolve_left (Ne.symm heof))
      refine ⟨token :: ts, .next (fun hnothing => ?_) hread hts, Nat.succ_lt_succ hlength⟩
      rw [hnothing] at hread
      cases hread
      exact heof rfl

/-- **The tokens of a text**, without its end. -/
def tokensOf (text : List Char) : List Token :=
  ((lex text).lexemes.map (·.token)).filter (· != .eof)

/-- **A text is lexed into the tokens** that it is made of, if they are no more than its
characters. -/
theorem Consists.lex (h : Consists cs ts) (hlength : ts.length ≤ cs.length) :
    (lex cs).lexemes.map (·.token) = ts ++ [.eof] ∧ (lex cs).stop = none :=
  h.lexFrom (Nat.lt_succ_of_le hlength)

theorem Consists.tokensOf_eq (h : Consists cs ts) (hlength : ts.length ≤ cs.length) :
    tokensOf cs = ts := by
  have hall : ts.filter (· != .eof) = ts := by
    refine List.filter_eq_self.mpr fun t ht => ?_
    rw [bne_iff_ne]
    rintro rfl
    exact h.eof_notMem ht
  rw [tokensOf, (h.lex hlength).1, List.filter_append, hall]
  exact List.append_nil ts

/-- **A text that was parsed** is made of its tokens, and has no more of them than characters. -/
theorem consists_of_parse {d : Document} (h : parse cs = .ok d) :
    Consists cs (tokensOf cs) ∧ (tokensOf cs).length ≤ cs.length := by
  obtain ⟨ts, hts, hlength⟩ := exists_consists_of_lexFrom (exists_eof_of_parse h)
  replace hlength := Nat.le_of_lt_succ hlength
  rw [hts.tokensOf_eq hlength]
  exact ⟨hts, hlength⟩

/-! ### Many texts -/

/-- **Texts that are documents**, each with a line break after it, are made of the tokens of
each. -/
theorem consists_unlines {texts : List String} (h : ∀ t ∈ texts, ∃ d, parse t.toList = .ok d) :
    Consists (Text.unlines texts).toList (texts.flatMap fun t => tokensOf t.toList) ∧
      (texts.flatMap fun t => tokensOf t.toList).length ≤ (Text.unlines texts).toList.length := by
  induction texts with
  | nil => exact ⟨.done rfl, Nat.le_refl _⟩
  | cons t texts ih =>
    obtain ⟨⟨d, hd⟩, hrest⟩ := List.forall_mem_cons.mp h
    obtain ⟨hfirst, hfirstLength⟩ := consists_of_parse hd
    obtain ⟨hmore, hmoreLength⟩ := ih hrest
    rw [Text.toList_unlines_cons, List.flatMap_cons]
    refine ⟨hfirst.append hmore, ?_⟩
    rw [List.length_append, List.length_append, List.length_cons]
    omega

theorem readSource_eq_ok_iff {w : Workspace} {path : Path} {source : Source} :
    readSource w path = .ok source ↔
      w.readText path = .ok source.text ∧ parse source.text.toList = .ok source.document := by
  obtain ⟨text, document⟩ := source
  unfold readSource
  simp only [bind_eq_ok_iff, mapError_eq_ok_iff, pure_eq_ok_iff, Source.mk.injEq]
  constructor
  · rintro ⟨_, htext, _, hdocument, rfl, rfl⟩
    exact ⟨htext, hdocument⟩
  · rintro ⟨htext, hdocument⟩
    exact ⟨text, htext, document, hdocument, rfl, rfl⟩

/-- **The tokens of a schema in several files.** The schema has a text exactly if each of its files
is read and is a document on its own, and this text is lexed up to its end, into the tokens of the
files, one file after the other. -/
theorem tokens_of_schemaText (w : Workspace) (paths : List Path) :
    ((∃ text, schemaText w paths = .ok text) ↔ ∀ path ∈ filesOf w paths, ∃ text document,
      w.readText path = .ok text ∧ parse text.toList = .ok document) ∧
    ∀ text, schemaText w paths = .ok text → ∃ texts,
      List.Forall₂ (fun path t => w.readText path = .ok t) (filesOf w paths) texts ∧
        (lex text.toList).lexemes.map (·.token) =
          (texts.flatMap fun t => tokensOf t.toList) ++ [.eof] ∧
        (lex text.toList).stop = none := by
  refine ⟨?_, fun text h => ?_⟩
  · unfold schemaText
    rw [exists_bind_pure_iff, exists_mapM_iff]
    refine forall₂_congr fun path hpath => ⟨fun ⟨source, hsource⟩ => ?_, ?_⟩
    · exact ⟨_, _, readSource_eq_ok_iff.mp hsource⟩
    · rintro ⟨text, document, h⟩
      exact ⟨⟨text, document⟩, readSource_eq_ok_iff.mpr h⟩
  · obtain ⟨sources, hsources, h⟩ := bind_eq_ok_iff.mp h
    obtain rfl := pure_eq_ok_iff.mp h
    have hread : List.Forall₂ (fun path t => w.readText path = .ok t ∧ ∃ d, parse t.toList = .ok d)
        (filesOf w paths) (sources.map (·.text)) := by
      refine List.forall₂_map_right_iff.mpr <|
        (mapM_eq_ok_iff.mp hsources).imp fun path source h => ?_
      obtain ⟨htext, hdocument⟩ := readSource_eq_ok_iff.mp h
      exact ⟨htext, _, hdocument⟩
    obtain ⟨hconsists, hlength⟩ := consists_unlines fun t ht => by
      obtain ⟨path, -, -, hdocument⟩ := exists_of_forall₂_of_mem hread ht
      exact hdocument
    exact ⟨_, hread.imp fun path t h => h.1, hconsists.lex hlength⟩

/-- Three files that end in a comment, in a name and in a carriage return. The second one starts
with a byte order mark, and the third one has a string without characters. -/
def spreadFiles : Workspace :=
  ⟨.dir [("a.graphql", .file "scalar A # end".toUTF8), ("b.gql", .file "\ufeffunion B = C".toUTF8),
    ("c.graphqls", .file "\"\" scalar C\r".toUTF8)], []⟩

theorem tokens_of_schemaText_spreadFiles :
    (filesAt spreadFiles ⟨"", []⟩).length = 3 ∧
      (∀ path ∈ filesOf spreadFiles [⟨"", []⟩], ∃ text document,
        spreadFiles.readText path = .ok text ∧ parse text.toList = .ok document) ∧
      ∃ text texts, schemaText spreadFiles [⟨"", []⟩] = .ok text ∧
        List.Forall₂ (fun path t => spreadFiles.readText path = .ok t)
          (filesOf spreadFiles [⟨"", []⟩]) texts ∧
        (lex text.toList).lexemes.map (·.token) =
          (texts.flatMap fun t => tokensOf t.toList) ++ [.eof] ∧
        (lex text.toList).stop = none := by
  obtain ⟨hcount, hread⟩ : (filesAt spreadFiles ⟨"", []⟩).length = 3 ∧
      ∀ path ∈ filesAt spreadFiles ⟨"", []⟩,
        (readSource spreadFiles path).toOption.isSome = true := by decide +kernel
  obtain ⟨hthere, hlexed⟩ := tokens_of_schemaText spreadFiles [⟨"", []⟩]
  have hfiles : ∀ path ∈ filesOf spreadFiles [⟨"", []⟩], ∃ text document,
      spreadFiles.readText path = .ok text ∧ parse text.toList = .ok document := by
    intro path hpath
    obtain ⟨p, hp, hpath⟩ := mem_filesOf.mp hpath
    obtain rfl := List.mem_singleton.mp hp
    obtain ⟨source, hsource⟩ := Option.isSome_iff_exists.mp (hread path hpath)
    exact ⟨_, _, readSource_eq_ok_iff.mp (toOption_eq_some_iff.mp hsource)⟩
  obtain ⟨text, htext⟩ := hthere.mpr hfiles
  obtain ⟨texts, htexts, htokens⟩ := hlexed text htext
  exact ⟨hcount, hfiles, text, texts, htext, htexts, htokens⟩

end OperationCatalog.GraphQL
