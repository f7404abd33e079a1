import OperationCatalog.Proofs.Log
import OperationCatalog.Yaml.Graph

/-!
# Texts that are one word

A text that is one word after a zero and an `x` is a plain scalar and nothing else, of whatever
length it is, so its value is what the word looks like
(`OperationCatalog.Yaml.read_hexadecimal`). That a key must be short is no bound: the word is
remembered as a place where a key may start, and what is remembered is forgotten again.
-/

namespace OperationCatalog.Yaml

namespace Cursor

theorem next_rest (c : Cursor) : c.next.rest = c.rest.tail := by
  unfold next
  split
  · simp [*]
  · simp only [*, List.tail_cons]
    split
    · rfl
    · split <;> rfl

theorem skip_rest (c : Cursor) (n : Nat) : (c.skip n).rest = c.rest.drop n := by
  induction n generalizing c with
  | zero => rfl
  | succ n ih => rw [skip, ih, next_rest, List.drop_tail]

end Cursor

/-! ### Words -/

/-- **The characters of a word**, which may all occur in a text, and none of which ends a plain
scalar. -/
def InWord (c : Char) : Prop := isPrintable c = true ∧ isSeparator c = false ∧ c ≠ ':'

instance (c : Char) : Decidable (InWord c) := inferInstanceAs (Decidable (_ ∧ _ ∧ _))

namespace Plain

theorem word_eq_self {w : List Char} (h : ∀ c ∈ w, InWord c) : word false w = w := by
  induction w with
  | nil => rfl
  | cons c rest ih =>
    obtain ⟨⟨-, hseparator, hcolon⟩, hrest⟩ := List.forall_mem_cons.mp h
    rw [word, if_neg (by simp [hseparator, hcolon]), ih hrest]

theorem gap_of_rest_eq_nil {c : Cursor} (h : c.rest = []) : gap c = ⟨[], c, false⟩ := by
  have hspan : c.span (· == ' ') = ([], c) := by simp [Cursor.span, h, Cursor.skip]
  have hbreak : c.lineBreak? = none := by simp [Cursor.lineBreak?, h]
  simp [gap, hspan, hbreak]

/-- A word that is all of the text is all of the scalar. -/
theorem scan_word {indent : Int} {c : Cursor} (hne : c.rest ≠ []) (hcomment : c.head? ≠ some '#')
    (h : ∀ ch ∈ c.rest, InWord ch) :
    scan false indent c = ⟨c.rest, c.skip c.rest.length, false⟩ := by
  have hgap : gap (c.skip c.rest.length) = ⟨[], c.skip c.rest.length, false⟩ :=
    gap_of_rest_eq_nil (by rw [Cursor.skip_rest, List.drop_length])
  have hcomment : (c.head? == some '#') = false := by simpa using hcomment
  have hempty : c.rest.isEmpty = false := by simpa using hne
  unfold scan
  rw [words]
  simp only [hcomment, word_eq_self h, hempty, hgap, Bool.false_eq_true, if_false,
    List.isEmpty_nil, Bool.true_or, if_true, List.nil_append]

end Plain

/-! ### Tokens -/

namespace Lexer

variable {l : Lexer}

/-- A lexer that remembers no place that must be a key. -/
def NoneRequired (l : Lexer) : Prop := ∀ place ∈ l.places, place.2.required = false

theorem dropStale_eq_ok (h : l.NoneRequired) :
    ∃ places, l.dropStale = .ok { l with places } ∧ NoneRequired { l with places } := by
  unfold dropStale
  split
  · rename_i hany
    obtain ⟨place, hplace, hstale⟩ := List.any_eq_true.mp hany
    simp [h place hplace] at hstale
  · exact ⟨_, rfl, fun place hplace => h place (List.mem_filter.mp hplace).1⟩

theorem dropPlace_eq_ok (h : l.NoneRequired) : ∃ places, l.dropPlace = .ok { l with places } := by
  have hlookup : (l.places.lookup l.flow).any (·.required) = false := by
    rcases hfound : l.places.lookup l.flow with _ | place
    · rfl
    · obtain ⟨before, after, hsplit, -⟩ := List.lookup_eq_some_iff.mp hfound
      exact h (l.flow, place) (by simp [hsplit])
  unfold dropPlace
  rw [hlookup]
  exact ⟨_, rfl⟩

theorem unwind_eq_self (h : l.outer = []) (column : Int) : l.unwind column = l := by
  unfold unwind
  split
  · rfl
  · rw [h, unwindTo, ← h]

/-- **At the end of a text** with no collection open nothing is left but the end, whatever place was
remembered. -/
theorem step_atEnd (hrest : l.cursor.rest = []) (houter : l.outer = []) (h : l.NoneRequired) :
    ∃ l', l.step = .ok (l', false) ∧ l'.tokens = .streamEnd :: l.tokens := by
  have hskip : skipToToken l.inFlow (l.cursor.rest.length + 1) l.keyAllowed l.cursor =
      (l.keyAllowed, l.cursor) := by
    obtain ⟨⟨_, index, line, column⟩⟩ := l
    obtain rfl : _ = [] := hrest
    rfl
  obtain ⟨places, hstale, hkept⟩ := dropStale_eq_ok h
  obtain ⟨left, hplace⟩ := dropPlace_eq_ok hkept
  have hnext : l.toNextToken = .ok { l with places } := by
    unfold toNextToken
    rw [hskip]
    dsimp only
    rw [hstale, ok_bind, unwind_eq_self (l := { l with places }) houter]
    rfl
  have hend : endStream { l with places } = .ok (push { l with places := left } .streamEnd) := by
    unfold endStream
    rw [unwind_eq_self (l := { l with places }) houter, hplace]
    rfl
  have hhead : l.cursor.head? = none := by simp [Cursor.head?, hrest]
  refine ⟨push { l with places := left } .streamEnd, ?_, rfl⟩
  unfold step
  rw [hnext, ok_bind]
  dsimp only
  rw [hhead]
  dsimp only
  rw [hend]
  rfl

end Lexer

variable {rest : List Char}

/-- **One word** is one token. -/
theorem scan_hexadecimal (h : ∀ c ∈ rest, InWord c) : Token.scan ('0' :: 'x' :: rest) =
    ⟨[.scalar (String.ofList ('0' :: 'x' :: rest)) true, .streamEnd], .malformed⟩ := by
  have hword : ∀ c ∈ '0' :: 'x' :: rest, InWord c :=
    List.forall_mem_cons.mpr ⟨by decide, List.forall_mem_cons.mpr ⟨by decide, h⟩⟩
  have hprintable : ('0' :: 'x' :: rest).all isPrintable = true :=
    List.all_eq_true.mpr fun c hc => (hword c hc).1
  have hscan : Plain.scan false 0 ⟨'0' :: 'x' :: rest, 0, 0, 0⟩ =
      ⟨'0' :: 'x' :: rest, Cursor.skip ⟨'0' :: 'x' :: rest, 0, 0, 0⟩ (rest.length + 2), false⟩ :=
    Plain.scan_word (by simp) (by simp [Cursor.head?]) hword
  -- everything before the scalar is decided by its first two characters
  have hstep : Lexer.step { cursor := ⟨'0' :: 'x' :: rest, 0, 0, 0⟩ } =
      .ok ({ cursor := (Plain.scan false 0 ⟨'0' :: 'x' :: rest, 0, 0, 0⟩).cursor
             tokens := [.scalar (String.ofList
               (Plain.scan false 0 ⟨'0' :: 'x' :: rest, 0, 0, 0⟩).text) true]
             keyAllowed := (Plain.scan false 0 ⟨'0' :: 'x' :: rest, 0, 0, 0⟩).atLineStart
             places := [(0, ⟨0, false, 0, 0, 0⟩)] }, true) := rfl
  rw [hscan] at hstep
  obtain ⟨l, hlast, htokens⟩ := Lexer.step_atEnd
    (l := { cursor := Cursor.skip ⟨'0' :: 'x' :: rest, 0, 0, 0⟩ (rest.length + 2)
            tokens := [.scalar (String.ofList ('0' :: 'x' :: rest)) true]
            keyAllowed := false
            places := [(0, ⟨0, false, 0, 0, 0⟩)] })
    (by simp [Cursor.skip_rest]) rfl (by simp [Lexer.NoneRequired])
  have hmark : ((⟨'0' :: 'x' :: rest, 0, 0, 0⟩ : Cursor).head? == some '\ufeff') = false := by
    simp [Cursor.head?]
  unfold Token.scan
  rw [if_pos hprintable]
  dsimp only
  rw [hmark, if_neg Bool.false_ne_true, Lexer.run, hstep]
  dsimp only
  rw [Lexer.run, hlast]
  dsimp only
  rw [htokens, List.reverse_cons, List.reverse_singleton, List.singleton_append]

/-! ### Values -/

theorem ofTokens_scalar (s : String) (fault : Fault) :
    Node.ofTokens ⟨[.scalar s true, .streamEnd], fault⟩ =
      .ok (some 0, #[⟨Tag.ofPlain s.toList, .scalar s⟩]) := rfl

theorem valueGraph_int {s : String} {x : Scalar} (h : readScalar .int s = .ok x) :
    valueGraph 0 #[⟨.int, .scalar s⟩] = .ok ⟨#[.null], .scalar x⟩ := by
  have hvalue : (valueOf 0).run ⟨#[⟨.int, .scalar s⟩], [], #[.null]⟩ =
      .ok (.scalar x, ⟨#[⟨.int, .scalar s⟩], [], #[.null]⟩) := by
    have hlift : (liftM (readScalar .int s) : Build Scalar) = pure x := by
      rw [h]
      rfl
    change ((liftM (readScalar .int s) : Build Scalar) >>= fun x => pure (Value.scalar x)).run _ = _
    rw [hlift]
    rfl
  have hbuild : (buildFrom 0).run ⟨#[⟨.int, .scalar s⟩], [], #[.null]⟩ =
      .ok (.scalar x, ⟨#[⟨.int, .scalar s⟩], [], #[.null]⟩) := by
    unfold buildFrom
    rw [StateT.run_bind, hvalue]
    rfl
  change ((buildFrom 0).run ⟨#[⟨.int, .scalar s⟩], [], #[.null]⟩ >>= fun built =>
    pure (ValueGraph.mk built.2.filled built.1)) = _
  rw [hbuild]
  rfl

/-- **One word is a scalar**, and if it looks like an integer, it is that integer. -/
theorem read_hexadecimal (h : ∀ c ∈ rest, InWord c)
    (htag : Tag.ofPlain ('0' :: 'x' :: rest) = .int) {i : Int}
    (hi : Number.readInt ('0' :: 'x' :: rest) = .ok i) :
    read ('0' :: 'x' :: rest) = .ok ⟨#[.null], .scalar (.int i)⟩ := by
  have hscalar : readScalar .int (String.ofList ('0' :: 'x' :: rest)) = .ok (.int i) := by
    rw [readScalar, String.toList_ofList, hi]
    rfl
  unfold read
  rw [scan_hexadecimal h, ofTokens_scalar, ok_bind]
  dsimp only
  rw [String.toList_ofList, htag, valueGraph_int hscalar]

end OperationCatalog.Yaml
