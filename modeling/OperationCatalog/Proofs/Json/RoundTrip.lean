import OperationCatalog.Proofs.Json.Number
import OperationCatalog.Proofs.Json.Text
import OperationCatalog.Proofs.Json.Writing

/-!
# Reading what was written as JSON

A tree that is written is read back as the same tree (`OperationCatalog.Json.read_write`), if each
of its scalars has a notation of its own and its floating-point numbers are read back. A layout that
writes nothing else takes care of the first (`OperationCatalog.Json.read_write_of_strict`).

The induction is over the tree, and its invariant is about a text in front of more text
(`OperationCatalog.Json.ReadsBack`): the value is read of it and all the rest is left, whatever the
rest is, as long as no atom could go on in it. Sequences and mappings are read by loops that differ
in what they read of each part, so the argument about the commas between the parts is stated once,
for any such loop (`OperationCatalog.Json.IsCollection.read_intercalate`).
-/

namespace OperationCatalog.Json

/-! ### Blanks -/

/-- A text of blanks. -/
def Blanks (s : List Char) : Prop := ∀ c ∈ s, isBlank c = true

instance (s : List Char) : Decidable (Blanks s) := List.decidableBAll (isBlank · = true) s

variable {s text rest after : List Char} {c : Char}

theorem skipBlanks_append (h : Blanks s) (rest : List Char) :
    skipBlanks (s ++ rest) = skipBlanks rest :=
  List.dropWhile_append_of_pos h

theorem skipBlanks_cons (h : isBlank c = false) (rest : List Char) :
    skipBlanks (c :: rest) = c :: rest := by
  rw [skipBlanks, List.dropWhile_cons, h]
  rfl

/-- A line break and an indentation are blank. -/
theorem Layout.blanks_lineBreak (layout : Layout) (level : Nat) :
    Blanks (layout.lineBreak level) := by
  unfold Layout.lineBreak
  rcases layout.indent with _ | columns
  · simp [Blanks]
  · refine List.forall_mem_cons.mpr ⟨by decide, fun c hc => ?_⟩
    rw [List.eq_of_mem_replicate hc]
    decide

theorem ne_of_isAtomChar {d : Char} (h : isAtomChar c = true) (hd : isAtomChar d = false) :
    c ≠ d := by
  rintro rfl
  simp [h] at hd

theorem isBlank_of_isAtomChar (h : isAtomChar c = true) : isBlank c = false := by
  unfold isBlank
  simp [ne_of_isAtomChar h (d := ' ') (by decide), ne_of_isAtomChar h (d := '\t') (by decide),
    ne_of_isAtomChar h (d := '\n') (by decide), ne_of_isAtomChar h (d := '\r') (by decide)]

theorem ends_cons (h : isAtomChar c = false) : Ends (c :: rest) := by
  simpa [Ends] using h

/-- Blanks end an atom, and so does what ends it without them. -/
theorem ends_append (hs : Blanks s) (h : Ends rest) : Ends (s ++ rest) := by
  rcases s with _ | ⟨c, s⟩
  · exact h
  · refine ends_cons ?_
    have hc := hs c List.mem_cons_self
    by_contra hatom
    simp [isBlank_of_isAtomChar (by simpa using hatom)] at hc

/-! ### Values in front of more text -/

/-- **What a value may start with**: it is not skipped, it closes no sequence, and it is no byte
order mark. -/
def MayStart (c : Char) : Prop := isBlank c = false ∧ c ≠ ']' ∧ c ≠ '\ufeff'

instance (c : Char) : Decidable (MayStart c) := inferInstanceAs (Decidable (_ ∧ _))

theorem mayStart_of_isAtomChar (h : isAtomChar c = true) : MayStart c :=
  ⟨isBlank_of_isAtomChar h, ne_of_isAtomChar h (by decide), ne_of_isAtomChar h (by decide)⟩

/-- **A value is read back of a text**: it is what is read where the text stands in front of
anything that ends an atom. -/
structure ReadsBack (text : List Char) (v : Value) : Prop where
  /-- The text starts with what may start a value. -/
  start : ∃ c more, text = c :: more ∧ MayStart c
  /-- The value is read, with room for two steps for each character. -/
  read {bound : Nat} {rest : List Char} : Ends rest → 2 * (text ++ rest).length ≤ bound →
    readValue bound (text ++ rest) = .ok (v, rest)

variable {v : Value} {bound : Nat}

/-- What starts like an atom is read as one. -/
theorem readValue_of_isAtomChar (h : isAtomChar c = true) :
    readValue (bound + 1) (c :: rest) = readAtom (c :: rest) := by
  rw [readValue]
  all_goals
    rintro _ heq
    exact ne_of_isAtomChar h (by decide) (List.cons.inj heq).1

/-- There is no atom in nothing. -/
theorem ne_nil_of_readAtom (h : readAtom text = .ok (v, rest)) : text ≠ [] := by
  rintro rfl
  have hstop : readAtom [] = .error (.at .expectingValue 0) := rfl
  simp [hstop] at h

/-- **An atom is read back** if it is read where it stands alone. -/
theorem readsBack_of_readAtom (htext : AtomText text) (h : readAtom text = .ok (v, [])) :
    ReadsBack text v := by
  obtain ⟨c, more, rfl⟩ := List.exists_cons_of_ne_nil (ne_nil_of_readAtom h)
  obtain ⟨hc, -⟩ := AtomText.cons.mp htext
  refine ⟨⟨c, more, rfl, mayStart_of_isAtomChar hc⟩, ?_⟩
  intro bound rest hends hbound
  obtain ⟨bound, rfl⟩ := Nat.exists_eq_succ_of_ne_zero (n := bound) (by
    rintro rfl
    simp at hbound)
  rw [List.cons_append, readValue_of_isAtomChar hc, ← List.cons_append, readAtom_append hends h]
  rfl

/-- **A whole text is read** as a value with nothing but blanks behind it. -/
theorem read_eq_ok_iff (hmark : text.head? ≠ some '\ufeff') :
    read text = .ok v ↔ ∃ rest,
      readValue (2 * text.length + 2) (skipBlanks text) = .ok (v, rest) ∧ skipBlanks rest = [] := by
  rw [read, mapError_eq_ok_iff, readWhole, if_neg hmark]
  constructor
  · intro h
    obtain ⟨⟨value, rest⟩, hread, h⟩ := bind_eq_ok_iff.mp h
    dsimp only at h
    split at h
    · rename_i hblank
      obtain rfl := pure_eq_ok_iff.mp h
      exact ⟨rest, hread, hblank⟩
    · simp [stop] at h
  · rintro ⟨rest, hread, hblank⟩
    refine bind_eq_ok_iff.mpr ⟨(v, rest), hread, ?_⟩
    dsimp only
    rw [hblank]
    rfl

/-- What is read of a text of atom characters is read of it as an atom. -/
theorem readAtom_of_read (htext : AtomText text) (h : read text = .ok v) :
    readAtom text = .ok (v, []) := by
  rcases text with _ | ⟨c, more⟩
  · have hstop : read [] = .error (.malformed .expectingValue ⟨1, 1, 0⟩) := rfl
    simp [hstop] at h
  obtain ⟨hc, -⟩ := AtomText.cons.mp htext
  obtain ⟨rest, hread, hblank⟩ := (read_eq_ok_iff
    (by simp [ne_of_isAtomChar hc (d := '\ufeff') (by decide)])).mp h
  rw [skipBlanks_cons (isBlank_of_isAtomChar hc), readValue_of_isAtomChar hc] at hread
  -- what is left has only characters of atoms, and only blanks
  rcases rest with _ | ⟨d, rest⟩
  · exact hread
  · have hd := htext d ((readAtom_suffix hread).subset List.mem_cons_self)
    simp [skipBlanks_cons (isBlank_of_isAtomChar hd)] at hblank

/-! ### Collections -/

/-- **How a kind of collection is read**: behind what opens it, blanks are skipped and it is closed
at once, or a loop reads its parts. After a part the loop ends, where the collection is closed, or
goes on behind a comma and blanks. -/
structure IsCollection {α : Type} (opening closing : Char)
    (loop : Nat → List α → List Char → Except Stop (Value × List Char)) (finish : List α → Value)
    (Reads : List Char → α → Prop) : Prop where
  /-- A value may start with what opens the collection. -/
  opens : MayStart opening
  /-- What closes the collection is neither skipped nor part of an atom. -/
  closes : isBlank closing = false ∧ isAtomChar closing = false
  /-- A part starts with what is neither skipped nor the end of the collection. -/
  start {part a} : Reads part a → ∃ c more, part = c :: more ∧ isBlank c = false ∧ c ≠ closing
  /-- A collection may have no parts. -/
  empty {bound cs after} : skipBlanks cs = closing :: after →
    readValue (bound + 1) (opening :: cs) = .ok (finish [], after)
  /-- Before the first part, the loop starts. -/
  first {bound cs c more} : skipBlanks cs = c :: more → c ≠ closing →
    readValue (bound + 1) (opening :: cs) = loop bound [] (c :: more)
  /-- After the last part, the collection is closed. -/
  last {part a} : Reads part a → ∀ {bound seen rest after}, Ends rest →
    2 * (part ++ rest).length ≤ bound → skipBlanks rest = closing :: after →
      loop (bound + 1) seen (part ++ rest) = .ok (finish (a :: seen).reverse, after)
  /-- After any other part, there is a comma. -/
  next {part a} : Reads part a → ∀ {bound seen rest after}, Ends rest →
    2 * (part ++ rest).length ≤ bound → skipBlanks rest = ',' :: after →
      loop (bound + 1) seen (part ++ rest) = loop bound (a :: seen) (skipBlanks after)

namespace IsCollection

variable {α : Type} {loop : Nat → List α → List Char → Except Stop (Value × List Char)}
  {opening closing : Char} {finish : List α → Value} {Reads : List Char → α → Prop}
  {gap final : List Char} {parts : List (List Char)} {values seen : List α}

/-- Parts with commas between them start like the first of them. -/
theorem start_intercalate (h : IsCollection opening closing loop finish Reads)
    (hparts : List.Forall₂ Reads parts values) (hne : parts ≠ []) (gap : List Char) :
    ∃ c more, (',' :: gap).intercalate parts = c :: more ∧ isBlank c = false ∧ c ≠ closing := by
  rcases hparts with _ | ⟨hpart, hparts⟩
  · exact absurd rfl hne
  · obtain ⟨c, more, rfl, hc⟩ := h.start hpart
    rcases hparts with _ | ⟨-, -⟩
    · exact ⟨c, more, List.intercalate_singleton, hc⟩
    · exact ⟨c, _, List.intercalate_cons_cons, hc⟩

/-- **What the loop reads of some parts** with commas between them, up to what closes them. -/
theorem read_intercalate (h : IsCollection opening closing loop finish Reads) (hgap : Blanks gap)
    (hfinal : Blanks final) (hparts : List.Forall₂ Reads parts values) (hne : parts ≠ [])
    (hbound :
      2 * ((',' :: gap).intercalate parts ++ (final ++ closing :: rest)).length + 1 ≤ bound) :
    loop bound seen ((',' :: gap).intercalate parts ++ (final ++ closing :: rest)) =
      .ok (finish (seen.reverse ++ values), rest) := by
  induction hparts generalizing bound seen with
  | nil => exact absurd rfl hne
  | @cons part a parts values hpart hparts ih =>
    obtain ⟨bound, rfl⟩ := Nat.exists_eq_succ_of_ne_zero (n := bound) (by omega)
    rcases parts with _ | ⟨next, parts⟩
    · obtain rfl := List.forall₂_nil_left_iff.mp hparts
      rw [List.intercalate_singleton] at hbound ⊢
      have hclosed : skipBlanks (final ++ closing :: rest) = closing :: rest := by
        rw [skipBlanks_append hfinal, skipBlanks_cons h.closes.1]
      rw [h.last hpart (ends_append hfinal (ends_cons h.closes.2)) (by omega) hclosed]
      simp
    · -- the comma ends the part, and the blanks behind it are skipped
      obtain ⟨c, more, hstart, hc, -⟩ := h.start_intercalate hparts (by simp) gap
      rw [List.intercalate_cons_cons, List.append_assoc, List.append_assoc,
        List.cons_append] at hbound ⊢
      rw [h.next hpart (ends_cons (by decide)) (by omega) (skipBlanks_cons (by decide) _),
        skipBlanks_append hgap, hstart, List.cons_append, skipBlanks_cons hc, ← List.cons_append,
        ← hstart, ih (by simp)]
      · simp
      · simp only [List.length_append, List.length_cons] at hbound ⊢
        omega

/-- **A collection is read back** if its parts are. -/
theorem readsBack_enclose (h : IsCollection opening closing loop finish Reads) (layout : Layout)
    (level : Nat) (hparts : List.Forall₂ Reads parts values) :
    ReadsBack (layout.enclose level opening closing parts) (finish values) := by
  refine ⟨?_, fun {bound rest} hends hbound => ?_⟩
  · unfold Layout.enclose
    split
    · exact ⟨opening, _, rfl, h.opens⟩
    · exact ⟨opening, _, rfl, h.opens⟩
  · rcases parts with _ | ⟨part, parts⟩
    · obtain rfl := List.forall₂_nil_left_iff.mp hparts
      obtain ⟨bound, rfl⟩ := Nat.exists_eq_succ_of_ne_zero (n := bound) (by
        rintro rfl
        simp [Layout.enclose] at hbound)
      exact h.empty (skipBlanks_cons h.closes.1 rest)
    · have htext : layout.enclose level opening closing (part :: parts) ++ rest =
          opening :: (layout.lineBreak (level + 1) ++
            ((',' :: layout.lineBreak (level + 1)).intercalate (part :: parts) ++
              (layout.lineBreak level ++ closing :: rest))) := by
        simp [Layout.enclose]
      obtain ⟨c, more, hstart, hc, hne⟩ :=
        h.start_intercalate hparts (by simp) (layout.lineBreak (level + 1))
      rw [htext] at hbound ⊢
      obtain ⟨bound, rfl⟩ := Nat.exists_eq_succ_of_ne_zero (n := bound) (by
        rintro rfl
        simp at hbound)
      have hskip : skipBlanks (layout.lineBreak (level + 1) ++
          ((',' :: layout.lineBreak (level + 1)).intercalate (part :: parts) ++
            (layout.lineBreak level ++ closing :: rest))) =
          c :: (more ++ (layout.lineBreak level ++ closing :: rest)) := by
        rw [skipBlanks_append (layout.blanks_lineBreak _), hstart, List.cons_append,
          skipBlanks_cons hc]
      rw [h.first hskip hne, ← List.cons_append, ← hstart,
        h.read_intercalate (layout.blanks_lineBreak _) (layout.blanks_lineBreak _) hparts (by simp)]
      · rfl
      · simp only [List.length_append, List.length_cons] at hbound ⊢
        omega

end IsCollection

/-- Sequences are read so, whatever their items are. -/
theorem isCollection_readItems : IsCollection '[' ']' readItems .list ReadsBack where
  opens := by decide
  closes := by decide
  start h := by
    obtain ⟨c, more, htext, hc, hne, -⟩ := h.start
    exact ⟨c, more, htext, hc, hne⟩
  empty h := by
    rw [readValue, h]
    rfl
  first h hne := by
    rw [readValue, h]
    split
    · rename_i heq
      exact absurd (List.cons.inj heq).1 hne
    · rfl
  last h _ _ _ _ hends hbound hskip := by
    rw [readItems, h.read hends hbound, ok_bind]
    dsimp only
    rw [hskip]
    rfl
  next h _ _ _ _ hends hbound hskip := by
    rw [readItems, h.read hends hbound, ok_bind]
    dsimp only
    rw [hskip]
    rfl

/-- **A layout that is read**: between a key and its value it puts a colon, and blanks. -/
def Layout.Readable (layout : Layout) : Prop :=
  ∃ blanks, layout.keySeparator.toList = ':' :: blanks ∧ Blanks blanks

/-- **An entry is read back of a text**, which is that of its key and one that its value is read
back of. -/
def EntryReadsBack (layout : Layout) (text : List Char) (entry : Scalar × Value) : Prop :=
  ∃ key part, text = writeText layout.asciiOnly key.toList ++ (layout.keySeparator.toList ++ part) ∧
    entry.1 = .str key ∧ ReadsBack part entry.2

variable {layout : Layout}

/-- What is read of an entry, up to its value. -/
theorem readEntries_of_readsBack (hlayout : layout.Readable) {entry : Scalar × Value}
    {seen : List (Scalar × Value)} (h : EntryReadsBack layout text entry) (hends : Ends rest)
    (hbound : 2 * (text ++ rest).length ≤ bound) :
    readEntries (bound + 1) seen (text ++ rest) =
      match skipBlanks rest with
      | '\x7d' :: rest => .ok (.ofEntries (entry :: seen).reverse, rest)
      | ',' :: rest => readEntries bound (entry :: seen) (skipBlanks rest)
      | rest => stop .expectingComma rest := by
  obtain ⟨key, part, rfl, hkey, hpart⟩ := h
  obtain ⟨blanks, hseparator, hblanks⟩ := hlayout
  obtain ⟨c, more, hstart, hc, -⟩ := hpart.start
  obtain ⟨k, v⟩ := entry
  obtain rfl : k = .str key := hkey
  have htext :
      writeText layout.asciiOnly key.toList ++ (layout.keySeparator.toList ++ part) ++ rest =
      '"' :: (key.toList.flatMap (writeChar layout.asciiOnly) ++
        '"' :: ':' :: (blanks ++ (part ++ rest))) := by
    simp [writeText, hseparator]
  have hvalue : skipBlanks (blanks ++ (part ++ rest)) = part ++ rest := by
    rw [skipBlanks_append hblanks, hstart, List.cons_append, skipBlanks_cons hc]
  rw [htext] at hbound ⊢
  rw [readEntries, readQuoted_flatMap, ok_bind]
  dsimp only
  rw [skipBlanks_cons (by decide)]
  change (readValue bound (skipBlanks (blanks ++ (part ++ rest))) >>= _) = _
  rw [hvalue, hpart.read hends, ok_bind]
  · rfl
  · simp only [List.length_append, List.length_cons] at hbound ⊢
    omega

/-- Mappings are read so in a layout that is read. -/
theorem isCollection_readEntries (hlayout : layout.Readable) :
    IsCollection '\x7b' '\x7d' readEntries .ofEntries (EntryReadsBack layout) where
  opens := by decide
  closes := by decide
  start := by
    rintro _ _ ⟨key, part, rfl, -⟩
    exact ⟨'"', _, rfl, by decide, by decide⟩
  empty h := by
    rw [readValue, h]
    rfl
  first h hne := by
    rw [readValue, h]
    split
    · rename_i heq
      exact absurd (List.cons.inj heq).1 hne
    · rfl
  last h _ _ _ _ hends hbound hskip := by
    rw [readEntries_of_readsBack hlayout h hends hbound, hskip]
    rfl
  next h _ _ _ _ hends hbound hskip := by
    rw [readEntries_of_readsBack hlayout h hends hbound, hskip]
    rfl

/-! ### Scalars -/

/-- **A scalar that is read back**, which is said of floating-point numbers only: that shortest
digits are read as the number again is a matter of arithmetic. -/
def Legible (s : Scalar) : Prop := ∀ x, s = .float x → read (numberLayout.write x) = .ok (.scalar s)

theorem readsBack_writeText (asciiOnly : Bool) (s : String) :
    ReadsBack (writeText asciiOnly s.toList) (.text s) := by
  refine ⟨⟨'"', _, rfl, by decide⟩, fun {bound rest} _ hbound => ?_⟩
  have htext : writeText asciiOnly s.toList ++ rest =
      '"' :: (s.toList.flatMap (writeChar asciiOnly) ++ '"' :: rest) := by
    simp [writeText]
  rw [htext] at hbound ⊢
  obtain ⟨bound, rfl⟩ := Nat.exists_eq_succ_of_ne_zero (n := bound) (by
    rintro rfl
    simp at hbound)
  rw [readValue, readQuoted_flatMap, ok_bind]
  rfl

/-- **A scalar that has a notation** is read back. -/
theorem readsBack_writeScalar {s : Scalar} (hwritten : hasNotation s = true) (hs : Legible s)
    (h : writeScalar layout s = .ok text) : ReadsBack text (.scalar s) := by
  rw [writeScalar, hwritten, Bool.or_true] at h
  cases s with
  | null =>
    obtain rfl : "null".toList = text := Except.ok.inj h
    exact readsBack_of_readAtom (by decide) rfl
  | bool b =>
    obtain rfl : (if b then "true" else "false").toList = text := Except.ok.inj h
    cases b
    · exact readsBack_of_readAtom (by decide) rfl
    · exact readsBack_of_readAtom (by decide) rfl
  | int i =>
    obtain ⟨digits, hdigits, rfl⟩ := map_eq_ok_iff.mp (show (writeInt i).map id = .ok text from h)
    unfold writeInt at hdigits
    split at hdigits
    · rename_i hi
      cases hdigits
      exact readsBack_of_readAtom (atomText_toString i) (readAtom_toString hi)
    · simp at hdigits
  | float x =>
    obtain rfl : numberLayout.write x = text := Except.ok.inj h
    have htext : AtomText (numberLayout.write x) := atomText_write (by decide) (by decide) x
    exact readsBack_of_readAtom htext (readAtom_of_read htext (hs x rfl))
  | str s =>
    obtain rfl : writeText layout.asciiOnly s.toList = text := Except.ok.inj h
    exact readsBack_writeText _ s
  | bytes _ | date _ | instant _ | constant _ => simp [hasNotation] at hwritten

/-- Where nothing without a notation is written, a scalar that is written has one. -/
theorem Writable.hasNotation_eq_true (hstrict : layout.lenient = false) {s : Scalar}
    (h : Writable layout s) : hasNotation s = true := by
  obtain ⟨text, h⟩ := h
  rw [writeScalar, hstrict, Bool.false_or] at h
  split at h
  · assumption
  · simp at h

/-! ### Trees -/

/-- **A tree that is written is read back**, by induction on the tree. -/
theorem readsBack_writeValue (hlayout : layout.Readable)
    {enter : Nat → Nat → Except WriteFault (List Char)}
    (h : v.Tree fun s => hasNotation s = true ∧ Legible s) {level : Nat}
    (hwrite : writeValue layout enter level v = .ok text) : ReadsBack text v := by
  induction h generalizing level text with
  | scalar hs =>
    rw [writeValue] at hwrite
    exact readsBack_writeScalar hs.1 hs.2 hwrite
  | list _ ih =>
    rw [writeValue, writeItems_eq_mapM] at hwrite
    obtain ⟨parts, hparts, hwrite⟩ := bind_eq_ok_iff.mp hwrite
    obtain rfl := pure_eq_ok_iff.mp hwrite
    refine isCollection_readItems.readsBack_enclose layout level (.flip ?_)
    exact forall₂_imp_of_mem (mapM_eq_ok_iff.mp hparts) fun item hitem part hpart =>
      ih item hitem hpart
  | @map entries hkeys hnodup _ ih =>
    rw [writeValue, writeEntries_eq_mapM hkeys] at hwrite
    obtain ⟨parts, hparts, hwrite⟩ := bind_eq_ok_iff.mp hwrite
    obtain rfl := pure_eq_ok_iff.mp hwrite
    rw [← Value.ofEntries_of_nodup hkeys hnodup]
    refine (isCollection_readEntries hlayout).readsBack_enclose layout level (.flip ?_)
    refine forall₂_imp_of_mem (mapM_eq_ok_iff.mp hparts) fun entry hentry part hpart => ?_
    obtain ⟨key, hkey⟩ := hkeys entry hentry
    obtain ⟨value, hvalue, rfl⟩ := map_eq_ok_iff.mp hpart
    refine ⟨key, value, ?_, hkey, ih entry hentry hvalue⟩
    rw [List.append_assoc, Value.keyText, hkey]

/-- **A written tree is read back as the tree**, with blanks behind it. -/
theorem read_write (hlayout : layout.Readable) {g : ValueGraph}
    (hg : g.IsTree fun s => hasNotation s = true ∧ Legible s) (h : write layout g = .ok text)
    (hafter : Blanks after) : read (text ++ after) = .ok g.root := by
  have hback := readsBack_writeValue hlayout hg.root h
  obtain ⟨c, more, hstart, hc, -, hne⟩ := hback.start
  have hmark : (text ++ after).head? ≠ some '\ufeff' := by
    rw [hstart]
    simpa using hne
  have hends : Ends after := by
    have hnil : Ends [] := by simp [Ends]
    simpa using ends_append hafter hnil
  refine (read_eq_ok_iff hmark).mpr ⟨after, ?_, List.dropWhile_eq_nil_iff.mpr hafter⟩
  have hskip : skipBlanks (text ++ after) = text ++ after := by
    rw [hstart, List.cons_append, skipBlanks_cons hc]
  rw [hskip]
  exact hback.read hends (by omega)

/-- Where nothing without a notation is written, it is enough that the numbers are read back. -/
theorem read_write_of_strict (hstrict : layout.lenient = false) (hlayout : layout.Readable)
    {g : ValueGraph} (hg : g.IsTree Legible) (h : write layout g = .ok text)
    (hafter : Blanks after) : read (text ++ after) = .ok g.root := by
  have hwritable : g.root.Tree (Writable layout) :=
    (exists_writeValue_iff hg.root 0).mp ⟨text, h⟩
  refine read_write hlayout (hg.iff_scalars.mpr fun s hs => ?_) h hafter
  exact ⟨(hg.root.iff_scalars.mp hwritable s hs).hasNotation_eq_true hstrict,
    hg.root.iff_scalars.mp hg.root s hs⟩

end OperationCatalog.Json
