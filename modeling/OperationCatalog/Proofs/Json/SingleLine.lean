import Mathlib.Tactic.SplitIfs
import OperationCatalog.Json.Writer
import OperationCatalog.Proofs.Json.Number
import OperationCatalog.Proofs.Text.Splitting

/-!
# JSON on a single line

The text of a value has no control characters but those that its layout puts between the parts of a
collection (`OperationCatalog.Json.forall_mem_write`): inside texts they are escaped, and what
stands without quotes is made of letters, digits, signs and points. So the compact text of a value,
where the layout puts none, is a single line (`OperationCatalog.Json.visible_compactText`).

The walk into the store is unfolded level by level: a level has no others if the level below has
none, and there is no text at the lowest.
-/

namespace OperationCatalog

/-- **A text without control characters.** -/
def Visible (s : List Char) : Prop := ∀ c ∈ s, ' ' ≤ c

instance (s : List Char) : Decidable (Visible s) := List.decidableBAll (' ' ≤ ·) s

namespace Visible

variable {s t : List Char} {c : Char}

@[simp] theorem nil : Visible [] := fun _ h => absurd h List.not_mem_nil

@[simp] theorem cons : Visible (c :: s) ↔ ' ' ≤ c ∧ Visible s := List.forall_mem_cons

@[simp] theorem append : Visible (s ++ t) ↔ Visible s ∧ Visible t := List.forall_mem_append

theorem flatMap {f : Char → List Char} (h : ∀ c ∈ s, Visible (f c)) : Visible (s.flatMap f) := by
  intro d hd
  obtain ⟨c, hc, hd⟩ := List.mem_flatMap.mp hd
  exact h c hc d hd

end Visible

namespace Json

/-! ### Texts -/

theorem space_le_hexDigit {n : Nat} (h : n < 16) : ' ' ≤ Text.hexDigit n := by
  have all : ∀ n : Fin 16, ' ' ≤ Text.hexDigit n := by decide
  exact all ⟨n, h⟩

theorem visible_hexDigits (width n : Nat) : Visible (Text.hexDigits width n) := by
  induction width generalizing n with
  | zero => exact Visible.nil
  | succ width ih =>
    refine Visible.append.mpr ⟨ih (n / 16), Visible.cons.mpr ⟨?_, Visible.nil⟩⟩
    exact space_le_hexDigit (Nat.mod_lt n (by decide))

theorem visible_unitEscape (unit : Nat) : Visible (unitEscape unit) := by
  simp [unitEscape, visible_hexDigits]

theorem visible_numericEscape (c : Char) : Visible (numericEscape c) := by
  unfold numericEscape
  dsimp only
  split <;> simp [visible_unitEscape]

/-- **A character inside a text** is written visibly, whether it is visible or not. -/
theorem visible_writeChar (asciiOnly : Bool) (c : Char) : Visible (writeChar asciiOnly c) := by
  unfold writeChar
  split_ifs with _ _ _ _ _ _ _ hcontrol
  -- seven characters have escapes of their own, two kinds are escaped by number
  · decide
  · decide
  · decide
  · decide
  · decide
  · decide
  · decide
  · exact visible_numericEscape c
  · exact visible_numericEscape c
  · exact Visible.cons.mpr ⟨Char.not_lt.mp hcontrol, Visible.nil⟩

theorem visible_writeText (asciiOnly : Bool) (s : List Char) : Visible (writeText asciiOnly s) := by
  have body : Visible (s.flatMap (writeChar asciiOnly)) :=
    .flatMap fun c _ => visible_writeChar asciiOnly c
  simp [writeText, body]

/-! ### Scalars -/

variable {layout : Layout} {s : List Char}

theorem space_le_of_isAtomChar {c : Char} (h : isAtomChar c = true) : ' ' ≤ c := by
  have control : ∀ n : Fin 32, isAtomChar (Char.ofNat n) = false := by decide
  by_contra hspace
  have hlt : c.toNat < 32 := by
    have := Char.not_le.mp hspace
    rwa [Char.lt_def, UInt32.lt_iff_toNat_lt] at this
  have := control ⟨c.toNat, hlt⟩
  rw [Char.ofNat_toNat, h] at this
  simp at this

/-- What may stand without quotes is visible. -/
theorem visible_of_atomText (h : AtomText s) : Visible s :=
  fun c hc => space_le_of_isAtomChar (h c hc)

theorem visible_numberLayout (x : Binary64) : Visible (numberLayout.write x) :=
  visible_of_atomText (atomText_write (by decide) (by decide) x)

theorem visible_writeInt {i : Int} (h : writeInt i = .ok s) : Visible s := by
  unfold writeInt at h
  split at h
  · cases h
    exact visible_of_atomText (atomText_toString i)
  · simp at h

/-- **A scalar** is visible: a text between quotes, or a number, truth value or null. -/
theorem visible_writeScalar {scalar : Scalar} (h : writeScalar layout scalar = .ok s) :
    Visible s := by
  unfold writeScalar at h
  split at h
  · obtain ⟨text, htext, rfl⟩ := map_eq_ok_iff.mp h
    split
    · rename_i hbare
      cases scalar with
      | null => cases htext; decide
      | bool b => cases htext; cases b <;> decide
      | int i => exact visible_writeInt htext
      | float x => cases htext; exact visible_numberLayout x
      -- every other scalar stands between quotes
      | _ => simp [isBare] at hbare
    · exact visible_writeText _ text
  · simp at h

theorem visible_writeKey {asciiOnly : Bool} {key : Scalar} (h : writeKey asciiOnly key = .ok s) :
    Visible s := by
  unfold writeKey at h
  split at h
  · simp at h
  · simp at h
  · simp at h
  · simp at h
  · obtain ⟨text, -, rfl⟩ := map_eq_ok_iff.mp h
    exact visible_writeText _ text

theorem visible_writeSet {members : List Scalar} (h : writeSet layout members = .ok s) :
    Visible s := by
  unfold writeSet at h
  split at h
  · simp at h
  · split at h
    · cases h
      exact visible_writeText _ _
    · simp at h

/-! ### Collections -/

/-- **What a layout puts** between the parts of collections has characters with a property, and so
have all visible texts. -/
structure Layout.Puts (P : Char → Prop) (layout : Layout) : Prop where
  /-- Visible characters have it. -/
  visible : ∀ c, ' ' ≤ c → P c
  /-- What nested values are set in by has it. -/
  lineBreak : ∀ level, ∀ c ∈ layout.lineBreak level, P c
  /-- What stands between a key and its value has it. -/
  separator : ∀ c ∈ layout.keySeparator.toList, P c

/-- The compact layout puts no control character anywhere. -/
theorem Layout.puts_compact : Layout.compact.Puts (' ' ≤ ·) :=
  ⟨fun _ => id, fun _ _ h => absurd h List.not_mem_nil,
    (by decide : Visible Layout.compact.keySeparator.toList)⟩

/-- The layout of files puts line feeds, but no other control character. -/
theorem Layout.puts_file : Layout.file.Puts fun c => c = '\n' ∨ ' ' ≤ c := by
  have hseparator : Visible Layout.file.keySeparator.toList := by decide
  refine ⟨fun _ => .inr, fun level c hc => ?_, fun c hc => .inr (hseparator c hc)⟩
  rcases List.mem_cons.mp hc with rfl | hc
  · exact .inl rfl
  · rw [List.eq_of_mem_replicate hc]
    exact .inr (by decide)

section

variable {P : Char → Prop} {enter : Nat → Nat → Except WriteFault (List Char)}

theorem forall_mem_enclose (hputs : layout.Puts P) {level : Nat} {opening closing : Char}
    (hopening : ' ' ≤ opening) (hclosing : ' ' ≤ closing) {parts : List (List Char)}
    (h : ∀ part ∈ parts, ∀ c ∈ part, P c) :
    ∀ c ∈ layout.enclose level opening closing parts, P c := by
  have hfirst : P opening := hputs.visible _ hopening
  have hlast : P closing := hputs.visible _ hclosing
  have hbreak := hputs.lineBreak
  have hinside : ∀ c ∈ (',' :: layout.lineBreak (level + 1)).intercalate parts, P c :=
    Text.forall_mem_intercalate
      (List.forall_mem_cons.mpr ⟨hputs.visible _ (by decide), hbreak (level + 1)⟩) h
  unfold Layout.enclose
  split
  · simp [hfirst, hlast]
  · intro c hc
    simp only [List.cons_append, List.mem_cons, List.mem_append, List.append_assoc] at hc
    rcases hc with rfl | hc | hc | hc | rfl | hc
    · exact hfirst
    · exact hbreak _ c hc
    · exact hinside c hc
    · exact hbreak _ c hc
    · exact hlast
    · simp at hc

mutual

/-- **All characters of a tree** have a property that visible ones have, if the layout puts no
others and the shared collections in the tree have none. -/
theorem forall_mem_writeValue (hputs : layout.Puts P)
    (henter : ∀ level index s, enter level index = .ok s → ∀ c ∈ s, P c) (level : Nat) :
    ∀ (value : Value) (s : List Char), writeValue layout enter level value = .ok s → ∀ c ∈ s, P c
  | .scalar scalar, s, h => by
    rw [writeValue] at h
    exact fun c hc => hputs.visible c (visible_writeScalar h c hc)
  | .list items, s, h => by
    rw [writeValue] at h
    obtain ⟨parts, hparts, h⟩ := bind_eq_ok_iff.mp h
    obtain rfl := pure_eq_ok_iff.mp h
    exact forall_mem_enclose hputs (by decide) (by decide)
      (forall_mem_writeItems hputs henter (level + 1) items parts hparts)
  | .map entries, s, h => by
    rw [writeValue] at h
    obtain ⟨parts, hparts, h⟩ := bind_eq_ok_iff.mp h
    obtain rfl := pure_eq_ok_iff.mp h
    exact forall_mem_enclose hputs (by decide) (by decide)
      (forall_mem_writeEntries hputs henter (level + 1) entries parts hparts)
  | .set members, s, h => by
    rw [writeValue] at h
    exact fun c hc => hputs.visible c (visible_writeSet h c hc)
  | .pair first second, s, h => by
    rw [writeValue] at h
    obtain ⟨left, hleft, h⟩ := bind_eq_ok_iff.mp h
    obtain ⟨right, hright, h⟩ := bind_eq_ok_iff.mp h
    obtain rfl := pure_eq_ok_iff.mp h
    have hl := forall_mem_writeValue hputs henter (level + 1) first left hleft
    have hr := forall_mem_writeValue hputs henter (level + 1) second right hright
    refine forall_mem_enclose hputs (by decide) (by decide) ?_
    exact List.forall_mem_cons.mpr ⟨hl, List.forall_mem_cons.mpr ⟨hr, by simp⟩⟩
  | .shared index, s, h => by
    rw [writeValue] at h
    exact henter level index s h

theorem forall_mem_writeItems (hputs : layout.Puts P)
    (henter : ∀ level index s, enter level index = .ok s → ∀ c ∈ s, P c) (level : Nat) :
    ∀ (items : List Value) (parts : List (List Char)),
      writeItems layout enter level items = .ok parts → ∀ part ∈ parts, ∀ c ∈ part, P c
  | [], parts, h => by
    rw [writeItems] at h
    cases h
    simp
  | item :: rest, parts, h => by
    rw [writeItems] at h
    obtain ⟨part, hpart, h⟩ := bind_eq_ok_iff.mp h
    obtain ⟨more, hmore, h⟩ := bind_eq_ok_iff.mp h
    obtain rfl := pure_eq_ok_iff.mp h
    exact List.forall_mem_cons.mpr
      ⟨forall_mem_writeValue hputs henter level item part hpart,
        forall_mem_writeItems hputs henter level rest more hmore⟩

theorem forall_mem_writeEntries (hputs : layout.Puts P)
    (henter : ∀ level index s, enter level index = .ok s → ∀ c ∈ s, P c) (level : Nat) :
    ∀ (entries : List (Scalar × Value)) (parts : List (List Char)),
      writeEntries layout enter level entries = .ok parts → ∀ part ∈ parts, ∀ c ∈ part, P c
  | [], parts, h => by
    rw [writeEntries] at h
    cases h
    simp
  | (key, value) :: rest, parts, h => by
    rw [writeEntries] at h
    obtain ⟨name, hname, h⟩ := bind_eq_ok_iff.mp h
    obtain ⟨part, hpart, h⟩ := bind_eq_ok_iff.mp h
    obtain ⟨more, hmore, h⟩ := bind_eq_ok_iff.mp h
    obtain rfl := pure_eq_ok_iff.mp h
    have hkey : ∀ c ∈ name, P c := fun c hc => hputs.visible c (visible_writeKey hname c hc)
    have hvalue := forall_mem_writeValue hputs henter level value part hpart
    refine List.forall_mem_cons.mpr ⟨?_, forall_mem_writeEntries hputs henter level rest more hmore⟩
    exact List.forall_mem_append.mpr
      ⟨List.forall_mem_append.mpr ⟨hkey, hputs.separator⟩, hvalue⟩

end

/-! ### Whole values -/

/-- **The same of a shared collection**, by induction on the levels that may be entered. -/
theorem forall_mem_writeShared (hputs : layout.Puts P) (nodes : Array Value) (depth : Nat)
    (inside : List Nat) : ∀ (level index : Nat) (s : List Char),
      writeShared layout nodes depth inside level index = .ok s → ∀ c ∈ s, P c := by
  induction depth generalizing inside with
  | zero =>
    intro level index s h
    simp [writeShared] at h
  | succ depth ih =>
    intro level index s h
    rw [writeShared] at h
    split at h
    · simp at h
    · -- whatever the collection holds shared is entered one level below
      exact forall_mem_writeValue hputs (ih (index :: inside)) level _ s h

/-- **All characters of a written value** are visible, but for those that the layout puts. -/
theorem forall_mem_write (hputs : layout.Puts P) {g : ValueGraph} {s : List Char}
    (h : write layout g = .ok s) : ∀ c ∈ s, P c :=
  forall_mem_writeValue hputs (forall_mem_writeShared hputs _ _ _) 0 g.root s h

/-- **The compact text of a value has no control characters.** -/
theorem visible_compactText {g : ValueGraph} {text : String} (h : compactText g = .ok text) :
    Visible text.toList := by
  obtain ⟨s, hs, rfl⟩ := map_eq_ok_iff.mp h
  rw [String.toList_ofList]
  exact forall_mem_write Layout.puts_compact hs

end

end Json

end OperationCatalog
