import OperationCatalog.Proofs.Json.Walk
import OperationCatalog.Proofs.Yaml.Hexadecimal
import OperationCatalog.TypeScript.Literal

/-!
# Shared collections in generated code

A value may share collections, and a collection may contain itself. As long as none does, sharing
cannot be seen in the text of a value: it is that of the value with a copy of each collection
wherever the collection is shared (`OperationCatalog.ValueGraph.Copies`), and there is such a value.

So an opaque value is a literal of generated code exactly if no collection in it contains itself, no
key in it is of a kind that cannot be one, and no integer in it is too long
(`OperationCatalog.TypeScript.valueLiteral_of_graph`). That a collection is shared is no reason to
refuse it.

The last of the three conditions is not about the notation. An integer of any size has a decimal
text, but nobody writes one of more than 4300 digits. Notations to the base of a power of two are
read without a bound, so such an integer does occur in a value
(`OperationCatalog.TypeScript.valueLiteral_overlongText`).
-/

namespace OperationCatalog

namespace ValueGraph

/-! ### Copies -/

/-- **A copy that shares nothing**: the same value with a copy of each shared collection in the
place of each reference to it. -/
inductive Copies (g : ValueGraph) : Value → Value → Prop where
  /-- A scalar is a copy of itself. -/
  | scalar (s : Scalar) : Copies g (.scalar s) (.scalar s)
  /-- So is a set. -/
  | set (members : List Scalar) : Copies g (.set members) (.set members)
  /-- Of a sequence the items are copied. -/
  | list {items copies : List Value} : items.length = copies.length →
      (∀ pair ∈ items.zip copies, Copies g pair.1 pair.2) → Copies g (.list items) (.list copies)
  /-- Of a mapping the values are copied, under the same keys. -/
  | map {entries copies : List (Scalar × Value)} : entries.length = copies.length →
      (∀ pair ∈ entries.zip copies, pair.1.1 = pair.2.1) →
      (∀ pair ∈ entries.zip copies, Copies g pair.1.2 pair.2.2) →
      Copies g (.map entries) (.map copies)
  /-- Of a pair both sides are copied. -/
  | pair {first second first' second' : Value} : Copies g first first' → Copies g second second' →
      Copies g (.pair first second) (.pair first' second')
  /-- Where a collection is shared, the collection is copied. -/
  | shared {i : Nat} {copy : Value} : Copies g (g.nodes.getD i .null) copy →
      Copies g (.shared i) copy

variable {g : ValueGraph} {v copy other : Value}

theorem copies_list_iff {items : List Value} : g.Copies (.list items) copy ↔
    ∃ copies, copy = .list copies ∧ List.Forall₂ g.Copies items copies := by
  simp only [List.forall₂_iff_zip]
  constructor
  · rintro (_ | _ | ⟨hlength, hcopies⟩)
    exact ⟨_, rfl, hlength, fun h => hcopies _ h⟩
  · rintro ⟨copies, rfl, hlength, hcopies⟩
    exact .list hlength fun pair hpair => hcopies hpair

/-- The entries of a mapping are copied under their keys. -/
theorem copies_map_iff {entries : List (Scalar × Value)} : g.Copies (.map entries) copy ↔
    ∃ copies, copy = .map copies ∧
      List.Forall₂ (fun entry copy => entry.1 = copy.1 ∧ g.Copies entry.2 copy.2) entries copies := by
  simp only [List.forall₂_iff_zip]
  constructor
  · rintro (_ | _ | _ | ⟨hlength, hkeys, hcopies⟩)
    exact ⟨_, rfl, hlength, fun h => ⟨hkeys _ h, hcopies _ h⟩⟩
  · rintro ⟨copies, rfl, hlength, hcopies⟩
    exact .map hlength (fun pair hpair => (hcopies hpair).1) fun pair hpair => (hcopies hpair).2

/-- **A value has one copy** at most. -/
theorem Copies.unique (h : g.Copies v copy) (h' : g.Copies v other) : copy = other := by
  induction h generalizing other with
  | scalar s | set members =>
    cases h'
    rfl
  | list hlength _ ih =>
    obtain ⟨copies, rfl, hcopies⟩ := copies_list_iff.mp h'
    exact congrArg _ (eq_of_forall₂
      (List.forall₂_iff_zip.mpr ⟨hlength, fun hpair _ => ih _ hpair⟩) hcopies)
  | map hlength hkeys _ ih =>
    obtain ⟨copies, rfl, hcopies⟩ := copies_map_iff.mp h'
    refine congrArg _ (eq_of_forall₂ (List.forall₂_iff_zip.mpr ⟨hlength, ?_⟩) hcopies)
    rintro entry copy hpair entry' ⟨hkey, hvalue⟩
    exact Prod.ext ((hkeys _ hpair).symm.trans hkey) (ih _ hpair hvalue)
  | pair _ _ ihfirst ihsecond =>
    obtain _ | _ | _ | _ | ⟨hfirst, hsecond⟩ := h'
    rw [ihfirst hfirst, ihsecond hsecond]
  | shared _ ih =>
    obtain _ | _ | _ | _ | _ | hnode := h'
    exact ih hnode

theorem acyclic_iff : g.Acyclic ↔ ∀ path, ¬g.Meets [] (.value g.root) path .circular := by
  rw [← not_iff_not, ← exists_faultAt_circular_iff, not_forall_not]
  exact exists_congr fun path => meets_root_iff.symm

/-- A fault that a walk does not meet it does not meet further in. -/
theorem not_meets_of_mem_parts {inside : List Nat} {spot part : Spot} {fault : Json.WriteFault}
    (h : ∀ path, ¬g.Meets inside spot path fault) (hpart : part ∈ g.parts spot) :
    ∀ path, ¬g.Meets (spot.entered inside) part path fault := by
  obtain ⟨n, hn⟩ := List.mem_iff_getElem?.mp hpart
  exact fun path hmeets => h _ (.part hn hmeets)

end ValueGraph

namespace Json

variable {g : ValueGraph} {layout : Layout} {inside : List Nat} {depth : Nat}
  {enter enter' : Nat → Nat → Except WriteFault (List Char)}

/-! ### The text of a copy -/

/-- **A copy of a value with the same text**, however the value is laid out and whatever would be
entered in the copy, which shares nothing. -/
def SameText (g : ValueGraph) (layout : Layout) (enter : Nat → Nat → Except WriteFault (List Char))
    (v copy : Value) : Prop :=
  g.Copies v copy ∧ ∀ level enter',
    writeValue layout enter level v = writeValue layout enter' level copy

theorem writeItems_eq_of_sameText {items copies : List Value}
    (h : List.Forall₂ (SameText g layout enter) items copies) (level : Nat) :
    writeItems layout enter level items = writeItems layout enter' level copies := by
  induction h with
  | nil => rw [writeItems, writeItems]
  | cons hitem _ ih => rw [writeItems, writeItems, hitem.2 level enter', ih]

theorem writeEntries_eq_of_sameText {entries copies : List (Scalar × Value)}
    (h : List.Forall₂ (fun entry copy => entry.1 = copy.1 ∧ SameText g layout enter entry.2 copy.2)
      entries copies) (level : Nat) :
    writeEntries layout enter level entries = writeEntries layout enter' level copies := by
  induction h with
  | nil => rw [writeEntries, writeEntries]
  | @cons entry copy _ _ hentry _ ih =>
    obtain ⟨key, value⟩ := entry
    obtain ⟨key', value'⟩ := copy
    obtain ⟨rfl, hvalue⟩ := hentry
    rw [writeEntries, writeEntries, hvalue.2 level enter', ih]

/-- **A value has a copy with the same text** if each shared collection that is entered has one, and
none is met again. -/
theorem exists_sameText
    (henter : ∀ i, (∀ path, ¬g.Meets inside (.value (.shared i)) path .circular) →
      ∃ copy, SameText g layout enter (.shared i) copy) (v : Value)
    (hmeets : ∀ path, ¬g.Meets inside (.value v) path .circular) :
    ∃ copy, SameText g layout enter v copy := by
  induction v using Value.by_parts with
  | scalar s => exact ⟨_, .scalar s, fun level enter' => by rw [writeValue, writeValue]⟩
  | set members => exact ⟨_, .set members, fun level enter' => by rw [writeValue, writeValue]⟩
  | shared i => exact henter i hmeets
  | list items ih =>
    have hitems : ∀ item ∈ items, ∃ copy, SameText g layout enter item copy := fun item hitem =>
      ih item hitem (ValueGraph.not_meets_of_mem_parts hmeets (List.mem_map_of_mem hitem))
    obtain ⟨copies, hcopies⟩ := exists_forall₂ hitems
    refine ⟨.list copies, ValueGraph.copies_list_iff.mpr ⟨_, rfl, hcopies.imp fun _ _ h => h.1⟩, ?_⟩
    intro level enter'
    rw [writeValue, writeValue, writeItems_eq_of_sameText hcopies]
  | map entries ih =>
    have hentries : ∀ entry ∈ entries, ∃ copy : Scalar × Value,
        entry.1 = copy.1 ∧ SameText g layout enter entry.2 copy.2 := by
      intro entry hentry
      have hpart : Spot.value entry.2 ∈ g.parts (.value (.map entries)) :=
        List.mem_flatMap.mpr ⟨entry, hentry, by simp⟩
      obtain ⟨copy, hcopy⟩ := ih entry hentry (ValueGraph.not_meets_of_mem_parts hmeets hpart)
      exact ⟨(entry.1, copy), rfl, hcopy⟩
    obtain ⟨copies, hcopies⟩ := exists_forall₂ hentries
    refine ⟨.map copies, ValueGraph.copies_map_iff.mpr
      ⟨_, rfl, hcopies.imp fun _ _ h => ⟨h.1, h.2.1⟩⟩, ?_⟩
    intro level enter'
    rw [writeValue, writeValue, writeEntries_eq_of_sameText hcopies]
  | pair first second ihfirst ihsecond =>
    have hparts : g.parts (.value (.pair first second)) = [.value first, .value second] := rfl
    obtain ⟨left, hleft⟩ :=
      ihfirst (ValueGraph.not_meets_of_mem_parts hmeets (by simp [hparts]))
    obtain ⟨right, hright⟩ :=
      ihsecond (ValueGraph.not_meets_of_mem_parts hmeets (by simp [hparts]))
    refine ⟨.pair left right, .pair hleft.1 hright.1, fun level enter' => ?_⟩
    rw [writeValue, writeValue, hleft.2 _ enter', hright.2 _ enter']

/-- **A shared collection has a copy with the same text** if it is not met again. -/
theorem exists_sameText_shared (hroom : Room g depth inside) (i : Nat)
    (hmeets : ∀ path, ¬g.Meets inside (.value (.shared i)) path .circular) :
    ∃ copy, SameText g layout (writeShared layout g.nodes depth inside) (.shared i) copy := by
  induction depth generalizing inside i with
  | zero => exact absurd rfl hroom.depth_ne_zero
  | succ depth ih =>
    have hnew : i ∉ inside := fun hinside => hmeets [] (.again hinside)
    have hnode : ∃ copy, SameText g layout (writeShared layout g.nodes depth (i :: inside))
        (g.nodes.getD i .null) copy := by
      by_cases hi : i < g.nodes.size
      · exact exists_sameText (ih (hroom.enter hnew hi)) _
          (ValueGraph.not_meets_of_mem_parts hmeets List.mem_cons_self)
      · rw [ValueGraph.node_of_not_lt hi]
        exact ⟨_, .scalar .null, fun level enter' => by rw [writeValue, writeValue]⟩
    obtain ⟨copy, hcopy, htext⟩ := hnode
    refine ⟨copy, .shared hcopy, fun level enter' => ?_⟩
    rw [writeValue, writeShared, if_neg (by simpa using hnew)]
    exact htext level enter'

/-- **Sharing cannot be seen.** A value in which no collection contains itself has a copy that shares
nothing, and the copy has the same text in every layout. -/
theorem exists_copy_of_acyclic (layout : Layout) (h : g.Acyclic) :
    ∃ copy, g.Copies g.root copy ∧ write layout g = write layout (.ofTree copy) := by
  obtain ⟨copy, hcopy, htext⟩ : ∃ copy, SameText g layout
      (writeShared layout g.nodes (g.nodes.size + 1) []) g.root copy :=
    exists_sameText (exists_sameText_shared (room_start g)) g.root (ValueGraph.acyclic_iff.mp h)
  exact ⟨copy, hcopy, htext 0 _⟩

end Json

namespace ValueGraph

/-- **No place has a fault** exactly if no collection contains itself, every key can be one, and every
integer is written. -/
theorem not_exists_faultAt_iff {g : ValueGraph} : (∀ path fault, ¬g.FaultAt path fault) ↔
    g.Acyclic ∧
      (∀ key, g.Reaches (.value g.root) (.key key) → Json.hasNotation key = true) ∧
      ∀ spot, g.Reaches (.value g.root) spot → ∀ i ∈ spot.integers, Decimal.isWritable i = true := by
  constructor
  · intro h
    refine ⟨?_, fun key ⟨path, hpath⟩ => ?_, fun spot ⟨path, hpath⟩ i hi => ?_⟩
    · by_contra hcircular
      obtain ⟨path, hpath⟩ := exists_faultAt_circular_iff.mpr hcircular
      exact h path _ hpath
    · by_contra hkey
      exact h path _ (.spot hpath (.badKey (by simpa using hkey)))
    · by_contra hlong
      exact h path _ (.spot hpath (.overlong hi (by simpa using hlong)))
  · rintro ⟨hacyclic, hkeys, hintegers⟩ path fault h
    cases h with
    | spot hpath hoffends =>
      cases hoffends with
      | badKey hbad => simp [hkeys _ ⟨path, hpath⟩] at hbad
      | overlong hi hlong => simp [hintegers _ ⟨path, hpath⟩ _ hi] at hlong
    | circular hprefix hne habove hpath =>
      exact exists_faultAt_circular_iff.mp ⟨path, .circular hprefix hne habove hpath⟩ hacyclic

end ValueGraph

namespace TypeScript

open Json (hasNotation)

/-- **Which values are literals of generated code**, what text they have if they share collections,
and why the others are none. -/
theorem valueLiteral_of_graph (g : ValueGraph) :
    ((∃ text, valueLiteral g = .ok text) ↔
      g.Acyclic ∧
      (∀ key, g.Reaches (.value g.root) (.key key) → hasNotation key = true) ∧
      ∀ spot, g.Reaches (.value g.root) spot →
        ∀ i ∈ spot.integers, Decimal.isWritable i = true) ∧
    (g.Acyclic → (∃ copy, g.Copies g.root copy) ∧
      ∀ copy, g.Copies g.root copy → valueLiteral g = valueLiteral (.ofTree copy)) ∧
    (∀ fault, valueLiteral g = .error fault ↔ g.FirstFault fault) ∧
    ∀ fault, g.FirstFault fault →
      fault.message? = some "Circular reference detected" ∨
      (∃ key, g.Reaches (.value g.root) (.key key) ∧ hasNotation key = false ∧
        fault.message? =
          some ("keys must be str, int, float, bool or None, not " ++ key.typeName)) ∨
      fault = .integerTooLong := by
  refine ⟨?_, fun hacyclic => ?_, fun fault => Json.compactText_eq_error_iff, fun fault h => ?_⟩
  · exact Json.exists_compactText_iff.trans ValueGraph.not_exists_faultAt_iff
  · obtain ⟨copy, hcopy, htext⟩ := Json.exists_copy_of_acyclic .compact hacyclic
    refine ⟨⟨copy, hcopy⟩, fun other hother => ?_⟩
    rw [← hcopy.unique hother]
    exact congrArg (Except.map String.ofList) htext
  · obtain ⟨path, hpath, -⟩ := h
    cases hpath with
    | circular _ _ _ _ => exact Or.inl rfl
    | spot hspot hoffends =>
      cases hoffends with
      | badKey hbad => exact Or.inr (Or.inl ⟨_, ⟨path, hspot⟩, hbad, rfl⟩)
      | overlong _ _ => exact Or.inr (Or.inr rfl)

/-- A list that occurs twice is written twice, and one that contains itself is not. -/
example :
    (valueLiteral ⟨#[.list [.null]], .list [.shared 0, .shared 0]⟩).toOption =
      some "[[null],[null]]" ∧
    (valueLiteral ⟨#[.list [.null, .shared 0]], .shared 0⟩).toOption = none := by
  decide +kernel

/-- A number to the base of sixteen that has more than 4300 digits to the base of ten. -/
def overlongText : List Char := '0' :: 'x' :: '1' :: List.replicate 3572 '0'

/-- **An integer may be too long**, though nothing contains itself and there are no keys at all. -/
theorem valueLiteral_overlongText : ∃ g, Yaml.read overlongText = .ok g ∧ g.Acyclic ∧
    (∀ key, g.Reaches (.value g.root) (.key key) → hasNotation key = true) ∧
    valueLiteral g = .error .integerTooLong := by
  have hword : ∀ c ∈ '1' :: List.replicate 3572 '0', Yaml.InWord c :=
    List.forall_mem_cons.mpr ⟨by decide, fun c hc => by
      rw [List.eq_of_mem_replicate hc]
      decide⟩
  have htag : Yaml.Tag.ofPlain overlongText = .int := by decide +kernel
  obtain ⟨i, hi, hlong⟩ : ∃ i, Yaml.Number.readInt overlongText = .ok i ∧
      Decimal.isWritable i = false := by
    have hread : (Yaml.Number.readInt overlongText).toOption.any (!Decimal.isWritable ·) = true := by
      decide +kernel
    obtain ⟨i, hi, hlong⟩ := (Option.any_eq_true _ _).mp hread
    exact ⟨i, toOption_eq_some_iff.mp hi, by simpa using hlong⟩
  have hplace : ∀ path last,
      (ValueGraph.mk #[.null] (.scalar (.int i))).at? (.value (.scalar (.int i))) path = some last →
        last = .value (.scalar (.int i)) := by
    intro path last h
    cases path with
    | nil => exact (Option.some.inj h).symm
    | cons n path => simp [ValueGraph.at?, ValueGraph.parts] at h
  refine ⟨⟨#[.null], .scalar (.int i)⟩, Yaml.read_hexadecimal hword htag hi, ?_, ?_, ?_⟩
  · rintro j ⟨path, hpath⟩
    simpa using hplace path _ hpath
  · rintro key ⟨path, hpath⟩
    simpa using hplace path _ hpath
  · refine map_eq_error_iff.mpr ?_
    unfold Json.write
    rw [Json.writeValue]
    exact Json.writeScalar_compact_eq_error_iff.mpr (.overlong (List.mem_singleton_self _) hlong)

end TypeScript

end OperationCatalog
