import Mathlib.Data.List.Lex
import OperationCatalog.Json.Writer
import OperationCatalog.Proofs.Log

/-!
# The walk over a value

To write a value is to walk over it, from left to right and depth first, and to stop at the first
fault. This file says what the walk comes by without saying how it goes, by the places of a value:
a place is a path of numbers, each the one of a part among the parts of what is above it
(`OperationCatalog.ValueGraph.at?`), and the walk comes by the places in their lexicographic order.

There is a fault at a place if what stands there is wrong in itself, or if it is a shared collection
that stands above, too (`OperationCatalog.ValueGraph.FaultAt`). The places of a value that contains
itself are without end, but the walk is not: it ends with the fault at the first of the places with
one, and with a text exactly if there is no such place
(`OperationCatalog.Json.compactText_eq_error_iff`, `OperationCatalog.Json.exists_compactText_iff`).

## Where the walk is inside of a collection

The walk knows the collections that it is inside of and enters none of them again, wherever it has
started. A place knows nothing of a walk: the same collection stands there and above. The relation
`OperationCatalog.ValueGraph.Meets` is between the two. It has the collections that the walk is
inside of and the places that are still before it, so that it can be followed step by step, and for
a walk that has just started it says what the places say
(`OperationCatalog.ValueGraph.meets_root_iff`).
-/

namespace OperationCatalog

open Json (WriteFault)

/-- **A value by its parts**: a property holds of all values if it holds of each whenever it holds
of its parts. No reference is followed. -/
theorem Value.by_parts {P : Value → Prop} (scalar : ∀ s, P (.scalar s))
    (list : ∀ items, (∀ item ∈ items, P item) → P (.list items))
    (map : ∀ entries : List (Scalar × Value), (∀ entry ∈ entries, P entry.2) → P (.map entries))
    (set : ∀ members, P (.set members))
    (pair : ∀ first second, P first → P second → P (.pair first second))
    (shared : ∀ i, P (.shared i)) : ∀ v, P v
  | .scalar s => scalar s
  | .list items => list items fun item _ => by_parts scalar list map set pair shared item
  | .map entries => map entries fun entry _ => by_parts scalar list map set pair shared entry.2
  | .set members => set members
  | .pair first second =>
    pair first second (by_parts scalar list map set pair shared first)
      (by_parts scalar list map set pair shared second)
  | .shared i => shared i
termination_by v => sizeOf v
decreasing_by
  · have := List.sizeOf_lt_of_mem ‹item ∈ items›
    rw [Value.list.sizeOf_spec]
    omega
  · have := List.sizeOf_lt_of_mem ‹entry ∈ entries›
    rw [← Prod.eta entry, Prod.mk.sizeOf_spec] at this
    rw [Value.map.sizeOf_spec]
    omega
  all_goals
    rw [Value.pair.sizeOf_spec]
    omega

/-! ### Places -/

/-- **What a walk comes by**: a value, or the key of an entry. -/
inductive Spot where
  /-- A key. -/
  | key (key : Scalar)
  /-- A value. -/
  | value (v : Value)

namespace ValueGraph

/-- **What is right inside**, in the order of the walk: a key comes before the value under it. -/
def parts (g : ValueGraph) : Spot → List Spot
  | .value (.list items) => items.map .value
  | .value (.map entries) => entries.flatMap fun entry => [.key entry.1, .value entry.2]
  | .value (.pair first second) => [.value first, .value second]
  | .value (.shared i) => [.value (g.nodes.getD i .null)]
  | _ => []

/-- **What stands at a place**, counted from a spot on. A reference is above the collection. -/
def at? (g : ValueGraph) : Spot → List Nat → Option Spot
  | spot, [] => some spot
  | spot, n :: path => (g.parts spot)[n]?.bind fun part => g.at? part path

/-- **What can be reached** from a spot on. -/
def Reaches (g : ValueGraph) (spot last : Spot) : Prop := ∃ path, g.at? spot path = some last

/-- **A collection that contains itself**, at some depth. -/
def ContainsItself (g : ValueGraph) (i : Nat) : Prop :=
  ∃ path, path ≠ [] ∧ g.at? (.value (.shared i)) path = some (.value (.shared i))

/-- **No collection contains itself**, of those that can be reached. -/
def Acyclic (g : ValueGraph) : Prop :=
  ∀ i, g.Reaches (.value g.root) (.value (.shared i)) → ¬g.ContainsItself i

end ValueGraph

/-! ### Faults -/

/-- The full name of the type of a scalar. -/
def Scalar.typeName : Scalar → String
  | .date _ => "datetime.date"
  | .instant _ => "datetime.datetime"
  | s => s.kindName

/-- **The integers that are written** where a spot is. -/
def Spot.integers : Spot → List Int
  | .key (.int i) | .value (.scalar (.int i)) => [i]
  | .value (.set members) => members.filterMap fun
    | .int i => some i
    | _ => none
  | _ => []

/-- **What is wrong with a spot**, wherever it stands. -/
inductive Spot.Offends : Spot → WriteFault → Prop where
  /-- A key is neither text, number, truth value nor null. -/
  | badKey {key : Scalar} : Json.hasNotation key = false → Offends (.key key) (.badKey key.typeName)
  /-- An integer is too long to be written in decimal. -/
  | overlong {spot : Spot} {i : Int} : i ∈ spot.integers → Decimal.isWritable i = false →
      Offends spot .integerTooLong

namespace Spot

/-- A spot is wrong in one way at most: a key that is refused is no integer. -/
theorem Offends.fault_eq {spot : Spot} {fault other : WriteFault} (h : spot.Offends fault)
    (h' : spot.Offends other) : fault = other := by
  have hkey {key : Scalar} {i : Int} (hkey : Json.hasNotation key = false)
      (hi : i ∈ (Spot.key key).integers) : False := by
    cases key <;> simp [integers, Json.hasNotation] at hkey hi
  cases h with
  | badKey hbad =>
    cases h' with
    | badKey _ => rfl
    | overlong hi _ => exact (hkey hbad hi).elim
  | overlong hi _ =>
    cases h' with
    | badKey hbad => exact (hkey hbad hi).elim
    | overlong _ _ => rfl

theorem not_offends_shared {i : Nat} {fault : WriteFault} :
    ¬(Spot.value (.shared i)).Offends fault := by
  rintro (_ | ⟨hi, _⟩)
  simp [integers] at hi

end Spot

namespace ValueGraph

/-- **A fault at a place** of a value. -/
inductive FaultAt (g : ValueGraph) (path : List Nat) : WriteFault → Prop where
  /-- What stands there is wrong. -/
  | spot {spot : Spot} {fault : WriteFault} : g.at? (.value g.root) path = some spot →
      spot.Offends fault → FaultAt g path fault
  /-- A shared collection stands there that stands above, too. -/
  | circular {above : List Nat} {i : Nat} : above <+: path → above ≠ path →
      g.at? (.value g.root) above = some (.value (.shared i)) →
      g.at? (.value g.root) path = some (.value (.shared i)) → FaultAt g path .circular

/-- **The first fault of a walk**, from left to right and depth first. -/
def FirstFault (g : ValueGraph) (fault : WriteFault) : Prop :=
  ∃ path, g.FaultAt path fault ∧ ∀ earlier < path, ∀ other, ¬g.FaultAt earlier other

variable {g : ValueGraph} {spot last part : Spot} {path rest : List Nat} {n : Nat}

/-- A reference that leads nowhere is no value. -/
theorem node_of_not_lt {i : Nat} (h : ¬i < g.nodes.size) : g.nodes.getD i .null = .scalar .null := by
  simp [Array.getD, h, Value.null]

theorem at?_cons_of_part (h : (g.parts spot)[n]? = some part) :
    g.at? spot (n :: path) = g.at? part path := by
  rw [at?, h]
  rfl

theorem at?_cons_eq_some_iff : g.at? spot (n :: path) = some last ↔
    ∃ part, (g.parts spot)[n]? = some part ∧ g.at? part path = some last :=
  Option.bind_eq_some_iff

theorem at?_append : g.at? spot (path ++ rest) = (g.at? spot path).bind fun v => g.at? v rest := by
  induction path generalizing spot with
  | nil => rfl
  | cons n path ih =>
    rw [List.cons_append, at?, at?, Option.bind_assoc]
    exact congrArg _ (funext fun part => ih)

/-- **A collection stands above itself** somewhere exactly if it can be reached and contains
itself. -/
theorem exists_faultAt_circular_iff : (∃ path, g.FaultAt path .circular) ↔ ¬g.Acyclic := by
  unfold Acyclic
  push Not
  constructor
  · rintro ⟨path, h⟩
    cases h with
    | spot _ hoffends => cases hoffends
    | @circular above i hprefix hne habove hpath =>
      obtain ⟨rest, rfl⟩ := hprefix
      refine ⟨i, ⟨above, habove⟩, rest, fun hrest => hne (by simp [hrest]), ?_⟩
      rwa [at?_append, habove] at hpath
  · rintro ⟨i, ⟨above, habove⟩, rest, hrest, hloop⟩
    have hprefix : above <+: above ++ rest := List.prefix_append _ _
    refine ⟨above ++ rest, .circular hprefix (by simpa using hrest) habove ?_⟩
    rw [at?_append, habove]
    exact hloop

end ValueGraph

/-! ### Walks inside of collections -/

/-- The collections that a walk is inside of when it is right inside of a spot. -/
def Spot.entered (inside : List Nat) : Spot → List Nat
  | .value (.shared i) => i :: inside
  | _ => inside

namespace ValueGraph

variable {g : ValueGraph} {spot last part : Spot} {inside path rest : List Nat} {n i : Nat}
  {fault : WriteFault}

/-- **A fault of a walk** that is inside of some collections and comes from a spot to a place
below. -/
inductive Meets (g : ValueGraph) : List Nat → Spot → List Nat → WriteFault → Prop where
  /-- What stands there is wrong. -/
  | offends {inside : List Nat} {spot : Spot} {fault : WriteFault} : spot.Offends fault →
      Meets g inside spot [] fault
  /-- The walk is inside of what stands there. -/
  | again {inside : List Nat} {i : Nat} : i ∈ inside → Meets g inside (.value (.shared i)) [] .circular
  /-- It is further in. -/
  | part {inside : List Nat} {spot part : Spot} {n : Nat} {path : List Nat} {fault : WriteFault} :
      (g.parts spot)[n]? = some part → Meets g (spot.entered inside) part path fault →
      Meets g inside spot (n :: path) fault

/-- A collection that a walk is inside of when it comes to a place. -/
def Around (g : ValueGraph) (inside : List Nat) (spot : Spot) (path : List Nat) (i : Nat) : Prop :=
  i ∈ inside ∨
    ∃ above, above <+: path ∧ above ≠ path ∧ g.at? spot above = some (.value (.shared i))

theorem around_nil_iff : g.Around inside spot [] i ↔ i ∈ inside := by
  unfold Around
  simp

theorem around_cons_iff (h : (g.parts spot)[n]? = some part) :
    g.Around inside spot (n :: path) i ↔ g.Around (spot.entered inside) part path i := by
  have hentered : i ∈ spot.entered inside ↔ i ∈ inside ∨ spot = .value (.shared i) := by
    unfold Spot.entered
    split
    · simp [or_comm, eq_comm]
    · rename_i hnot
      simp only [iff_self_or]
      exact fun hspot => absurd hspot (hnot i)
  unfold Around
  rw [hentered, or_assoc]
  refine or_congr_right ⟨?_, ?_⟩
  · rintro ⟨above, hprefix, hne, habove⟩
    cases above with
    | nil => exact Or.inl (Option.some.inj habove)
    | cons m above =>
      obtain ⟨rfl, hbelow⟩ := List.cons_prefix_cons.mp hprefix
      rw [at?_cons_of_part h] at habove
      exact Or.inr ⟨above, hbelow, fun heq => hne (by rw [heq]), habove⟩
  · rintro (rfl | ⟨above, hprefix, hne, habove⟩)
    · exact ⟨[], List.nil_prefix, by simp, rfl⟩
    · exact ⟨n :: above, List.cons_prefix_cons.mpr ⟨rfl, hprefix⟩, by simpa using hne,
        (at?_cons_of_part h).trans habove⟩

/-- **The faults of a walk by the places**: what stands at a place is wrong, or the walk is inside of
it. -/
theorem meets_iff : g.Meets inside spot path fault ↔ ∃ last, g.at? spot path = some last ∧
    (last.Offends fault ∨
      fault = .circular ∧ ∃ i, last = .value (.shared i) ∧ g.Around inside spot path i) := by
  induction path generalizing inside spot with
  | nil =>
    constructor
    · rintro (hoffends | hinside | _)
      · exact ⟨spot, rfl, Or.inl hoffends⟩
      · exact ⟨_, rfl, Or.inr ⟨rfl, _, rfl, around_nil_iff.mpr hinside⟩⟩
    · rintro ⟨last, hlast, h⟩
      obtain rfl := Option.some.inj hlast
      rcases h with hoffends | ⟨rfl, i, rfl, haround⟩
      · exact .offends hoffends
      · exact .again (around_nil_iff.mp haround)
  | cons n path ih =>
    constructor
    · rintro (_ | _ | ⟨hpart, hmeets⟩)
      obtain ⟨last, hlast, h⟩ := ih.mp hmeets
      refine ⟨last, (at?_cons_of_part hpart).trans hlast, ?_⟩
      simpa only [around_cons_iff hpart] using h
    · rintro ⟨last, hlast, h⟩
      obtain ⟨part, hpart, hlast⟩ := at?_cons_eq_some_iff.mp hlast
      simp only [around_cons_iff hpart] at h
      exact .part hpart (ih.mpr ⟨last, hlast, h⟩)

/-- The faults of a walk that has just started are those at the places. -/
theorem meets_root_iff : g.Meets [] (.value g.root) path fault ↔ g.FaultAt path fault := by
  rw [meets_iff]
  constructor
  · rintro ⟨last, hlast, hoffends | ⟨rfl, i, rfl, hinside | ⟨above, hprefix, hne, habove⟩⟩⟩
    · exact .spot hlast hoffends
    · simp at hinside
    · exact .circular hprefix hne habove hlast
  · intro h
    cases h with
    | spot hlast hoffends => exact ⟨_, hlast, Or.inl hoffends⟩
    | circular hprefix hne habove hlast =>
      exact ⟨_, hlast, Or.inr ⟨rfl, _, rfl, Or.inr ⟨_, hprefix, hne, habove⟩⟩⟩

/-- There is no fault at the spot itself if it is not wrong and the walk is not inside of it. -/
theorem not_meets_nil (hspot : ∀ fault, ¬spot.Offends fault)
    (hinside : ∀ i ∈ inside, spot ≠ .value (.shared i)) : ∀ fault, ¬g.Meets inside spot [] fault := by
  rintro fault (hoffends | hagain)
  · exact hspot fault hoffends
  · exact hinside _ hagain rfl

theorem Meets.fault_eq {other : WriteFault} (h : g.Meets inside spot path fault)
    (h' : g.Meets inside spot path other) : fault = other := by
  obtain ⟨last, hlast, h⟩ := meets_iff.mp h
  obtain ⟨last', hlast', h'⟩ := meets_iff.mp h'
  obtain rfl := Option.some.inj (hlast.symm.trans hlast')
  rcases h with h | ⟨rfl, i, rfl, -⟩
  · rcases h' with h' | ⟨rfl, i, rfl, -⟩
    · exact h.fault_eq h'
    · exact absurd h Spot.not_offends_shared
  · rcases h' with h' | ⟨rfl, -⟩
    · exact absurd h' Spot.not_offends_shared
    · rfl

/-- **A walk without a fault**, from a spot on. -/
def Clean (g : ValueGraph) (inside : List Nat) (spot : Spot) : Prop :=
  ∀ path fault, ¬g.Meets inside spot path fault

/-- **The first fault that a walk meets**, from a spot on. -/
def MeetsFirst (g : ValueGraph) (inside : List Nat) (spot : Spot) (fault : WriteFault) : Prop :=
  ∃ path, g.Meets inside spot path fault ∧
    ∀ earlier < path, ∀ other, ¬g.Meets inside spot earlier other

theorem meetsFirst_root_iff : g.MeetsFirst [] (.value g.root) fault ↔ g.FirstFault fault := by
  simp only [MeetsFirst, FirstFault, meets_root_iff]

/-- There is one fault at the first of the places with one. -/
theorem FirstFault.fault_eq {other : WriteFault} (h : g.FirstFault fault)
    (h' : g.FirstFault other) : fault = other := by
  obtain ⟨path, hpath, hfirst⟩ := h
  obtain ⟨path', hpath', hfirst'⟩ := h'
  rcases lt_trichotomy path path' with hlt | rfl | hlt
  · exact absurd hpath (hfirst' path hlt fault)
  · exact (meets_root_iff.mpr hpath).fault_eq (meets_root_iff.mpr hpath')
  · exact absurd hpath' (hfirst path' hlt other)

/-- **A walk further in** has no fault if there is none at the spot and none inside. -/
theorem clean_of_parts (hspot : ∀ fault, ¬g.Meets inside spot [] fault)
    (hparts : ∀ part ∈ g.parts spot, g.Clean (spot.entered inside) part) : g.Clean inside spot := by
  intro path fault h
  cases path with
  | nil => exact hspot fault h
  | cons n path =>
    obtain _ | _ | ⟨hpart, h⟩ := h
    exact hparts _ (List.mem_of_getElem? hpart) path fault h

/-- **The first fault of a walk further in** is that of the first part with one. -/
theorem meetsFirst_of_parts (hspot : ∀ fault, ¬g.Meets inside spot [] fault)
    (hparts : First (g.Clean (spot.entered inside))
      (g.MeetsFirst (spot.entered inside) · fault) (g.parts spot)) : g.MeetsFirst inside spot fault := by
  obtain ⟨before, part, after, hsplit, hbefore, path, hmeets, hfirst⟩ := hparts
  have hpart : (g.parts spot)[before.length]? = some part := by
    rw [hsplit]
    simp
  refine ⟨before.length :: path, .part hpart hmeets, fun earlier hearlier other h => ?_⟩
  cases earlier with
  | nil => exact hspot other h
  | cons n earlier =>
    obtain _ | _ | @⟨_, _, part', _, _, _, hpart', h⟩ := h
    rcases List.cons_lt_cons_iff.mp hearlier with hn | ⟨rfl, hwithin⟩
    · -- the part stands before, where the walk has found no fault
      rw [hsplit, List.getElem?_append_left hn] at hpart'
      exact hbefore part' (List.mem_of_getElem? hpart') earlier other h
    · obtain rfl := Option.some.inj (hpart.symm.trans hpart')
      exact hfirst earlier hwithin other h

end ValueGraph

namespace Json

/-! ### What writing reports -/

variable {α β : Type} {g : ValueGraph} {inside : List Nat} {spot : Spot} {spots : List Spot}
  {fault : WriteFault}

/-- **What is reported of a walk** from a spot on: that there is no fault, or the first one. -/
def Reports (g : ValueGraph) (inside : List Nat) (spot : Spot) : Except WriteFault α → Prop
  | .ok _ => g.Clean inside spot
  | .error fault => g.MeetsFirst inside spot fault

/-- The same of walks from some spots on, one after another. -/
def ReportsAll (g : ValueGraph) (inside : List Nat) (spots : List Spot) :
    Except WriteFault α → Prop
  | .ok _ => ∀ spot ∈ spots, g.Clean inside spot
  | .error fault => First (g.Clean inside) (g.MeetsFirst inside · fault) spots

theorem reportsAll_nil (a : α) : ReportsAll g inside [] (.ok a) := by
  simp [ReportsAll]

theorem reportsAll_singleton {x : Except WriteFault α} (hx : Reports g inside spot x) :
    ReportsAll g inside [spot] x := by
  cases x with
  | error fault => exact first_cons_iff.mpr (Or.inl hx)
  | ok a => exact List.forall_mem_singleton.mpr hx

theorem ReportsAll.cons {x : Except WriteFault α} {f : α → Except WriteFault β}
    (hx : Reports g inside spot x) (hf : ∀ a, ReportsAll g inside spots (f a)) :
    ReportsAll g inside (spot :: spots) (x >>= f) := by
  cases x with
  | error fault => exact first_cons_iff.mpr (Or.inl hx)
  | ok a =>
    have hlater := hf a
    rw [ok_bind]
    generalize f a = y at hlater ⊢
    cases y with
    | error fault => exact first_cons_iff.mpr (Or.inr ⟨hx, hlater⟩)
    | ok b => exact List.forall_mem_cons.mpr ⟨hx, hlater⟩

/-- What is only rearranged reports the same. -/
theorem ReportsAll.bind_pure {x : Except WriteFault α} {f : α → β}
    (hx : ReportsAll g inside spots x) : ReportsAll g inside spots (x >>= fun a => pure (f a)) := by
  cases x with
  | error _ | ok _ => exact hx

/-- What is reported of all parts of a spot is reported of the spot, if that is not at fault. -/
theorem ReportsAll.reports {x : Except WriteFault α}
    (hspot : ∀ fault, ¬g.Meets inside spot [] fault)
    (hx : ReportsAll g (spot.entered inside) (g.parts spot) x) : Reports g inside spot x := by
  cases x with
  | error fault => exact ValueGraph.meetsFirst_of_parts hspot hx
  | ok a => exact ValueGraph.clean_of_parts hspot hx

/-- **Of a spot without parts** its own fault is reported. -/
theorem reports_of_offends_iff {x : Except WriteFault α} (hparts : g.parts spot = [])
    (hx : ∀ fault, x = .error fault ↔ spot.Offends fault) : Reports g inside spot x := by
  have hmeets : ∀ path fault, g.Meets inside spot path fault → x = .error fault ∧ path = [] := by
    rintro path fault (hoffends | _ | ⟨hpart, -⟩)
    · exact ⟨(hx fault).mpr hoffends, rfl⟩
    · simp [ValueGraph.parts] at hparts
    · simp [hparts] at hpart
  cases x with
  | ok a => exact fun path fault h => by simpa using (hmeets path fault h).1
  | error fault =>
    exact ⟨[], .offends ((hx fault).mp rfl), fun earlier h => absurd h (List.not_lt_nil _)⟩

/-! ### Spots without parts -/

theorem offends_key_iff {key : Scalar} : (Spot.key key).Offends fault ↔
    hasNotation key = false ∧ fault = .badKey key.typeName ∨
      fault = .integerTooLong ∧ ∃ i, key = .int i ∧ Decimal.isWritable i = false := by
  constructor
  · rintro (hbad | ⟨hi, hlong⟩)
    · exact Or.inl ⟨hbad, rfl⟩
    · cases key <;> simp [Spot.integers] at hi
      subst hi
      exact Or.inr ⟨rfl, _, rfl, hlong⟩
  · rintro (⟨hbad, rfl⟩ | ⟨rfl, i, rfl, hlong⟩)
    · exact .badKey hbad
    · exact .overlong (by simp [Spot.integers]) hlong

theorem offends_scalar_iff {s : Scalar} : (Spot.value (.scalar s)).Offends fault ↔
    fault = .integerTooLong ∧ ∃ i, s = .int i ∧ Decimal.isWritable i = false := by
  constructor
  · rintro (_ | ⟨hi, hlong⟩)
    cases s <;> simp [Spot.integers] at hi
    subst hi
    exact ⟨rfl, _, rfl, hlong⟩
  · rintro ⟨rfl, i, rfl, hlong⟩
    exact .overlong (by simp [Spot.integers]) hlong

theorem offends_set_iff {members : List Scalar} : (Spot.value (.set members)).Offends fault ↔
    fault = .integerTooLong ∧ ∃ i, .int i ∈ members ∧ Decimal.isWritable i = false := by
  constructor
  · rintro (_ | ⟨hi, hlong⟩)
    obtain ⟨member, hmember, hi⟩ := List.mem_filterMap.mp hi
    cases member <;> simp at hi
    subst hi
    exact ⟨rfl, _, hmember, hlong⟩
  · rintro ⟨rfl, i, hi, hlong⟩
    exact .overlong (List.mem_filterMap.mpr ⟨.int i, hi, rfl⟩) hlong

theorem writeInt_eq_error_iff {i : Int} :
    writeInt i = .error fault ↔ fault = .integerTooLong ∧ Decimal.isWritable i = false := by
  unfold writeInt
  cases Decimal.isWritable i <;> simp [eq_comm]

theorem scalarText_eq_error_iff {s : Scalar} : scalarText s = .error fault ↔
    fault = .integerTooLong ∧ ∃ i, s = .int i ∧ Decimal.isWritable i = false := by
  cases s with
  | int i => simp [scalarText, writeInt_eq_error_iff]
  | _ => simp [scalarText]

theorem writeKey_eq_error_iff {asciiOnly : Bool} {key : Scalar} :
    writeKey asciiOnly key = .error fault ↔ (Spot.key key).Offends fault := by
  rw [offends_key_iff]
  cases key with
  | bytes _ | date _ | instant _ | constant _ =>
    simp only [writeKey, hasNotation, Scalar.typeName, Scalar.kindName, Except.error.injEq, true_and,
      reduceCtorEq, false_and, exists_false, and_false, or_false]
    exact eq_comm
  | _ => simp [writeKey, hasNotation, map_eq_error_iff, scalarText_eq_error_iff]

theorem writeScalar_compact_eq_error_iff {s : Scalar} :
    writeScalar .compact s = .error fault ↔ (Spot.value (.scalar s)).Offends fault := by
  rw [offends_scalar_iff, ← scalarText_eq_error_iff]
  exact map_eq_error_iff

theorem writeSet_compact_eq_error_iff {members : List Scalar} :
    writeSet .compact members = .error fault ↔ (Spot.value (.set members)).Offends fault := by
  have hwritable : (∃ i, .int i ∈ members ∧ Decimal.isWritable i = false) ↔
      members.all (fun m => m.asInt?.all Decimal.isWritable) = false := by
    rw [List.all_eq_false]
    constructor
    · rintro ⟨i, hi, hlong⟩
      exact ⟨_, hi, by simp [Scalar.asInt?, hlong]⟩
    · rintro ⟨member, hmember, hlong⟩
      cases member with
      | int i => exact ⟨i, hmember, by simpa [Scalar.asInt?] using hlong⟩
      | bool b =>
        -- truth values count as integers here, and are short
        exact absurd (by cases b <;> decide) hlong
      | _ => simp [Scalar.asInt?] at hlong
  rw [offends_set_iff, hwritable]
  unfold writeSet
  rcases members.all fun m => m.asInt?.all Decimal.isWritable <;> simp [Layout.compact, eq_comm]

/-! ### Values -/

section

variable {enter : Nat → Nat → Except WriteFault (List Char)}

theorem reportsAll_writeItems {items : List Value} (h : ∀ item ∈ items, ∀ level,
      Reports g inside (.value item) (writeValue .compact enter level item)) (level : Nat) :
    ReportsAll g inside (items.map .value) (writeItems .compact enter level items) := by
  induction items with
  | nil => exact reportsAll_nil []
  | cons item rest ih =>
    obtain ⟨hitem, hrest⟩ := List.forall_mem_cons.mp h
    rw [writeItems, List.map_cons]
    exact .cons (hitem level) fun _ => (ih hrest).bind_pure

/-- Of an entry the key is reported before the value. -/
theorem reportsAll_writeEntries {entries : List (Scalar × Value)} (h : ∀ entry ∈ entries, ∀ level,
      Reports g inside (.value entry.2) (writeValue .compact enter level entry.2)) (level : Nat) :
    ReportsAll g inside (entries.flatMap fun entry => [.key entry.1, .value entry.2])
      (writeEntries .compact enter level entries) := by
  induction entries with
  | nil => exact reportsAll_nil []
  | cons entry rest ih =>
    obtain ⟨hvalue, hrest⟩ := List.forall_mem_cons.mp h
    obtain ⟨key, value⟩ := entry
    have hkey : Reports g inside (.key key) (writeKey Layout.compact.asciiOnly key) :=
      reports_of_offends_iff rfl fun _ => writeKey_eq_error_iff
    rw [writeEntries, List.flatMap_cons]
    exact .cons hkey fun _ => .cons (hvalue level) fun _ => (ih hrest).bind_pure

/-- **Writing a value reports its walk**, if it does so where it enters a shared collection. -/
theorem reports_writeValue
    (henter : ∀ level i, Reports g inside (.value (.shared i)) (enter level i)) (v : Value)
    (level : Nat) : Reports g inside (.value v) (writeValue .compact enter level v) := by
  have hcollection {v : Value} (hshared : ∀ i, v ≠ .shared i)
      (hnone : (Spot.value v).integers = []) : ∀ fault, ¬g.Meets inside (.value v) [] fault := by
    refine ValueGraph.not_meets_nil ?_ fun i _ hv => hshared i (Spot.value.inj hv)
    rintro fault (_ | ⟨hi, -⟩)
    simp [hnone] at hi
  induction v using Value.by_parts generalizing level with
  | scalar s =>
    rw [writeValue]
    exact reports_of_offends_iff rfl fun _ => writeScalar_compact_eq_error_iff
  | set members =>
    rw [writeValue]
    exact reports_of_offends_iff rfl fun _ => writeSet_compact_eq_error_iff
  | shared i =>
    rw [writeValue]
    exact henter level i
  | list items ih =>
    rw [writeValue]
    exact (reportsAll_writeItems ih _).bind_pure.reports (hcollection (by simp) rfl)
  | map entries ih =>
    rw [writeValue]
    exact (reportsAll_writeEntries ih _).bind_pure.reports (hcollection (by simp) rfl)
  | pair first second hfirst hsecond =>
    rw [writeValue]
    refine ReportsAll.reports (hcollection (by simp) rfl) ?_
    exact .cons (hfirst _) fun _ => .cons (hsecond _) fun _ => reportsAll_nil _

end

/-! ### Shared collections -/

/-- **Room for a walk**: it is inside of different collections of the store, and there are not more
of those left than levels that it may still enter. -/
structure Room (g : ValueGraph) (depth : Nat) (inside : List Nat) : Prop where
  /-- The walk has entered each of them once. -/
  nodup : inside.Nodup
  /-- They are in the store. -/
  there : ∀ i ∈ inside, i < g.nodes.size
  /-- One more can be entered. -/
  bound : g.nodes.size < depth + inside.length

theorem room_start (g : ValueGraph) : Room g (g.nodes.size + 1) [] :=
  ⟨List.nodup_nil, by simp, by simp⟩

/-- There are not more collections than there are. -/
theorem Room.depth_ne_zero {depth : Nat} (h : Room g depth inside) : depth ≠ 0 := by
  have hsubset : inside ⊆ List.range g.nodes.size := fun i hi =>
    List.mem_range.mpr (h.there i hi)
  have hlength : inside.length ≤ g.nodes.size := by
    simpa using h.nodup.length_le_of_subset hsubset
  have := h.bound
  omega

theorem Room.enter {depth i : Nat} (h : Room g (depth + 1) inside) (hinside : i ∉ inside)
    (hi : i < g.nodes.size) : Room g depth (i :: inside) := by
  refine ⟨List.nodup_cons.mpr ⟨hinside, h.nodup⟩, List.forall_mem_cons.mpr ⟨hi, h.there⟩, ?_⟩
  have := h.bound
  rw [List.length_cons]
  omega

/-- **Writing a shared collection reports its walk.** -/
theorem reports_writeShared {depth : Nat} (hroom : Room g depth inside) (level i : Nat) :
    Reports g inside (.value (.shared i)) (writeShared .compact g.nodes depth inside level i) := by
  induction depth generalizing inside level i with
  | zero => exact absurd rfl hroom.depth_ne_zero
  | succ depth ih =>
    rw [writeShared]
    split
    · rename_i hinside
      refine ⟨[], .again (by simpa using hinside), fun earlier h => absurd h (List.not_lt_nil _)⟩
    · rename_i hinside
      have hnew : i ∉ inside := by simpa using hinside
      have hspot : ∀ fault, ¬g.Meets inside (.value (.shared i)) [] fault :=
        ValueGraph.not_meets_nil (fun _ => Spot.not_offends_shared) fun j hj hspot =>
          hnew (by simpa [← Value.shared.inj (Spot.value.inj hspot)] using hj)
      have hnode : Reports g (i :: inside) (.value (g.nodes.getD i .null))
          (writeValue .compact (writeShared .compact g.nodes depth (i :: inside)) level
            (g.nodes.getD i .null)) := by
        by_cases hi : i < g.nodes.size
        · exact reports_writeValue (fun level j => ih (hroom.enter hnew hi) level j) _ level
        · -- nothing is entered from a reference that leads nowhere
          rw [ValueGraph.node_of_not_lt hi, writeValue]
          exact reports_of_offends_iff rfl fun _ => writeScalar_compact_eq_error_iff
      exact (reportsAll_singleton hnode).reports hspot

/-- **Writing a value reports its walk from the root on.** -/
theorem reports_write (g : ValueGraph) : Reports g [] (.value g.root) (write .compact g) :=
  reports_writeValue (reports_writeShared (room_start g)) g.root 0

/-! ### Compact texts -/

/-- **The fault of a value** is that at the first of its places with one. -/
theorem compactText_eq_error_iff : compactText g = .error fault ↔ g.FirstFault fault := by
  have hreports := reports_write g
  unfold compactText
  rw [map_eq_error_iff]
  cases hwrite : write .compact g with
  | error other =>
    rw [hwrite] at hreports
    have hother : g.FirstFault other := ValueGraph.meetsFirst_root_iff.mp hreports
    constructor
    · rintro ⟨⟩
      exact hother
    · intro h
      rw [hother.fault_eq h]
  | ok text =>
    rw [hwrite] at hreports
    simp only [reduceCtorEq, false_iff]
    rintro ⟨path, hpath, -⟩
    exact hreports path fault (ValueGraph.meets_root_iff.mpr hpath)

/-- **A value has a text** exactly if there is a fault at none of its places. -/
theorem exists_compactText_iff : (∃ text, compactText g = .ok text) ↔
    ∀ path fault, ¬g.FaultAt path fault := by
  have hreports := reports_write g
  constructor
  · rintro ⟨text, htext⟩ path fault h
    obtain ⟨s, hs, -⟩ := map_eq_ok_iff.mp htext
    rw [hs] at hreports
    exact hreports path fault (ValueGraph.meets_root_iff.mpr h)
  · refine fun h => exists_eq_ok_iff.mpr fun fault hfault => ?_
    obtain ⟨path, hpath, -⟩ := compactText_eq_error_iff.mp hfault
    exact h path fault hpath

end Json

end OperationCatalog
