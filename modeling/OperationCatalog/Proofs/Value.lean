import OperationCatalog.Proofs.Named
import OperationCatalog.Value.Basic

/-!
# Values that are trees

A value is a tree if it is made of scalars, sequences and mappings with distinct text keys, and so
holds no set, no pair and nothing that is shared (`OperationCatalog.Value.Tree`). What the scalars
of a tree may be is a parameter: a property that they all have.

Of a mapping whose keys are texts, each key is a name. So entries that are put one after another are
things that are put by name (`OperationCatalog.Value.ofEntries_eq`), and a mapping is made of its
own entries again if its keys are distinct (`OperationCatalog.Value.ofEntries_of_nodup`).
-/

namespace OperationCatalog

namespace Scalar

/-- **A plain scalar**: one that a literal can stand for, or a constant. -/
def Plain : Scalar → Prop
  | int i => Decimal.isWritable i = true
  | bytes _ | date _ | instant _ => False
  | _ => True

/-- Whether a scalar is a constant. -/
def isConstant : Scalar → Bool
  | constant _ => true
  | _ => false

/-- **A scalar that a literal can stand for.** -/
def Literal (s : Scalar) : Prop := s.Plain ∧ s.isConstant = false

/-- Two texts are the same key exactly if they are the same. -/
@[simp] theorem sameKey_str (s t : String) : (str s).sameKey (str t) = (s == t) := by
  simp [sameKey, asInt?]

end Scalar

namespace Value

/-! ### Text keys -/

/-- The text of the key of an entry; that of any other key is empty. -/
def keyText (entry : Scalar × Value) : String :=
  match entry.1 with
  | .str s => s
  | _ => ""

/-- The keys of some entries are texts. -/
def HasTextKeys (entries : List (Scalar × Value)) : Prop :=
  ∀ entry ∈ entries, ∃ s, entry.1 = .str s

variable {entries : List (Scalar × Value)} {entry : Scalar × Value}

@[simp] theorem keyText_str (s : String) (v : Value) : keyText (.str s, v) = s := rfl

/-- Among text keys, putting a value is putting an entry by name. -/
theorem put_eq {key : String} {v : Value} (h : HasTextKeys entries) :
    put (.str key) v entries = GraphQL.putNamed keyText (.str key, v) entries := by
  induction entries with
  | nil => rfl
  | cons entry rest ih =>
    obtain ⟨⟨s, hs⟩, hrest⟩ := List.forall_mem_cons.mp h
    obtain ⟨k, w⟩ := entry
    obtain rfl : k = .str s := hs
    rw [put, GraphQL.putNamed, Scalar.sameKey_str, keyText_str, keyText_str, ih hrest]
    by_cases hkey : s = key <;> simp [hkey]

/-- **Entries with text keys**, put one after another, are those by name. -/
theorem ofEntries_eq (h : HasTextKeys entries) :
    ofEntries entries = .map (GraphQL.byName keyText entries) := by
  have hfold : ∀ {acc : List (Scalar × Value)}, HasTextKeys acc →
      entries.foldl (fun acc entry => put entry.1 entry.2 acc) acc =
        entries.foldl (fun acc entry => GraphQL.putNamed keyText entry acc) acc := by
    induction entries with
    | nil => exact fun _ => rfl
    | cons entry rest ih =>
      intro acc hacc
      obtain ⟨⟨s, hs⟩, hrest⟩ := List.forall_mem_cons.mp h
      obtain ⟨k, v⟩ := entry
      obtain rfl : k = .str s := hs
      rw [List.foldl_cons, List.foldl_cons]
      dsimp only
      rw [put_eq hacc]
      refine ih hrest fun entry hentry => ?_
      rcases GraphQL.mem_of_mem_putNamed hentry with rfl | hentry
      · exact ⟨s, rfl⟩
      · exact hacc entry hentry
  exact congrArg map (hfold (by simp [HasTextKeys]))

/-- Distinct text keys are all kept. -/
theorem ofEntries_of_nodup (h : HasTextKeys entries) (hnodup : (entries.map keyText).Nodup) :
    ofEntries entries = .map entries := by
  rw [ofEntries_eq h, GraphQL.byName_of_nodup hnodup]

/-! ### Trees -/

/-- **A tree** whose scalars have a property. -/
inductive Tree (P : Scalar → Prop) : Value → Prop where
  /-- A scalar with the property. -/
  | scalar {s} : P s → Tree P (.scalar s)
  /-- A sequence of trees. -/
  | list {items} : (∀ item ∈ items, Tree P item) → Tree P (.list items)
  /-- A mapping from distinct texts to trees. -/
  | map {entries : List (Scalar × Value)} : HasTextKeys entries → (entries.map keyText).Nodup →
      (∀ entry ∈ entries, Tree P entry.2) → Tree P (.map entries)

variable {P Q : Scalar → Prop} {v : Value}

theorem tree_scalar_iff {s : Scalar} : (scalar s).Tree P ↔ P s := by
  refine ⟨fun h => ?_, .scalar⟩
  cases h with
  | scalar h => exact h

theorem tree_list_iff {items : List Value} : (list items).Tree P ↔ ∀ item ∈ items, item.Tree P := by
  refine ⟨fun h => ?_, .list⟩
  cases h with
  | list h => exact h

/-- A mapping from distinct texts is a tree if its values are. -/
theorem tree_map_iff (hkeys : HasTextKeys entries) (hnodup : (entries.map keyText).Nodup) :
    (map entries).Tree P ↔ ∀ entry ∈ entries, entry.2.Tree P := by
  refine ⟨fun h => ?_, .map hkeys hnodup⟩
  cases h with
  | map _ _ h => exact h

theorem Tree.mono (h : v.Tree P) (hPQ : ∀ s, P s → Q s) : v.Tree Q := by
  induction h with
  | scalar h => exact .scalar (hPQ _ h)
  | list _ ih => exact .list ih
  | map hkeys hnodup _ ih => exact .map hkeys hnodup ih

/-- **Entries with text keys** and trees under them make a tree. -/
theorem tree_ofEntries (hkeys : HasTextKeys entries) (h : ∀ entry ∈ entries, entry.2.Tree P) :
    (ofEntries entries).Tree P := by
  rw [ofEntries_eq hkeys]
  exact .map (fun entry hentry => hkeys entry (GraphQL.mem_of_mem_byName hentry))
    (GraphQL.nodup_byName _ _) fun entry hentry => h entry (GraphQL.mem_of_mem_byName hentry)

/-! ### The scalars of a value -/

mutual

/-- **The scalars of a value**, first to last. Keys are none of them, and no reference is followed.
-/
def scalars : Value → List Scalar
  | .scalar s => [s]
  | .list items => scalarsOfItems items
  | .map entries => scalarsOfEntries entries
  | .set members => members
  | .pair first second => first.scalars ++ second.scalars
  | .shared _ => []

/-- The scalars of some items. -/
def scalarsOfItems : List Value → List Scalar
  | [] => []
  | item :: rest => item.scalars ++ scalarsOfItems rest

/-- The scalars of some entries. -/
def scalarsOfEntries : List (Scalar × Value) → List Scalar
  | [] => []
  | (_, value) :: rest => value.scalars ++ scalarsOfEntries rest

end

theorem scalarsOfItems_eq (items : List Value) : scalarsOfItems items = items.flatMap scalars := by
  induction items with
  | nil => rw [scalarsOfItems, List.flatMap_nil]
  | cons item rest ih => rw [scalarsOfItems, List.flatMap_cons, ih]

theorem scalarsOfEntries_eq (entries : List (Scalar × Value)) :
    scalarsOfEntries entries = entries.flatMap fun entry => entry.2.scalars := by
  induction entries with
  | nil => rw [scalarsOfEntries, List.flatMap_nil]
  | cons entry rest ih => rw [scalarsOfEntries, List.flatMap_cons, ih]

/-- **A tree is one for a property** exactly if its scalars have it. -/
theorem Tree.iff_scalars (h : v.Tree P) : v.Tree Q ↔ ∀ s ∈ v.scalars, Q s := by
  induction h with
  | scalar _ => rw [tree_scalar_iff, scalars, List.forall_mem_singleton]
  | list _ ih =>
    rw [tree_list_iff, scalars, scalarsOfItems_eq, List.forall_mem_flatMap]
    exact forall₂_congr ih
  | map hkeys hnodup _ ih =>
    rw [tree_map_iff hkeys hnodup, scalars, scalarsOfEntries_eq, List.forall_mem_flatMap]
    exact forall₂_congr ih

end Value

end OperationCatalog
