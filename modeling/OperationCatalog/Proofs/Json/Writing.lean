import OperationCatalog.Json.Writer
import OperationCatalog.Proofs.Log
import OperationCatalog.Proofs.Value

/-!
# Which trees are written

A tree has a JSON text exactly if each of its scalars has one
(`OperationCatalog.Json.exists_writeValue_iff`): its keys are texts, which are always written, and
there is nothing shared that could contain itself. In the compact layout, which writes what has no
notation as its text, that is every tree of plain scalars
(`OperationCatalog.Json.exists_compactText`).
-/

namespace OperationCatalog

/-- **A value that is a tree**, whose scalars have a property, and shares nothing. -/
structure ValueGraph.IsTree (P : Scalar → Prop) (g : ValueGraph) : Prop where
  /-- Nothing is shared. -/
  nodes : g.nodes = #[]
  /-- The value is a tree. -/
  root : g.root.Tree P

namespace ValueGraph

variable {P Q : Scalar → Prop} {g : ValueGraph}

theorem isTree_ofTree {v : Value} (h : v.Tree P) : (ofTree v).IsTree P := ⟨rfl, h⟩

theorem IsTree.iff_root (h : g.IsTree P) : g.IsTree Q ↔ g.root.Tree Q :=
  ⟨fun hQ => hQ.root, fun hQ => ⟨h.nodes, hQ⟩⟩

/-- **A value that is a tree** is one for a property exactly if its scalars have it. -/
theorem IsTree.iff_scalars (h : g.IsTree P) : g.IsTree Q ↔ ∀ s ∈ g.root.scalars, Q s :=
  h.iff_root.trans h.root.iff_scalars

end ValueGraph

namespace Json

/-- **A scalar that is written** in a layout. -/
def Writable (layout : Layout) (s : Scalar) : Prop := ∃ text, writeScalar layout s = .ok text

variable {layout : Layout} {enter : Nat → Nat → Except WriteFault (List Char)} {P : Scalar → Prop}
  {v : Value} {level : Nat}

/-! ### Parts of collections -/

theorem writeItems_eq_mapM (items : List Value) :
    writeItems layout enter level items = items.mapM (writeValue layout enter level) := by
  induction items with
  | nil => rw [writeItems, List.mapM_nil]; rfl
  | cons item rest ih => rw [writeItems, List.mapM_cons, ih]

/-- The text of an entry whose key is a text. -/
def writeEntry (layout : Layout) (enter : Nat → Nat → Except WriteFault (List Char)) (level : Nat)
    (entry : Scalar × Value) : Except WriteFault (List Char) :=
  (writeValue layout enter level entry.2).map fun part =>
    writeText layout.asciiOnly (Value.keyText entry).toList ++ layout.keySeparator.toList ++ part

theorem writeEntries_eq_mapM {entries : List (Scalar × Value)} (h : Value.HasTextKeys entries) :
    writeEntries layout enter level entries = entries.mapM (writeEntry layout enter level) := by
  induction entries with
  | nil => rw [writeEntries, List.mapM_nil]; rfl
  | cons entry rest ih =>
    obtain ⟨⟨s, hs⟩, hrest⟩ := List.forall_mem_cons.mp h
    obtain ⟨key, value⟩ := entry
    obtain rfl : key = .str s := hs
    rw [writeEntries, List.mapM_cons, ih hrest, writeEntry]
    cases writeValue layout enter level value <;> rfl

/-! ### Trees -/

/-- **A tree is written exactly if its scalars are.** -/
theorem exists_writeValue_iff (h : v.Tree P) (level : Nat) :
    (∃ text, writeValue layout enter level v = .ok text) ↔ v.Tree (Writable layout) := by
  induction h generalizing level with
  | scalar _ => rw [writeValue, Value.tree_scalar_iff, Writable]
  | list _ ih =>
    rw [writeValue, exists_bind_pure_iff, writeItems_eq_mapM, exists_mapM_iff, Value.tree_list_iff]
    exact forall₂_congr fun item hitem => ih item hitem (level + 1)
  | map hkeys hnodup _ ih =>
    rw [writeValue, exists_bind_pure_iff, writeEntries_eq_mapM hkeys, exists_mapM_iff,
      Value.tree_map_iff hkeys hnodup]
    exact forall₂_congr fun entry hentry => exists_map_iff.trans (ih entry hentry (level + 1))

/-! ### Scalars of a layout -/

/-- Every plain scalar is written in the compact layout. -/
theorem writable_compact {s : Scalar} (h : s.Plain) : Writable .compact s := by
  unfold Writable writeScalar
  cases s with
  | int i =>
    have hi : Decimal.isWritable i = true := h
    exact ⟨_, by simp [Layout.compact, scalarText, writeInt, hi, Except.map]; rfl⟩
  | bytes _ | date _ | instant _ => exact h.elim
  | null | bool _ | float _ | str _ | constant _ => exact ⟨_, rfl⟩

/-- **A tree of plain scalars** has a compact text. -/
theorem exists_compactText {g : ValueGraph} (h : g.IsTree Scalar.Plain) :
    ∃ text, compactText g = .ok text := by
  obtain ⟨s, hs⟩ := (exists_writeValue_iff h.root 0).mpr (h.root.mono fun _ => writable_compact)
  exact ⟨String.ofList s, map_eq_ok_iff.mpr ⟨s, hs, rfl⟩⟩

end Json

end OperationCatalog
