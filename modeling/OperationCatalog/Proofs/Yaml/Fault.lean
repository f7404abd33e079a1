import OperationCatalog.Proofs.Yaml.Composing
import OperationCatalog.Yaml.Graph

/-!
# Why a YAML text is not read

A YAML text that is not read is no document, with few exceptions. One is a text that is misspelled.
The others are texts that are documents, but a scalar in them does not keep what its tag promises:
by its tag it is a number, a truth value or a timestamp, and by its text it is none
(`OperationCatalog.Yaml.broken_of_read`).

The value is built of nodes that change meanwhile, because mappings are merged. They only change in
what the entries of mappings are, and in that default keys become keys like any other
(`OperationCatalog.Yaml.Varies`). So what is broken in the nodes as they are then was broken before.
-/

namespace OperationCatalog.Yaml

/-- Whether a node is a mapping. -/
def Content.isMapping : Content → Bool
  | .mapping _ => true
  | _ => false

variable {nodes nodes' : Nodes} {index : Nat} {fault : Fault}

/-! ### Nodes that change -/

/-- **How a node may change**: a mapping may get other entries, and a default key become a text. -/
structure Node.Varies (node node' : Node) : Prop where
  /-- Only a default key gets another tag. -/
  tag : node'.tag = node.tag ∨ node.tag = .default ∧ node'.tag = .str
  /-- Only mappings are made of something else. -/
  content : node'.content = node.content ∨ node.content.isMapping ∧ node'.content.isMapping

theorem Node.Varies.refl (node : Node) : node.Varies node := ⟨Or.inl rfl, Or.inl rfl⟩

theorem Node.Varies.trans {a b c : Node} (hab : a.Varies b) (hbc : b.Varies c) : a.Varies c where
  tag := by
    rcases hab.tag with hab | ⟨ha, hb⟩
    · rw [← hab]
      exact hbc.tag
    · rcases hbc.tag with hbc | ⟨hb', -⟩
      · exact Or.inr ⟨ha, hbc.trans hb⟩
      · simp [hb] at hb'
  content := by
    rcases hab.content with hab | ⟨ha, hb⟩
    · rw [← hab]
      exact hbc.content
    · rcases hbc.content with hbc | ⟨-, hc⟩
      · exact Or.inr ⟨ha, hbc ▸ hb⟩
      · exact Or.inr ⟨ha, hc⟩

/-- **Nodes as they become** while a value is built of them. -/
def Varies (nodes nodes' : Nodes) : Prop :=
  ∀ index, (nodeAt nodes index).Varies (nodeAt nodes' index)

theorem Varies.refl (nodes : Nodes) : Varies nodes nodes := fun _ => .refl _

theorem Varies.trans {a b c : Nodes} (hab : Varies a b) (hbc : Varies b c) : Varies a c :=
  fun index => (hab index).trans (hbc index)

theorem Content.isMapping_iff {content : Content} :
    content.isMapping ↔ ∃ entries, content = .mapping entries := by
  cases content <;> simp [isMapping]

theorem Varies.isMapping_iff (h : Varies nodes nodes') (index : Nat) :
    (nodeAt nodes' index).content.isMapping ↔ (nodeAt nodes index).content.isMapping := by
  rcases (h index).content with h | ⟨h, h'⟩
  · rw [h]
  · exact iff_of_true h' h

theorem Varies.mapping {entries : List (Nat × Nat)} (h : Varies nodes nodes')
    (hindex : (nodeAt nodes' index).content = .mapping entries) :
    ∃ entries', (nodeAt nodes index).content = .mapping entries' :=
  Content.isMapping_iff.mp ((h.isMapping_iff index).mp (Content.isMapping_iff.mpr ⟨_, hindex⟩))

theorem Varies.scalar {text : String} (h : Varies nodes nodes')
    (hindex : (nodeAt nodes' index).content = .scalar text) :
    (nodeAt nodes index).content = .scalar text := by
  rcases (h index).content with h | ⟨-, h⟩
  · rw [← h, hindex]
  · simp [hindex, Content.isMapping] at h

/-- What is not a text by its tag was not one before. -/
theorem Varies.tag {tag : Tag} (h : Varies nodes nodes') (hindex : (nodeAt nodes' index).tag = tag)
    (hne : tag ≠ .str) : (nodeAt nodes index).tag = tag := by
  rcases (h index).tag with h | ⟨-, h⟩
  · rw [← h, hindex]
  · exact absurd (hindex.symm.trans h) hne

/-- What means nothing under a tag meant nothing before: any text is a text. -/
theorem Varies.readScalar {text : String} (h : Varies nodes nodes')
    (hread : readScalar (nodeAt nodes' index).tag text = .error fault) :
    readScalar (nodeAt nodes index).tag text = .error fault := by
  rcases (h index).tag with h | ⟨-, h⟩
  · rwa [← h]
  · simp [h, Yaml.readScalar] at hread

variable {ρ ρ' : Type} {left : ρ → Nodes} {left' : ρ' → Nodes}

/-- **What merging comes to**: nodes that vary, or the text is no document. -/
structure Merges (left : ρ → Nodes) (nodes : Nodes) (x : Except Fault ρ) : Prop where
  /-- The nodes vary. -/
  varies : ∀ r, x = .ok r → Varies nodes (left r)
  /-- The text is no document. -/
  fault : ∀ e, x = .error e → e = .malformed

theorem Merges.bind {x : Except Fault ρ} {f : ρ → Except Fault ρ'} (hx : Merges left nodes x)
    (hf : ∀ r, Varies nodes (left r) → Merges left' nodes (f r)) :
    Merges left' nodes (x >>= f) where
  varies r hr := by
    obtain ⟨s, hs, hr⟩ := bind_eq_ok_iff.mp hr
    exact (hf s (hx.varies s hs)).varies r hr
  fault e he := by
    rcases bind_eq_error_iff.mp he with he | ⟨s, hs, he⟩
    · exact hx.fault e he
    · exact (hf s (hx.varies s hs)).fault e he

end OperationCatalog.Yaml
