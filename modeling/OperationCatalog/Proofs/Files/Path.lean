import Mathlib.Data.List.Basic
import Mathlib.Data.List.TakeWhile
import OperationCatalog.Files.Path

/-!
# Texts of paths

A path is **plain** (`OperationCatalog.Path.Plain`) if its components are names, none of them empty
or a single dot, without a slash. Every path that a text writes is plain. What the text of a plain
path is split into are its components, after some that say nothing
(`OperationCatalog.Path.components_text`), so following the text of a path is following its
components.
-/

namespace OperationCatalog.Path

/-- Whether a component says nothing. -/
def IsIdle (part : String) : Prop := part = "" ∨ part = "."

instance (part : String) : Decidable (IsIdle part) :=
  inferInstanceAs (Decidable (part = "" ∨ part = "."))

/-- **A path that can be written**: each component is a name. -/
structure Plain (p : Path) : Prop where
  /-- It starts with no slash, with one, or with two. -/
  root : p.root = "" ∨ p.root = "/" ∨ p.root = "//"
  /-- No component says nothing. -/
  busy : ∀ part ∈ p.parts, ¬IsIdle part
  /-- No component has a slash. -/
  single : ∀ part ∈ p.parts, '/' ∉ part.toList

instance (p : Path) : Decidable p.Plain :=
  decidable_of_iff ((p.root = "" ∨ p.root = "/" ∨ p.root = "//") ∧
    (∀ part ∈ p.parts, ¬IsIdle part) ∧ ∀ part ∈ p.parts, '/' ∉ part.toList)
    ⟨fun ⟨root, busy, single⟩ => ⟨root, busy, single⟩, fun h => ⟨h.root, h.busy, h.single⟩⟩

variable {p : Path}

/-! ### Texts that write paths -/

theorem slash_notMem_of_mem_splitOn {text part : List Char} (h : part ∈ text.splitOn '/') :
    '/' ∉ part := by
  induction text generalizing part with
  | nil =>
    rw [List.splitOn_nil, List.mem_singleton] at h
    simp [h]
  | cons c rest ih =>
    rw [List.splitOn_cons_eq_if_modifyHead] at h
    split at h
    · rcases List.mem_cons.mp h with rfl | h
      · simp
      · exact ih h
    · rename_i hc
      rcases hrest : rest.splitOn '/' with _ | ⟨first, more⟩
      · exact absurd hrest (List.splitOn_ne_nil _ _)
      · rw [hrest] at h
        rcases List.mem_cons.mp h with rfl | h
        · have hfirst : '/' ∉ first := ih (by simp [hrest])
          exact fun hmem => (List.mem_cons.mp hmem).elim (fun he => hc (beq_iff_eq.mpr he.symm)) hfirst
        · exact ih (by simp [hrest, h])

theorem plain_ofString (text : String) : (ofString text).Plain := by
  refine ⟨?_, fun part hpart => ?_, fun part hpart => ?_⟩
  · unfold ofString rootOf
    dsimp only
    split <;> simp
  · have hkept := (List.mem_filter.mp hpart).2
    simpa [IsIdle] using hkept
  · obtain ⟨chars, hchars, rfl⟩ := List.mem_map.mp (List.mem_filter.mp hpart).1
    simpa using slash_notMem_of_mem_splitOn hchars

/-- A path with only some of the components of a plain one is plain. -/
theorem Plain.of_subset (h : p.Plain) {parts : List String} (hsub : parts ⊆ p.parts) :
    Plain ⟨p.root, parts⟩ :=
  ⟨h.root, fun part hpart => h.busy part (hsub hpart), fun part hpart => h.single part (hsub hpart)⟩

theorem Plain.parent (h : p.Plain) : p.parent.Plain := h.of_subset (List.dropLast_subset _)

/-! ### The last component -/

theorem components_intercalate {parts : List String} (h : ∀ part ∈ parts, '/' ∉ part.toList)
    (hne : parts ≠ []) : components ("/".intercalate parts) = parts := by
  have hsplit : (['/'].intercalate (parts.map String.toList)).splitOn '/' =
      parts.map String.toList :=
    List.splitOn_intercalate '/' (by simpa using h) (by simpa using hne)
  have hslash : ("/" : String).toList = ['/'] := rfl
  rw [components, String.toList_intercalate, hslash, hsplit, List.map_map]
  exact List.map_id'' (fun part => String.ofList_toList) parts

theorem components_slash (text : String) : components ("/" ++ text) = "" :: components text := by
  unfold components
  rw [String.toList_append]
  change (('/' :: text.toList).splitOn '/').map String.ofList = _
  rw [List.splitOn_cons_eq_if_modifyHead]
  rfl

/-- **The text of a plain path is split into its components**, after some that say nothing. -/
theorem components_text (h : p.Plain) :
    ∃ idle, (∀ part ∈ idle, IsIdle part) ∧ components p.text = idle ++ p.parts := by
  obtain ⟨root, parts⟩ := p
  obtain ⟨hroot, -, hsingle⟩ := h
  have hslashes : ("//" : String) = "/" ++ "/" := rfl
  rcases eq_or_ne parts [] with rfl | hne
  · rcases hroot with rfl | rfl | rfl
    · exact ⟨["."], by simp [IsIdle], rfl⟩
    · exact ⟨["", ""], by simp [IsIdle], rfl⟩
    · exact ⟨["", "", ""], by simp [IsIdle], rfl⟩
  · have htext : text ⟨root, parts⟩ = root ++ "/".intercalate parts := by simp [text, hne]
    have hparts := components_intercalate hsingle hne
    rw [htext]
    rcases hroot with rfl | rfl | rfl
    · exact ⟨[], by simp, by rw [String.empty_append, hparts]; rfl⟩
    · exact ⟨[""], by simp [IsIdle], by rw [components_slash, hparts]; rfl⟩
    · refine ⟨["", ""], by simp [IsIdle], ?_⟩
      rw [hslashes, String.append_assoc, components_slash, components_slash, hparts]
      rfl

/-- A character of a text that is no slash is one of a component. -/
theorem mem_toList_iff {s : String} {c : Char} (hc : c ≠ '/') :
    c ∈ s.toList ↔ ∃ part ∈ components s, c ∈ part.toList := by
  have hparts : ∀ text : List Char, c ∈ text ↔ ∃ part ∈ text.splitOn '/', c ∈ part := by
    intro text
    induction text with
    | nil => simp
    | cons d text ih =>
      rw [List.splitOn_cons_eq_if_modifyHead, List.mem_cons]
      split
      · rename_i hd
        rw [List.exists_mem_cons_iff, ← ih, beq_iff_eq.mp hd]
        simp [hc]
      · obtain ⟨first, more, hmore⟩ := List.exists_cons_of_ne_nil (List.splitOn_ne_nil '/' text)
        rw [hmore, List.exists_mem_cons_iff] at ih
        rw [hmore, List.modifyHead_cons, List.exists_mem_cons_iff, ih, List.mem_cons, or_assoc]
  rw [hparts, components]
  simp

/-- A text of a plain path has a character that no path has only if a component has it. -/
theorem exists_part_of_nul_mem (h : p.Plain) (hnul : '\x00' ∈ p.text.toList) :
    ∃ part ∈ p.parts, '\x00' ∈ part.toList := by
  obtain ⟨idle, hidle, hcomponents⟩ := components_text h
  obtain ⟨part, hpart, hmem⟩ := (mem_toList_iff (by decide)).mp hnul
  rw [hcomponents] at hpart
  refine ⟨part, (List.mem_append.mp hpart).resolve_left fun hfirst => ?_, hmem⟩
  rcases hidle part hfirst with rfl | rfl <;> exact absurd hmem (by decide)

theorem nul_mem_of_part (h : p.Plain) {part : String} (hpart : part ∈ p.parts)
    (hnul : '\x00' ∈ part.toList) : '\x00' ∈ p.text.toList := by
  obtain ⟨idle, -, hcomponents⟩ := components_text h
  refine (mem_toList_iff (by decide)).mpr ⟨part, ?_, hnul⟩
  rw [hcomponents]
  exact List.mem_append_right _ hpart

theorem text_ne_empty (h : p.Plain) : p.text ≠ "" := by
  intro hempty
  obtain ⟨idle, -, hcomponents⟩ := components_text h
  rw [hempty] at hcomponents
  rcases eq_or_ne p.parts [] with hparts | hne
  · obtain ⟨root, parts⟩ := p
    obtain rfl : parts = [] := hparts
    rcases h.root with rfl | rfl | rfl <;> exact absurd hempty (by decide)
  · obtain ⟨part, hpart⟩ := List.exists_mem_of_ne_nil _ hne
    have hmem : part ∈ components "" := by rw [hcomponents]; exact List.mem_append_right _ hpart
    exact h.busy part hpart (Or.inl (List.mem_singleton.mp hmem))

theorem components_ne_nil (text : String) : components text ≠ [] := by
  simp [components]

/-! ### Reading texts -/

/-- The components that count are those that say something. -/
theorem busy_iff {part : String} : (part != "" && part != ".") = true ↔ ¬IsIdle part := by
  simp [IsIdle]

theorem rootOf_cons {c : Char} (hc : c ≠ '/') (rest : List Char) : rootOf (c :: rest) = "" := by
  simp [rootOf, hc]

theorem rootOf_slash_cons {c : Char} (hc : c ≠ '/') (rest : List Char) :
    rootOf ('/' :: c :: rest) = "/" := by
  simp [rootOf, hc]

theorem rootOf_slashes_cons {c : Char} (hc : c ≠ '/') (rest : List Char) :
    rootOf ('/' :: '/' :: c :: rest) = "//" := by
  simp [rootOf, hc]

/-- A text writes a path from the root exactly if it starts with a slash. -/
theorem isAbsolute_ofString (text : String) : (ofString text).isAbsolute = text.startsWith "/" := by
  rw [Bool.eq_iff_iff, String.startsWith_string_iff]
  change (rootOf text.toList != "") = true ↔ ['/'] <+: _
  rcases text.toList with _ | ⟨c, rest⟩
  · simp [rootOf]
  · by_cases hc : c = '/'
    · subst hc
      unfold rootOf
      split <;> simp_all
    · rw [rootOf_cons hc]
      simp [Ne.symm hc]

/-- The text of a path with components starts with its root, and then with no slash. -/
theorem exists_text_eq (h : p.Plain) (hne : p.parts ≠ []) :
    ∃ c rest, c ≠ '/' ∧ p.text.toList = p.root.toList ++ c :: rest := by
  obtain ⟨root, parts⟩ := p
  obtain ⟨-, hbusy, hsingle⟩ := h
  rcases parts with _ | ⟨first, parts⟩
  · exact absurd rfl hne
  have hfirst : first.toList ≠ [] := fun he =>
    hbusy first List.mem_cons_self (Or.inl (String.toList_eq_nil_iff.mp he))
  obtain ⟨c, more, hchars⟩ := List.exists_cons_of_ne_nil hfirst
  have hc : c ≠ '/' := fun he =>
    hsingle first List.mem_cons_self (by rw [hchars, he]; exact List.mem_cons_self)
  cases parts with
  | nil => exact ⟨c, more, hc, by simp [text, hchars]⟩
  | cons second parts =>
    refine ⟨c, more ++ '/' :: ['/'].intercalate ((second :: parts).map String.toList), hc, ?_⟩
    simp [text, String.toList_intercalate, hchars]

theorem rootOf_text (h : p.Plain) : rootOf p.text.toList = p.root := by
  rcases eq_or_ne p.parts [] with hparts | hne
  · obtain ⟨root, parts⟩ := p
    obtain rfl : parts = [] := hparts
    rcases h.root with rfl | rfl | rfl <;> rfl
  · obtain ⟨c, rest, hc, htext⟩ := exists_text_eq h hne
    rw [htext]
    rcases h.root with hroot | hroot | hroot <;> rw [hroot]
    · exact rootOf_cons hc rest
    · exact rootOf_slash_cons hc rest
    · exact rootOf_slashes_cons hc rest

/-- **The text of a plain path writes the path.** -/
theorem ofString_text (h : p.Plain) : ofString p.text = p := by
  obtain ⟨idle, hidle, hcomponents⟩ := components_text h
  have hnone : idle.filter (fun part => part != "" && part != ".") = [] := by
    refine List.filter_eq_nil_iff.mpr fun part hpart => ?_
    rw [busy_iff, not_not]
    exact hidle part hpart
  have hall : p.parts.filter (fun part => part != "" && part != ".") = p.parts :=
    List.filter_eq_self.mpr fun part hpart => busy_iff.mpr (h.busy part hpart)
  rw [ofString, rootOf_text h, hcomponents, List.filter_append, hnone, hall, List.nil_append]

/-- The text of a plain path starts with a slash exactly if the path starts at the root. -/
theorem startsWith_text (h : p.Plain) : p.text.startsWith "/" = p.isAbsolute := by
  rw [← isAbsolute_ofString, ofString_text h]

/-- A name writes the path with this one component. -/
theorem ofString_name {name : String} (hbusy : ¬IsIdle name) (hsingle : '/' ∉ name.toList) :
    ofString name = ⟨"", [name]⟩ := by
  have hplain : Plain ⟨"", [name]⟩ :=
    ⟨Or.inl rfl, by simpa using hbusy, by simpa using hsingle⟩
  have htext : text ⟨"", [name]⟩ = name := by simp [text]
  rw [← ofString_text hplain, htext]

/-- What is split at a slash is split on both sides of it. -/
theorem components_append (before after : String) :
    components (before ++ "/" ++ after) = components before ++ components after := by
  have hslash : ("/" : String).toList = ['/'] := rfl
  unfold components
  rw [String.toList_append, String.toList_append, hslash, List.append_assoc, List.singleton_append,
    ← List.map_append]
  exact congrArg _ (List.splitOnP_append_cons _ _ (by simp))

/-! ### Joining -/

/-- How a text starts is how its first slashes do. -/
theorem rootOf_takeWhile (text : List Char) :
    rootOf (text.takeWhile (· == '/')) = rootOf text := by
  rcases text with _ | ⟨a, _ | ⟨b, _ | ⟨c, rest⟩⟩⟩
  · rfl
  · by_cases ha : a = '/' <;> simp [rootOf, ha]
  · by_cases ha : a = '/' <;> by_cases hb : b = '/' <;> simp [rootOf, ha, hb]
  · by_cases ha : a = '/' <;> by_cases hb : b = '/' <;> by_cases hc : c = '/' <;>
      simp [rootOf, ha, hb, hc]

/-- A text that follows changes nothing about how a text starts, unless there are only slashes before
it and it starts with one. -/
theorem rootOf_append {before after : List Char}
    (h : (∀ c ∈ before, c = '/') → after.head? ≠ some '/') :
    rootOf (before ++ after) = rootOf before := by
  rw [← rootOf_takeWhile (before ++ after), ← rootOf_takeWhile before, List.takeWhile_append]
  split
  · rename_i hlength
    have hall : before.takeWhile (· == '/') = before :=
      (List.takeWhile_prefix _).eq_of_length hlength
    have hstart := h fun c hc => by
      rw [← hall] at hc
      simpa using List.mem_takeWhile_imp hc
    have hnone : after.takeWhile (· == '/') = [] := by
      rcases after with _ | ⟨c, more⟩
      · rfl
      · exact List.takeWhile_cons_of_neg (by simpa using hstart)
    rw [hall, hnone, List.append_nil]
  · rfl

@[simp] theorem ofString_empty : ofString "" = ⟨"", []⟩ := rfl

/-- A path joined to the one without root and components is itself. -/
theorem nowhere_join (p : Path) : (⟨"", []⟩ : Path).join p = p := by
  obtain ⟨root, parts⟩ := p
  unfold join isAbsolute
  by_cases hroot : root = ""
  · simp [hroot]
  · simp [hroot]

@[simp] theorem join_nowhere (p : Path) : p.join ⟨"", []⟩ = p := by
  simp [join, isAbsolute]

theorem Plain.join {q : Path} (hp : p.Plain) (hq : q.Plain) : (p.join q).Plain := by
  unfold Path.join
  split
  · exact hq
  · exact ⟨hp.root, List.forall_mem_append.mpr ⟨hp.busy, hq.busy⟩,
      List.forall_mem_append.mpr ⟨hp.single, hq.single⟩⟩

/-- The path of a text that goes on after a slash, and not with another one. -/
theorem ofString_append {before after : String} (h : after.startsWith "/" = false) :
    ofString (before ++ "/" ++ after) = (ofString (before ++ "/")).join (.ofString after) := by
  have hrelative : (ofString after).isAbsolute = false := by rw [isAbsolute_ofString, h]
  have hhead : after.toList.head? ≠ some '/' := by
    rw [Bool.eq_false_iff, ne_eq, String.startsWith_string_iff] at h
    change ¬['/'] <+: _ at h
    rcases hafter : after.toList with _ | ⟨c, rest⟩
    · simp
    · simpa [hafter, eq_comm] using h
  rw [join, hrelative, if_neg (by simp)]
  unfold ofString
  rw [String.toList_append, rootOf_append fun _ => hhead, components_append]
  have hlast : components (before ++ "/") = components before ++ [""] := by
    rw [← String.append_empty (s := before ++ "/"), components_append]
    rfl
  rw [hlast, List.filter_append, List.filter_append]
  simp

/-- A slash at the end of a text says nothing, unless there are only slashes. -/
theorem ofString_append_slash {text : String} {c : Char} (hc : c ∈ text.toList) (hslash : c ≠ '/') :
    ofString (text ++ "/") = ofString text := by
  unfold ofString
  rw [String.toList_append, rootOf_append fun hall => absurd (hall c hc) hslash,
    ← String.append_empty (s := text ++ "/"), components_append, List.filter_append]
  have hnone : (components "").filter (fun part => part != "" && part != ".") = [] := rfl
  rw [hnone, List.append_nil]

theorem join_assoc (p q r : Path) : (p.join q).join r = p.join (q.join r) := by
  unfold join
  by_cases hr : r.isAbsolute
  · simp [hr]
  · by_cases hq : q.isAbsolute
    · simp only [hq, hr, if_true, Bool.false_eq_true, if_false]
      rw [if_pos]
      exact hq
    · simp only [hq, hr, Bool.false_eq_true, if_false]
      rw [if_neg]
      · simp
      · exact hq

end OperationCatalog.Path
