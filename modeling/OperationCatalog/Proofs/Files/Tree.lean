import Mathlib
import OperationCatalog.Files.Tree

/-!
# Places of a tree

What stands at a place of a tree is a file with its content, or a directory
(`OperationCatalog.FileTree.Node`). A tree is changed at one place at a time, and
`OperationCatalog.FileTree.node?_put_of_ne` says that nothing else is: a file or an empty directory
that is put where no directory was, into a directory that was there, leaves what stands at every
other place as it was.
-/

namespace OperationCatalog.FileTree

/-- What stands at a place. -/
inductive Node where
  /-- A file. -/
  | file (content : ByteArray)
  /-- A directory. -/
  | directory
  deriving DecidableEq

/-- What a tree is at its root. -/
def node : FileTree → Node
  | file content => .file content
  | dir _ => .directory

/-- **What stands at a place** of a tree. -/
def node? (t : FileTree) (place : List String) : Option Node := (t.at? place).map node

variable {t new : FileTree} {name : String} {place other : List String}

/-! ### Entries -/

theorem lookup_putEntry (name other : String) (t : FileTree) (entries : List (String × FileTree)) :
    (putEntry name t entries).lookup other =
      if other == name then some t else entries.lookup other := by
  induction entries with
  | nil =>
    simp only [putEntry, List.lookup_cons, List.lookup_nil]
    cases other == name <;> rfl
  | cons entry rest ih =>
    obtain ⟨n, u⟩ := entry
    by_cases hn : n = name
    · subst hn
      simp only [putEntry, beq_self_eq_true, if_true, List.lookup_cons]
      cases other == n <;> rfl
    · by_cases ho : other = n
      · subst ho
        simp [putEntry, hn]
      · have hne : (other == n) = false := by simpa using ho
        have hput : (n == name) = false := by simpa using hn
        simp only [putEntry, hput, Bool.false_eq_true, if_false, List.lookup_cons, hne, ih]

theorem putEntry_putEntry (name : String) (t u : FileTree) (entries : List (String × FileTree)) :
    putEntry name t (putEntry name u entries) = putEntry name t entries := by
  induction entries with
  | nil => simp [putEntry]
  | cons entry rest ih =>
    obtain ⟨n, v⟩ := entry
    by_cases hn : n = name
    · simp [putEntry, hn]
    · simp [putEntry, hn, ih]

/-! ### Places -/

theorem at?_nil (t : FileTree) : t.at? [] = some t := rfl

theorem at?_cons (t : FileTree) (name : String) (names : List String) :
    t.at? (name :: names) = (t.entries.lookup name).bind (at? names) := rfl

theorem at?_append (t : FileTree) (names more : List String) :
    t.at? (names ++ more) = (t.at? names).bind (at? more) := by
  induction names generalizing t with
  | nil => rfl
  | cons name names ih =>
    rw [List.cons_append, at?_cons, at?_cons]
    cases t.entries.lookup name with
    | none => rfl
    | some u => exact ih u

@[simp] theorem entries_dir (inner : List (String × FileTree)) : (dir inner).entries = inner := rfl

theorem entries_put (new t : FileTree) (name : String) (names : List String) :
    (put new (name :: names) t).entries =
      putEntry name (put new names ((t.entries.lookup name).getD (dir []))) t.entries := rfl

/-- Nothing is inside of what has no entries. -/
theorem at?_of_entries_eq_nil (h : t.entries = []) (hne : place ≠ []) : t.at? place = none := by
  cases place with
  | nil => exact absurd rfl hne
  | cons name names => rw [at?_cons, h]; rfl

/-- **On the way to what is put**, it is put into what stands there. -/
theorem at?_put_append (new t : FileTree) (place more : List String) :
    (put new (place ++ more) t).at? place = some (put new more ((t.at? place).getD (dir []))) := by
  induction place generalizing t with
  | nil => rfl
  | cons name names ih =>
    rw [List.cons_append, at?_cons, entries_put, lookup_putEntry, beq_self_eq_true, if_pos rfl,
      Option.bind_some, ih, at?_cons]
    rcases t.entries.lookup name with _ | u
    · cases names <;> rfl
    · rfl

/-- What is put at a place stands there. -/
@[simp] theorem at?_put_self (new t : FileTree) (place : List String) :
    (put new place t).at? place = some new := by
  simpa only [List.append_nil, put] using at?_put_append new t place []

/-- Of two that are put at one place, the second one stays. -/
theorem put_put (new old t : FileTree) (place : List String) :
    put new place (put old place t) = put new place t := by
  induction place generalizing t with
  | nil => rfl
  | cons name names ih =>
    rw [put, entries_put, lookup_putEntry, beq_self_eq_true, if_pos rfl, Option.getD_some, ih,
      putEntry_putEntry]
    rfl

/-- **A place can take a file or a directory**: the directory around it is there, and it is no
directory itself. -/
structure Takes (t : FileTree) (place : List String) : Prop where
  /-- Each place on the way is a directory. -/
  way : ∀ around, around <+: place → around ≠ place → t.node? around = some .directory
  /-- The place is none. -/
  free : t.node? place ≠ some .directory

theorem node?_eq_directory_iff :
    t.node? place = some .directory ↔ ∃ entries, t.at? place = some (.dir entries) := by
  unfold node?
  rcases t.at? place with _ | _ | _ <;> simp [node]

theorem entries_of_node?_nil_ne (h : t.node? [] ≠ some .directory) : t.entries = [] := by
  cases t with
  | file content => rfl
  | dir entries => exact absurd rfl h

/-- What stands on the way can take the rest of the way. -/
theorem Takes.inner {u : FileTree} {more : List String} (h : t.Takes (place ++ more))
    (hu : t.at? place = some u) : u.Takes more := by
  have hinner : ∀ rest, u.node? rest = t.node? (place ++ rest) := fun rest => by
    rw [node?, node?, at?_append, hu, Option.bind_some]
  refine ⟨fun around hbefore hne => ?_, fun hdir => h.free ?_⟩
  · rw [hinner]
    exact h.way _ ((List.prefix_append_right_inj place).mpr hbefore)
      fun he => hne (List.append_cancel_left he)
  · rwa [← hinner]

theorem Takes.tail {u : FileTree} {names : List String} (h : t.Takes (name :: names))
    (hu : t.entries.lookup name = some u) : u.Takes names :=
  (show t.Takes ([name] ++ names) from h).inner (by rw [at?_cons, hu]; rfl)

/-- A way on which nothing is is one component long. -/
theorem Takes.eq_nil {names : List String} (h : t.Takes (name :: names))
    (hnone : t.entries.lookup name = none) : names = [] := by
  rcases names with _ | ⟨second, names⟩
  · rfl
  · have hway := h.way [name] (by simp) (by simp)
    simp [node?, at?_cons, hnone] at hway

/-- **Off the way to what is put**, everything is as it was. -/
theorem at?_put_of_not_before (h : t.Takes place) (hnew : new.entries = [])
    (hoff : ¬other <+: place) : (put new place t).at? other = t.at? other := by
  induction place generalizing t other with
  | nil =>
    have hne : other ≠ [] := by rintro rfl; exact hoff (List.prefix_refl _)
    rw [put, at?_of_entries_eq_nil hnew hne,
      at?_of_entries_eq_nil (entries_of_node?_nil_ne h.free) hne]
  | cons name names ih =>
    cases other with
    | nil => exact absurd (List.nil_prefix) hoff
    | cons first rest =>
      rw [at?_cons, at?_cons, entries_put, lookup_putEntry]
      by_cases hfirst : first = name
      · subst hfirst
        have hrest : ¬rest <+: names := fun hbefore =>
          hoff (List.cons_prefix_cons.mpr ⟨rfl, hbefore⟩)
        rw [beq_self_eq_true, if_pos rfl, Option.bind_some]
        rcases hu : t.entries.lookup first with _ | u
        · obtain rfl := h.eq_nil hu
          have hne : rest ≠ [] := by rintro rfl; exact hrest (List.prefix_refl _)
          rw [put, at?_of_entries_eq_nil hnew hne]
          rfl
        · exact ih (h.tail hu) hrest
      · rw [if_neg (by simpa using hfirst)]

/-- **Nothing else is changed** where a file or an empty directory is put at a place that can take
it. -/
theorem node?_put_of_ne (h : t.Takes place) (hnew : new.entries = []) (hne : other ≠ place) :
    (put new place t).node? other = t.node? other := by
  by_cases hbefore : other <+: place
  · -- what is on the way was a directory, and it is one
    have hway := h.way other hbefore hne
    obtain ⟨rest, rfl⟩ := hbefore
    obtain ⟨name, names, rfl⟩ := List.exists_cons_of_ne_nil
      (show rest ≠ [] by rintro rfl; simp at hne)
    rw [hway, node?, at?_put_append]
    rfl
  · rw [node?, node?, at?_put_of_not_before h hnew hbefore]

end OperationCatalog.FileTree
