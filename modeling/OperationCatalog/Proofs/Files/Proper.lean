import OperationCatalog.Proofs.Files.Addition

/-!
# Trees as there are

In a tree of files the entries of a directory have names that differ, and each is a name that can be
followed: it has no slash and no character that no path has, it says something, and it does not lead
out (`OperationCatalog.FileTree.Proper`). So the files that are listed below a directory are the
files that stand below it (`OperationCatalog.FileTree.Proper.mem_filesIn_iff`), and a place is
followed as it is written.
-/

namespace OperationCatalog

namespace FileTree

open Workspace (Leading)

/-! ### Files that are listed -/

mutual

/-- The places of the files of a tree are the same below every path. -/
theorem filesIn_eq_map (path : List String) : ∀ t : FileTree,
    filesIn path t = (filesIn [] t).map (path ++ ·)
  | .file _ => by simp [filesIn]
  | .dir entries => by rw [filesIn, filesIn, filesInEntries_eq_map path entries]

theorem filesInEntries_eq_map (path : List String) : ∀ entries : List (String × FileTree),
    filesInEntries path entries = (filesInEntries [] entries).map (path ++ ·)
  | [] => by simp [filesInEntries]
  | (name, t) :: rest => by
    rw [filesInEntries, filesInEntries, filesInEntries_eq_map path rest, List.map_append,
      filesIn_eq_map (path ++ [name]) t, filesIn_eq_map ([] ++ [name]) t, List.map_map]
    simp [Function.comp_def]

end

theorem mem_filesIn_dir_iff {entries : List (String × FileTree)} {parts : List String} :
    parts ∈ filesIn [] (.dir entries) ↔
      ∃ name u rest, (name, u) ∈ entries ∧ rest ∈ filesIn [] u ∧ parts = name :: rest := by
  rw [filesIn, filesInEntries_eq, List.mem_flatMap]
  constructor
  · rintro ⟨⟨name, u⟩, hmem, hparts⟩
    rw [filesIn_eq_map] at hparts
    obtain ⟨rest, hrest, rfl⟩ := List.mem_map.mp hparts
    exact ⟨name, u, rest, hmem, hrest, rfl⟩
  · rintro ⟨name, u, rest, hmem, hrest, rfl⟩
    refine ⟨(name, u), hmem, ?_⟩
    rw [filesIn_eq_map]
    exact List.mem_map.mpr ⟨rest, hrest, rfl⟩

theorem mem_of_lookup {entries : List (String × FileTree)} {name : String} {u : FileTree}
    (h : entries.lookup name = some u) : (name, u) ∈ entries := by
  obtain ⟨before, after, rfl, -⟩ := List.lookup_eq_some_iff.mp h
  simp

/-- The files of what stands at a place are files of the tree. -/
theorem mem_filesIn_of_at? {t u : FileTree} {place parts : List String}
    (hu : t.at? place = some u) (hparts : parts ∈ filesIn [] u) :
    place ++ parts ∈ filesIn [] t := by
  induction place generalizing t with
  | nil =>
    obtain rfl := Option.some.inj hu
    exact hparts
  | cons name names ih =>
    cases t with
    | file content => simp [at?_cons, entries] at hu
    | dir inner =>
      rw [at?_cons, entries_dir] at hu
      obtain ⟨v, hv, hu⟩ := Option.bind_eq_some_iff.mp hu
      exact mem_filesIn_dir_iff.mpr ⟨name, v, names ++ parts, mem_of_lookup hv, ih hu, rfl⟩

/-! ### Proper trees -/

/-- **A name that a file can have**: it is followed as it is, and no character in it is one that no
path has. -/
structure IsName (name : String) : Prop where
  /-- It is followed as it is. -/
  leading : Leading name
  /-- It has no character that no path has. -/
  writable : '\x00' ∉ name.toList

instance (name : String) : Decidable (IsName name) :=
  decidable_of_iff ((¬Path.IsIdle name ∧ '/' ∉ name.toList ∧ name ≠ ".." ∧
      name.utf8ByteSize ≤ Workspace.maxNameSize) ∧ '\x00' ∉ name.toList)
    ⟨fun ⟨⟨busy, single, inwards, short⟩, writable⟩ => ⟨⟨busy, single, inwards, short⟩, writable⟩,
      fun h => ⟨⟨h.leading.busy, h.leading.single, h.leading.inwards, h.leading.short⟩,
        h.writable⟩⟩

/-- **A tree as there can be one**: what is in a directory has names, and they differ. -/
inductive Proper : FileTree → Prop where
  /-- A file. -/
  | file (content : ByteArray) : Proper (.file content)
  /-- A directory of proper trees. -/
  | dir {entries : List (String × FileTree)} (nodup : (entries.map (·.1)).Nodup)
      (names : ∀ entry ∈ entries, IsName entry.1) (inner : ∀ entry ∈ entries, Proper entry.2) :
      Proper (.dir entries)

theorem proper_dir_iff {entries : List (String × FileTree)} : Proper (.dir entries) ↔
    (entries.map (·.1)).Nodup ∧ (∀ entry ∈ entries, IsName entry.1) ∧
      ∀ entry ∈ entries, Proper entry.2 :=
  ⟨fun | .dir nodup names inner => ⟨nodup, names, inner⟩,
    fun ⟨nodup, names, inner⟩ => .dir nodup names inner⟩

mutual

/-- Whether a tree is proper can be computed. -/
def decideProper : (t : FileTree) → Decidable t.Proper
  | .file content => .isTrue (.file content)
  | .dir entries =>
    have := decideInner entries
    decidable_of_iff _ proper_dir_iff.symm

/-- Whether all entries are proper. -/
def decideInner : (entries : List (String × FileTree)) →
    Decidable (∀ entry ∈ entries, Proper entry.2)
  | [] => .isTrue nofun
  | (_, t) :: rest =>
    have := decideProper t
    have := decideInner rest
    decidable_of_iff _ List.forall_mem_cons.symm

end

instance (t : FileTree) : Decidable t.Proper := decideProper t

namespace Proper

variable {t u : FileTree} {place parts names : List String}

theorem lookup_eq_some_iff {entries : List (String × FileTree)} {name : String}
    (h : Proper (.dir entries)) : entries.lookup name = some u ↔ (name, u) ∈ entries := by
  refine ⟨mem_of_lookup, fun hmem => ?_⟩
  obtain ⟨before, after, rfl⟩ := List.append_of_mem hmem
  have hnodup := (proper_dir_iff.mp h).1
  refine List.lookup_eq_some_iff.mpr ⟨before, after, rfl, fun entry hentry => ?_⟩
  rw [bne_iff_ne]
  rintro rfl
  rw [List.map_append, List.nodup_append] at hnodup
  exact hnodup.2.2 _ (List.mem_map_of_mem hentry) _ List.mem_cons_self rfl

/-- **What stands at a place of a proper tree** is proper, and the place is made of names. -/
theorem at? (h : t.Proper) (hu : t.at? place = some u) :
    u.Proper ∧ ∀ name ∈ place, IsName name := by
  induction h generalizing place with
  | file content =>
    cases place with
    | nil =>
      obtain rfl := Option.some.inj hu
      exact ⟨.file content, nofun⟩
    | cons name names => simp [at?_cons, entries] at hu
  | @dir inner nodup hnames hinner ih =>
    cases place with
    | nil =>
      obtain rfl := Option.some.inj hu
      exact ⟨.dir nodup hnames hinner, nofun⟩
    | cons name names =>
      rw [at?_cons, entries_dir] at hu
      obtain ⟨v, hv, hu⟩ := Option.bind_eq_some_iff.mp hu
      have hmem := mem_of_lookup hv
      obtain ⟨hproper, hrest⟩ := ih _ hmem hu
      exact ⟨hproper, List.forall_mem_cons.mpr ⟨hnames _ hmem, hrest⟩⟩

theorem isName (h : t.Proper) (hplace : t.node? place ≠ none) : ∀ name ∈ place, IsName name := by
  obtain ⟨n, hn⟩ := Option.ne_none_iff_exists'.mp hplace
  obtain ⟨u, hu, -⟩ := Option.map_eq_some_iff.mp hn
  exact (h.at? hu).2

/-- **The files that are listed** are those that stand somewhere. -/
theorem mem_filesIn_iff (h : t.Proper) :
    parts ∈ filesIn [] t ↔ ∃ content, t.node? parts = some (.file content) := by
  constructor
  · intro hparts
    induction h generalizing parts with
    | file content =>
      rw [filesIn, List.mem_singleton] at hparts
      exact ⟨content, by rw [hparts]; rfl⟩
    | @dir inner nodup hnames hinner ih =>
      obtain ⟨name, u, rest, hmem, hrest, rfl⟩ := mem_filesIn_dir_iff.mp hparts
      obtain ⟨content, hcontent⟩ := ih _ hmem hrest
      have hlookup := (Proper.dir nodup hnames hinner).lookup_eq_some_iff.mpr hmem
      refine ⟨content, ?_⟩
      rwa [node?, at?_cons, entries_dir, hlookup]
  · rintro ⟨content, hcontent⟩
    obtain ⟨u, hu, hnode⟩ := Option.map_eq_some_iff.mp hcontent
    cases u with
    | file other =>
      have hself : [] ∈ filesIn [] (.file other) := by simp [filesIn]
      simpa using mem_filesIn_of_at? hu hself
    | dir inner => simp [node] at hnode

end Proper

end FileTree

namespace Workspace

/-- **A workspace as there can be one**: its tree is proper, and the current directory is there. -/
structure Proper (w : Workspace) : Prop where
  /-- What is in its directories has names, and they differ. -/
  tree : w.root.Proper
  /-- The current directory is one. -/
  directory : w.node? w.current = some .directory

instance (w : Workspace) : Decidable w.Proper :=
  decidable_of_iff (w.root.Proper ∧ w.node? w.current = some .directory)
    ⟨fun ⟨tree, directory⟩ => ⟨tree, directory⟩, fun h => ⟨h.tree, h.directory⟩⟩

theorem plain_of_isName {place : List String} (h : ∀ name ∈ place, FileTree.IsName name) :
    Path.Plain ⟨"", place⟩ :=
  ⟨.inl rfl, fun name hname => (h name hname).leading.busy,
    fun name hname => (h name hname).leading.single⟩

/-- **The current directory** of a proper workspace is where its path leads. -/
theorem Proper.sound {w : Workspace} (h : w.Proper) : w.Sound := by
  have hthere : w.node? w.current ≠ none := by rw [h.directory]; simp
  have hcurrent := h.tree.isName hthere
  have hreaches : w.current.foldlM w.step [] = .ok ([] ++ w.current) :=
    walk_names (fun name hname => (hcurrent name hname).leading) hthere
  refine ⟨⟨.inr (.inl rfl), (plain_of_isName hcurrent).busy, (plain_of_isName hcurrent).single⟩,
    hreaches, h.directory, fun place hplace => ?_⟩
  obtain ⟨content, hcontent⟩ := h.tree.mem_filesIn_iff.mp hplace
  exact plain_of_isName (h.tree.isName (by rw [hcontent]; simp))

end Workspace

end OperationCatalog
