import OperationCatalog.Proofs.Files.Path
import OperationCatalog.Proofs.Files.Tree
import OperationCatalog.Proofs.Log

/-!
# Following paths

A text is followed component by component, and each of them leads from a directory to something
(`OperationCatalog.Workspace.step_eq_ok_iff`). What says nothing can be left out, so where a text
leads is where the components of its path lead (`OperationCatalog.Workspace.reaches_of_locate`), and
a path is followed from where another one leads (`OperationCatalog.Workspace.Reaches.join_iff`). A
file ends every way.
-/

namespace OperationCatalog.Workspace

open FileTree (Node)

/-- What stands at a place of the files of a run. -/
def node? (w : Workspace) (place : List String) : Option Node := w.root.node? place

variable {w : Workspace} {p q : Path} {here next place : List String} {part text : String}

/-! ### Following components -/

/-- Where the components of a text are followed from. -/
def start (w : Workspace) (text : String) : List String :=
  if text.startsWith "/" then [] else w.current

theorem locate_eq_ok_iff : w.locate text = .ok place ↔
    '\x00' ∉ text.toList ∧ text ≠ "" ∧ text.utf8ByteSize ≤ maxPathSize ∧
      (Path.components text).foldlM w.step (w.start text) = .ok place := by
  unfold locate start
  split
  · rename_i h
    simp [List.contains_iff_mem.mp h]
  · rename_i hnul
    split
    · rename_i h
      simp [beq_iff_eq.mp h]
    · rename_i hempty
      split
      · rename_i h
        simp [Nat.not_le_of_lt h]
      · rename_i hsize
        simp only [List.contains_iff_mem] at hnul
        simp only [beq_iff_eq] at hempty
        simp [hnul, hempty, Nat.not_lt.mp hsize]

/-- **One component** is followed from a directory: it says nothing, leads out, or names what is
there. -/
theorem step_eq_ok_iff : w.step here part = .ok next ↔ w.node? here = some .directory ∧
    (Path.IsIdle part ∧ next = here ∨ part = ".." ∧ next = here.dropLast ∨
      ¬Path.IsIdle part ∧ part ≠ ".." ∧ part.utf8ByteSize ≤ maxNameSize ∧
        next = here ++ [part] ∧ w.node? next ≠ none) := by
  have hinner : ∀ entries, w.root.at? here = some (.dir entries) →
      ((entries.lookup part).isSome = true ↔ w.node? (here ++ [part]) ≠ none) := by
    intro entries h
    rw [node?, FileTree.node?, FileTree.at?_append, h, Option.bind_some, FileTree.at?_cons,
      FileTree.entries_dir]
    cases entries.lookup part <;> simp [FileTree.at?_nil]
  unfold step
  rcases hhere : w.root.at? here with _ | content | entries
  · simp [node?, FileTree.node?, hhere]
  · simp [node?, FileTree.node?, hhere, FileTree.node]
  · have hdir : w.node? here = some .directory := by simp [node?, FileTree.node?, hhere, FileTree.node]
    replace hinner := hinner entries hhere
    simp only [hdir, true_and]
    by_cases hidle : Path.IsIdle part
    · have hcheck : (part == "" || part == ".") = true := by simpa [Path.IsIdle] using hidle
      have hdots : part ≠ ".." := by rintro rfl; simp [Path.IsIdle] at hidle
      simp [hcheck, hidle, hdots, eq_comm]
    · have hcheck : (part == "" || part == ".") = false := by simpa [Path.IsIdle] using hidle
      simp only [hcheck, Bool.false_eq_true, if_false, hidle, false_and, not_false_eq_true,
        true_and, false_or]
      by_cases hdots : part = ".."
      · simp [hdots, eq_comm]
      · simp only [beq_iff_eq, hdots, if_false, false_and, ne_eq, not_false_eq_true, true_and,
          false_or]
        by_cases hsize : maxNameSize < part.utf8ByteSize
        · simp [hsize, Nat.not_le_of_lt hsize]
        · simp only [hsize, if_false, Nat.not_lt.mp hsize, true_and]
          by_cases hthere : (entries.lookup part).isSome = true
          · simp only [hthere, if_true, Except.ok.injEq]
            exact ⟨fun h => ⟨h.symm, h ▸ hinner.mp hthere⟩, fun h => h.1.symm⟩
          · simp only [hthere, Bool.false_eq_true, if_false, reduceCtorEq, false_iff, not_and]
            rintro rfl
            simpa using mt hinner.mpr hthere

theorem step_idle (h : w.node? here = some .directory) (hidle : Path.IsIdle part) :
    w.step here part = .ok here :=
  step_eq_ok_iff.mpr ⟨h, Or.inl ⟨hidle, rfl⟩⟩

theorem walk_idle (h : w.node? here = some .directory) {parts : List String}
    (hidle : ∀ part ∈ parts, Path.IsIdle part) : parts.foldlM w.step here = .ok here := by
  induction parts with
  | nil => rfl
  | cons part parts ih =>
    obtain ⟨hfirst, hrest⟩ := List.forall_mem_cons.mp hidle
    rw [List.foldlM_cons, step_idle h hfirst, ok_bind, ih hrest]

/-- Components are followed from a directory. -/
theorem isDirectory_of_walk {parts : List String} (hne : parts ≠ [])
    (h : parts.foldlM w.step here = .ok place) : w.node? here = some .directory := by
  obtain ⟨part, parts, rfl⟩ := List.exists_cons_of_ne_nil hne
  rw [List.foldlM_cons] at h
  obtain ⟨next, hnext, -⟩ := bind_eq_ok_iff.mp h
  exact (step_eq_ok_iff.mp hnext).1

/-- **The components of a plain path are followed one by one**, if there is one or more. -/
theorem walk_text (hp : p.Plain) (h : w.node? (w.start p.text) = some .directory) :
    (Path.components p.text).foldlM w.step (w.start p.text) =
      p.parts.foldlM w.step (w.start p.text) := by
  obtain ⟨idle, hidle, hcomponents⟩ := Path.components_text hp
  rw [hcomponents, List.foldlM_append, walk_idle h hidle, ok_bind]

theorem lookup_of_locate (h : w.locate text = .ok place) :
    w.lookup text = match w.root.at? place with
      | some t => .ok t
      | none => .error .notFound := by
  rw [lookup, h]
  rfl

theorem lookup_eq_ok_iff {t : FileTree} :
    w.lookup text = .ok t ↔ ∃ place, w.locate text = .ok place ∧ w.root.at? place = some t := by
  rcases hlocate : w.locate text with fault | place
  · simp [lookup, hlocate, Except.bind]
  · rw [lookup_of_locate hlocate]
    rcases hat : w.root.at? place with _ | u <;> simp [hat]

theorem contains_iff : w.contains text = true ↔ ∃ t, w.lookup text = .ok t := by
  unfold contains
  split <;> simp_all

theorem isFile_iff : w.isFile text = true ↔
    ∃ place content, w.locate text = .ok place ∧ w.node? place = some (.file content) := by
  have hlookup : w.isFile text = true ↔ ∃ content, w.lookup text = .ok (.file content) := by
    unfold isFile
    split <;> simp_all
  have hnode : ∀ place content,
      w.node? place = some (.file content) ↔ w.root.at? place = some (.file content) := by
    intro place content
    unfold node? FileTree.node?
    rcases w.root.at? place with _ | _ | _ <;> simp [FileTree.node]
  simp only [hlookup, lookup_eq_ok_iff, hnode]
  exact exists_comm

theorem isDir_iff : w.isDir text = true ↔
    ∃ place, w.locate text = .ok place ∧ w.node? place = some .directory := by
  have hlookup : w.isDir text = true ↔ ∃ entries, w.lookup text = .ok (.dir entries) := by
    unfold isDir
    split <;> simp_all
  simp only [hlookup, lookup_eq_ok_iff, node?, FileTree.node?_eq_directory_iff]
  exact ⟨fun ⟨entries, place, hplace, hat⟩ => ⟨place, hplace, entries, hat⟩,
    fun ⟨place, hplace, entries, hat⟩ => ⟨entries, place, hplace, hat⟩⟩

/-- What something is below is a directory. -/
theorem isDirectory_of_inner {name : String} {names : List String}
    (h : w.node? (here ++ name :: names) ≠ none) : w.node? here = some .directory := by
  rw [node?, FileTree.node?, FileTree.at?_append] at h
  rw [node?, FileTree.node?]
  rcases hhere : w.root.at? here with _ | content | entries
  · simp [hhere] at h
  · simp [hhere, FileTree.at?_cons, FileTree.entries] at h
  · rfl

/-- Where the components of a path are followed from. -/
def origin (w : Workspace) (p : Path) : List String := if p.isAbsolute then [] else w.current

/-- **The components of a path lead to a place**, however long its text is. -/
def Reaches (w : Workspace) (p : Path) (place : List String) : Prop :=
  p.parts.foldlM w.step (w.origin p) = .ok place

instance (w : Workspace) (p : Path) (place : List String) : Decidable (w.Reaches p place) :=
  inferInstanceAs (Decidable (p.parts.foldlM w.step (w.origin p) = .ok place))

theorem Reaches.unique (h : w.Reaches p place) (h' : w.Reaches p next) : place = next :=
  Except.ok.inj (h.symm.trans h')

/-- **A path is followed from where another one leads.** -/
theorem Reaches.join_iff (h : w.Reaches p here) (hq : q.isAbsolute = false) :
    w.Reaches (p.join q) place ↔ q.parts.foldlM w.step here = .ok place := by
  have horigin : w.origin (p.join q) = w.origin p := by
    rw [Path.join, hq, if_neg (by simp)]
    rfl
  have hparts : (p.join q).parts = p.parts ++ q.parts := by
    rw [Path.join, hq, if_neg (by simp)]
  rw [Reaches, horigin, hparts, List.foldlM_append, show _ = _ from h, ok_bind]

/-- **A name that is followed as it is**: it says something, leads inwards, and is not too long. -/
structure Leading (name : String) : Prop where
  /-- It says something. -/
  busy : ¬Path.IsIdle name
  /-- It has no slash. -/
  single : '/' ∉ name.toList
  /-- It does not lead out. -/
  inwards : name ≠ ".."
  /-- It is not too long. -/
  short : name.utf8ByteSize ≤ maxNameSize

/-- **Names lead to what stands below a directory.** -/
theorem walk_names {names : List String} (h : ∀ name ∈ names, Leading name)
    (hthere : w.node? (here ++ names) ≠ none) : names.foldlM w.step here = .ok (here ++ names) := by
  induction names generalizing here with
  | nil => rw [List.append_nil]; rfl
  | cons name names ih =>
    obtain ⟨hname, hnames⟩ := List.forall_mem_cons.mp h
    have hnext : w.node? (here ++ [name] ++ names) ≠ none := by
      rwa [List.append_assoc, List.singleton_append]
    have hstep : w.step here name = .ok (here ++ [name]) := by
      refine step_eq_ok_iff.mpr ⟨isDirectory_of_inner hthere, Or.inr (Or.inr
        ⟨hname.busy, hname.inwards, hname.short, rfl, ?_⟩)⟩
      rcases names with _ | ⟨second, names⟩
      · rwa [List.append_nil] at hnext
      · rw [isDirectory_of_inner hnext]
        simp
    rw [List.foldlM_cons, hstep, ok_bind, ih hnames hnext, List.append_assoc,
      List.singleton_append]

theorem isFile_of_readText {path : Path} {read : String} (h : w.readText path = .ok read) :
    w.isFile path.text = true := by
  unfold readText readRaw at h
  unfold isFile
  rcases hlookup : w.lookup path.text with fault | _ | entries
  · simp [hlookup, Except.bind, Except.map] at h
  · rfl
  · simp [hlookup, Except.bind, Except.map] at h

/-- **A workspace as there can be one**: the path of the current directory leads to a directory, and
no file has a slash in its name, or a name that says nothing. -/
structure Sound (w : Workspace) : Prop where
  /-- The path of the current directory is made of names. -/
  plain : w.currentPath.Plain
  /-- The path of the current directory leads there. -/
  current : w.Reaches w.currentPath w.current
  /-- The current directory is one. -/
  directory : w.node? w.current = some .directory
  /-- The path of each file is made of names. -/
  names : ∀ place ∈ FileTree.filesIn [] w.root, Path.Plain ⟨"", place⟩

instance (w : Workspace) : Decidable w.Sound :=
  decidable_of_iff (w.currentPath.Plain ∧ w.Reaches w.currentPath w.current ∧
    w.node? w.current = some .directory ∧
    ∀ place ∈ FileTree.filesIn [] w.root, Path.Plain ⟨"", place⟩)
    ⟨fun ⟨plain, current, directory, names⟩ => ⟨plain, current, directory, names⟩,
      fun h => ⟨h.plain, h.current, h.directory, h.names⟩⟩

end OperationCatalog.Workspace
