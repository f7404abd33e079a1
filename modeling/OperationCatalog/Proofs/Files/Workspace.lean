import OperationCatalog.Proofs.Files.Walk

/-!
# What changes when files are written

A path that is followed only sees which places are files and which are directories. So where a path
led once it still leads after files and directories were added, or files got another content
(`OperationCatalog.Workspace.Keeps.locate`).

A run writes in two ways. It puts a file at the place that a path leads to, and before that it makes
the directories that the path is in. Either way what is put stands where the path leads afterwards,
and nothing else is changed: see `OperationCatalog.Workspace.Written` and
`OperationCatalog.Workspace.Grown`.
-/

namespace OperationCatalog.Workspace

variable {w w' w'' : Workspace} {p : Path} {here next place other : List String} {part text : String}

/-! ### What stays when something is added -/

/-- **What stands somewhere stands there afterwards**, a file as a file and a directory as a
directory. -/
structure Keeps (w w' : Workspace) : Prop where
  /-- The current directory stays. -/
  current : w'.current = w.current
  /-- What stands somewhere stays of its kind. -/
  kind : ∀ place n, w.node? place = some n →
    ∃ n', w'.node? place = some n' ∧ (n' = .directory ↔ n = .directory)

theorem Keeps.refl (w : Workspace) : w.Keeps w := ⟨rfl, fun _ n h => ⟨n, h, Iff.rfl⟩⟩

theorem Keeps.trans (h : w.Keeps w') (h' : w'.Keeps w'') : w.Keeps w'' := by
  refine ⟨h'.current.trans h.current, fun place n hn => ?_⟩
  obtain ⟨n', hn', hkind⟩ := h.kind place n hn
  obtain ⟨n'', hn'', hkind'⟩ := h'.kind place n' hn'
  exact ⟨n'', hn'', hkind'.trans hkind⟩

theorem Keeps.isDirectory (h : w.Keeps w') (hdir : w.node? place = some .directory) :
    w'.node? place = some .directory := by
  obtain ⟨n, hn, hkind⟩ := h.kind place _ hdir
  rw [hn, hkind.mpr rfl]

theorem Keeps.step (h : w.Keeps w') (hstep : w.step here part = .ok next) :
    w'.step here part = .ok next := by
  obtain ⟨hhere, hcase⟩ := step_eq_ok_iff.mp hstep
  refine step_eq_ok_iff.mpr ⟨h.isDirectory hhere, ?_⟩
  rcases hcase with hidle | hdots | ⟨hbusy, hdots, hsize, hnext, hthere⟩
  · exact Or.inl hidle
  · exact Or.inr (Or.inl hdots)
  · obtain ⟨n, hn⟩ := Option.ne_none_iff_exists'.mp hthere
    obtain ⟨n', hn', -⟩ := h.kind next n hn
    exact Or.inr (Or.inr ⟨hbusy, hdots, hsize, hnext, by simp [hn']⟩)

theorem Keeps.walk (h : w.Keeps w') {parts : List String}
    (hwalk : parts.foldlM w.step here = .ok place) : parts.foldlM w'.step here = .ok place := by
  induction parts generalizing here with
  | nil => exact hwalk
  | cons part parts ih =>
    rw [List.foldlM_cons] at hwalk ⊢
    obtain ⟨next, hnext, hrest⟩ := bind_eq_ok_iff.mp hwalk
    rw [h.step hnext, ok_bind, ih hrest]

/-- **Where a text led it still leads.** -/
theorem Keeps.locate (h : w.Keeps w') (hlocate : w.locate text = .ok place) :
    w'.locate text = .ok place := by
  obtain ⟨hnul, hne, hsize, hwalk⟩ := locate_eq_ok_iff.mp hlocate
  have hstart : w'.start text = w.start text := by rw [start, start, h.current]
  exact locate_eq_ok_iff.mpr ⟨hnul, hne, hsize, hstart ▸ h.walk hwalk⟩

/-! ### Places that can be written -/

/-- **A path leads to a place that can be written**: to what is put there, too. -/
structure Leads (w : Workspace) (p : Path) (place : List String) : Prop where
  /-- The place can take a file or a directory. -/
  takes : w.root.Takes place
  /-- The path leads there as soon as something is there. -/
  arrives : ∀ w', w.Keeps w' → w'.node? place ≠ none → w'.locate p.text = .ok place

/-- The files after something was put at a place. -/
def putAt (w : Workspace) (place : List String) (new : FileTree) : Workspace :=
  { w with root := FileTree.put new place w.root }

theorem node?_putAt_self (w : Workspace) (place : List String) (new : FileTree) :
    (w.putAt place new).node? place = some new.node := by
  rw [node?, FileTree.node?, putAt, FileTree.at?_put_self]
  rfl

theorem node?_putAt_of_ne {new : FileTree} (h : w.root.Takes place) (hnew : new.entries = [])
    (hne : other ≠ place) : (w.putAt place new).node? other = w.node? other :=
  FileTree.node?_put_of_ne h hnew hne

/-- **Putting something keeps everything**, if it is put where nothing was, or a file where a file
was. -/
theorem keeps_putAt {new : FileTree} (h : w.root.Takes place) (hnew : new.entries = [])
    (hkind : w.node? place = none ∨ new.node ≠ .directory) : w.Keeps (w.putAt place new) := by
  refine ⟨rfl, fun other n hn => ?_⟩
  rcases eq_or_ne other place with rfl | hne
  · refine ⟨new.node, node?_putAt_self w other new, ?_⟩
    rcases hkind with hnone | hfile
    · simp [hnone] at hn
    · have hn' : n ≠ .directory := fun he => h.free (he ▸ hn)
      simp [hfile, hn']
  · exact ⟨n, (node?_putAt_of_ne h hnew hne).trans hn, Iff.rfl⟩

/-- **A file was written**: it stands where its path leads, and nothing else is changed. -/
structure Written (w w' : Workspace) (p : Path) (content : ByteArray) (place : List String) :
    Prop where
  /-- All that was there is kept. -/
  keeps : w.Keeps w'
  /-- The path leads to the file. -/
  found : w'.locate p.text = .ok place
  /-- The file has the content. -/
  node : w'.node? place = some (.file content)
  /-- What stands elsewhere is what stood there. -/
  others : ∀ other ≠ place, w'.node? other = w.node? other

theorem Leads.written (h : w.Leads p place) (content : ByteArray) :
    w.Written (w.putFile place content) p content place := by
  have hkeeps : w.Keeps (w.putFile place content) :=
    keeps_putAt h.takes rfl (Or.inr (by simp [FileTree.node]))
  have hnode : (w.putFile place content).node? place = some (.file content) :=
    node?_putAt_self w place (.file content)
  exact ⟨hkeeps, h.arrives _ hkeeps (by rw [hnode]; simp), hnode,
    fun other hne => node?_putAt_of_ne h.takes rfl hne⟩

/-- **A directory was made** where nothing was, on the way of a path: the path leads there with some
of its components. -/
structure Made (w w' : Workspace) (p : Path) (place : List String) : Prop where
  /-- Nothing was there. -/
  absent : w.node? place = none
  /-- A directory is there. -/
  present : w'.node? place = some .directory
  /-- The first components of the path lead there. -/
  leads : ∃ parts, parts <+: p.parts ∧ w'.locate (Path.text ⟨p.root, parts⟩) = .ok place

theorem Made.of_keeps (h : w.Made w' p place) (hkeeps : w'.Keeps w'') : w.Made w'' p place := by
  obtain ⟨parts, hparts, hleads⟩ := h.leads
  exact ⟨h.absent, hkeeps.isDirectory h.present, parts, hparts, hkeeps.locate hleads⟩

/-- **Directories on the way of a path were made**, and nothing else is changed. -/
structure Grown (w w' : Workspace) (p : Path) : Prop where
  /-- All that was there is kept. -/
  keeps : w.Keeps w'
  /-- What stands somewhere stood there, or it was made. -/
  node : ∀ place, w'.node? place = w.node? place ∨ w.Made w' p place

theorem Grown.refl (w : Workspace) (p : Path) : w.Grown w p := ⟨.refl w, fun _ => Or.inl rfl⟩

theorem Grown.trans (h : w.Grown w' p) (h' : w'.Grown w'' p) : w.Grown w'' p := by
  refine ⟨h.keeps.trans h'.keeps, fun place => ?_⟩
  rcases h.node place with hsame | hmade
  · rw [← hsame]
    refine (h'.node place).imp_right fun hmade => ?_
    exact ⟨hsame ▸ hmade.absent, hmade.present, hmade.leads⟩
  · exact Or.inr (hmade.of_keeps h'.keeps)

/-- **A file cannot be written**: a directory that its path needs cannot be made, or then the path
does not lead to a place for a file. -/
def Refuses (w : Workspace) (p : Path) (fault : FileFault) : Prop :=
  (w.makeParents p).2 = .error fault ∨ (w.makeParents p).1.target p = .error fault

end OperationCatalog.Workspace
