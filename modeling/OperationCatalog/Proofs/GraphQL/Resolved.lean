import OperationCatalog.Proofs.GraphQL.Files

/-!
# The files that paths stand for

Files and directories are given in some order, some of them twice, and one inside of another. The
files that they stand for are one list all the same: it ascends, and a list that ascends is
determined by its members (`OperationCatalog.Path.eq_of_mem_iff`). Its members are the given files
and those with a suffix of the language that stand somewhere below a given directory. A file stands
for itself, so the list stands for itself, too
(`OperationCatalog.GraphQL.filesOf_canonical`), and what is read from it is what is read from the
paths that were given.

A file can stand so deep that its path is longer than paths can be. Then it is not read, and the
list does not stand for it. If all files are read there is no such file.
-/

namespace OperationCatalog

/-! ### The order of paths -/

namespace Path

/-- **Components are compared** as lists are. -/
theorem leParts_iff {as bs : List String} : leParts as bs = true ↔ as ≤ bs := by
  suffices h : leParts as bs = true ↔ as = bs ∨ List.Lex (· < ·) as bs from
    h.trans le_iff_eq_or_lt.symm
  fun_induction leParts as bs with
  | case1 bs => cases bs <;> simp
  | case2 a as => simp
  | case3 as b bs ih =>
    simp only [ih, List.cons_lex_cons_iff, List.cons.injEq, true_and, lt_self_iff_false, false_or]
  | case4 a as b bs hne => simp [hne, List.cons_lex_cons_iff, lt_iff_le_and_ne]

/-- **A plain path is known by its components**, with the root as the first of them. -/
theorem allParts_injective {p q : Path} (hp : p.Plain) (hq : q.Plain)
    (h : p.allParts = q.allParts) : p = q := by
  obtain ⟨root, parts⟩ := p
  obtain ⟨root', parts'⟩ := q
  -- no component is the slashes that another path starts with
  have hroots : ∀ {root root' : String} {parts parts' : List String}, Plain ⟨root, parts⟩ →
      Plain ⟨root', parts'⟩ → root ≠ "" → root' = "" → root :: parts ≠ parts' := by
    rintro root root' parts parts' hp hq hne - rfl
    have hmem := hq.single root List.mem_cons_self
    rcases hp.root with rfl | rfl | rfl
    · exact hne rfl
    · exact hmem (by decide)
    · exact hmem (by decide)
  unfold allParts isAbsolute at h
  split at h <;> rename_i hroot <;> split at h <;> rename_i hroot'
  · simpa using h
  · exact absurd h (hroots hp hq (by simpa using hroot) (by simpa using hroot'))
  · exact absurd h.symm (hroots hq hp (by simpa using hroot') (by simpa using hroot))
  · simp_all

section Sorted

variable {paths paths' : List Path} {path : Path}

/-- **Sorted paths ascend**. -/
theorem pairwise_sorted (paths : List Path) :
    (sorted paths).Pairwise fun p q => p.allParts ≤ q.allParts := by
  refine (List.pairwise_mergeSort (fun p q r hpq hqr => ?_) (fun p q => ?_) _).imp leParts_iff.mp
  · exact leParts_iff.mpr ((leParts_iff.mp hpq).trans (leParts_iff.mp hqr))
  · rw [Bool.or_eq_true]
    exact (le_total p.allParts q.allParts).imp leParts_iff.mpr leParts_iff.mpr

theorem nodup_sorted (paths : List Path) : (sorted paths).Nodup :=
  (List.mergeSort_perm _ _).nodup_iff.mpr (GraphQL.Scope.nodup_eraseDups paths)

/-- **Sorted plain paths ascend**, and no two of them are the same. -/
theorem pairwise_lt_sorted (h : ∀ p ∈ paths, p.Plain) :
    (sorted paths).Pairwise fun p q => p.allParts < q.allParts := by
  refine ((pairwise_sorted paths).and (nodup_sorted paths)).imp_of_mem fun hp hq ⟨hle, hne⟩ => ?_
  refine lt_of_le_of_ne hle fun hsame => hne (allParts_injective (h _ ?_) (h _ ?_) hsame)
  · exact GraphQL.mem_sorted.mp hp
  · exact GraphQL.mem_sorted.mp hq

/-- **A list that ascends** is determined by its members. -/
theorem eq_of_mem_iff (h : paths.Pairwise fun p q => p.allParts < q.allParts)
    (h' : paths'.Pairwise fun p q => p.allParts < q.allParts)
    (hmem : ∀ p, p ∈ paths ↔ p ∈ paths') : paths = paths' := by
  have hnodup : ∀ paths : List Path, paths.Pairwise (fun p q => p.allParts < q.allParts) →
      paths.Nodup := fun _ h => h.imp fun hlt he => (he ▸ hlt).false
  refine List.Perm.eq_of_pairwise (fun p q _ _ hpq hqp => ?_) h h'
    ((List.perm_ext_iff_of_nodup (hnodup _ h) (hnodup _ h')).mpr hmem)
  exact absurd (hpq.trans hqp) (lt_irrefl _)

end Sorted

end Path

/-- **A plain path is followed** as its components are, if its text can be a path. -/
theorem Workspace.locate_text_iff {w : Workspace} {p : Path} (hp : p.Plain) {place : List String} :
    w.locate p.text = .ok place ↔ '\x00' ∉ p.text.toList ∧ p.text.utf8ByteSize ≤ maxPathSize ∧
      w.node? (w.origin p) = some .directory ∧ w.Reaches p place := by
  have hstart : w.start p.text = w.origin p := by
    rw [start, origin, Path.startsWith_text hp]
  rw [locate_eq_ok_iff, hstart, Reaches]
  refine and_congr_right fun _ => ?_
  simp only [Path.text_ne_empty hp, ne_eq, not_false_eq_true, true_and]
  refine and_congr_right fun _ => ?_
  constructor
  · intro hwalk
    have hdir := isDirectory_of_walk (Path.components_ne_nil _) hwalk
    rw [← hstart] at hwalk hdir ⊢
    rw [walk_text hp hdir] at hwalk
    exact ⟨hdir, hwalk⟩
  · rintro ⟨hdir, hreaches⟩
    rw [← hstart] at hdir hreaches ⊢
    rwa [walk_text hp hdir]

namespace GraphQL

variable {w : Workspace} {p path : Path} {paths : List Path}

/-! ### Files below a path -/

/-- **A file below a directory**: the path of the directory, and names that lead to a file. -/
def Below (w : Workspace) (p path : Path) : Prop :=
  ∃ place names content, w.locate p.text = .ok place ∧ w.node? place = some .directory ∧
    w.node? (place ++ names) = some (.file content) ∧ path = p.join ⟨"", names⟩

theorem Below.isDir (h : Below w p path) : w.isDir p.text = true := by
  obtain ⟨place, -, -, hlocate, hdir, -⟩ := h
  exact Workspace.isDir_iff.mpr ⟨place, hlocate, hdir⟩

theorem isFile_eq_false_of_isDir (h : w.isDir p.text = true) : w.isFile p.text = false := by
  obtain ⟨place, hlocate, hdir⟩ := Workspace.isDir_iff.mp h
  rw [Bool.eq_false_iff, ne_eq, Workspace.isFile_iff]
  rintro ⟨other, content, hother, hfile⟩
  obtain rfl := Except.ok.inj (hlocate.symm.trans hother)
  simp [hdir] at hfile

/-- **The files that are listed below a directory** are those that stand there. -/
theorem mem_filesBelow_iff (hw : w.Proper) (hdir : w.isDir p.text = true) :
    path ∈ w.filesBelow p ↔ Below w p path := by
  obtain ⟨place, hlocate, hplace⟩ := Workspace.isDir_iff.mp hdir
  obtain ⟨inner, hat⟩ := FileTree.node?_eq_directory_iff.mp hplace
  have hbelow : ∀ names, w.node? (place ++ names) = FileTree.node? (.dir inner) names := by
    intro names
    rw [Workspace.node?, FileTree.node?, FileTree.at?_append, hat]
    rfl
  rw [filesBelow_eq hdir,
    Workspace.listing_of_ok (Workspace.lookup_eq_ok_iff.mpr ⟨place, hlocate, hat⟩), pathsIn,
    FileTree.isDir, if_pos rfl, List.mem_map]
  simp only [(hw.tree.at? hat).1.mem_filesIn_iff, ← hbelow]
  constructor
  · rintro ⟨names, ⟨content, hfile⟩, rfl⟩
    exact ⟨place, names, content, hlocate, hplace, hfile, rfl⟩
  · rintro ⟨other, names, content, hother, -, hfile, rfl⟩
    obtain rfl := Except.ok.inj (hlocate.symm.trans hother)
    exact ⟨names, ⟨content, hfile⟩, rfl⟩

/-- **What one path stands for**: itself, or the files with a suffix of the language below it. -/
theorem mem_filesAt_iff (hw : w.Proper) : path ∈ filesAt w p ↔
    path = p ∧ w.isFile p.text = true ∨ Below w p path ∧ path.suffix ∈ fileSuffixes := by
  unfold filesAt
  split
  · rename_i hfile
    rw [List.mem_singleton]
    refine ⟨fun he => .inl ⟨he, hfile⟩, fun h => h.elim And.left fun ⟨hbelow, _⟩ => ?_⟩
    rw [isFile_eq_false_of_isDir hbelow.isDir] at hfile
    simp at hfile
  · rename_i hfile
    split
    · rename_i hdir
      rw [List.mem_filter, mem_filesBelow_iff hw hdir, List.contains_iff_mem]
      simp [hfile]
    · rename_i hdir
      refine iff_of_false List.not_mem_nil ?_
      rintro (⟨-, hsame⟩ | ⟨hbelow, -⟩)
      · exact hfile hsame
      · exact hdir hbelow.isDir

/-- **Which files paths stand for.** -/
theorem mem_filesOf_iff (hw : w.Proper) : path ∈ filesOf w paths ↔
    path ∈ paths ∧ w.isFile path.text = true ∨
      ∃ p ∈ paths, Below w p path ∧ path.suffix ∈ fileSuffixes := by
  simp only [mem_filesOf, mem_filesAt_iff hw, and_or_left, exists_or]
  refine or_congr_left ⟨?_, fun ⟨hmem, hfile⟩ => ⟨path, hmem, rfl, hfile⟩⟩
  rintro ⟨p, hmem, rfl, hfile⟩
  exact ⟨hmem, hfile⟩

/-! ### Files that are followed -/

/-- **A file below a directory is followed**, if its path is not too long. -/
theorem Below.isFile (hw : w.Proper) (hp : p.Plain) (h : Below w p path)
    (hsize : path.text.utf8ByteSize ≤ Workspace.maxPathSize) : w.isFile path.text = true := by
  obtain ⟨place, names, content, hlocate, -, hfile, rfl⟩ := h
  have hthere : w.node? (place ++ names) ≠ none := by simp [hfile]
  have hnames : ∀ name ∈ names, FileTree.IsName name := fun name hname =>
    hw.tree.isName hthere name (List.mem_append_right _ hname)
  have hpath : (p.join ⟨"", names⟩).Plain := hp.join (Workspace.plain_of_isName hnames)
  -- its components are those of the directory's path, which was followed, and names of files
  have hnul : '\x00' ∉ (p.join ⟨"", names⟩).text.toList := by
    intro hmem
    obtain ⟨part, hpart, hmem⟩ := Path.exists_part_of_nul_mem hpath hmem
    rcases List.mem_append.mp hpart with hpart | hpart
    · exact (Workspace.locate_eq_ok_iff.mp hlocate).1 (Path.nul_mem_of_part hp hpart hmem)
    · exact (hnames part hpart).writable hmem
  obtain ⟨-, -, hdir, hreaches⟩ := (Workspace.locate_text_iff hp).mp hlocate
  refine Workspace.isFile_iff.mpr ⟨place ++ names, content, ?_, hfile⟩
  refine (Workspace.locate_text_iff hpath).mpr ⟨hnul, hsize, ?_, ?_⟩
  · exact hdir
  · exact (hreaches.join_iff rfl).mpr
      (Workspace.walk_names (fun name hname => (hnames name hname).leading) hthere)

theorem size_of_isFile (h : w.isFile path.text = true) :
    path.text.utf8ByteSize ≤ Workspace.maxPathSize := by
  obtain ⟨place, -, hlocate, -⟩ := Workspace.isFile_iff.mp h
  exact (Workspace.locate_eq_ok_iff.mp hlocate).2.2.1

section Canonical

variable (hw : w.Proper) (hpaths : ∀ p ∈ paths, p.Plain)

include hw hpaths

theorem plain_of_mem_filesOf (h : path ∈ filesOf w paths) : path.Plain := by
  obtain ⟨p, hp, hpath⟩ := mem_filesOf.mp h
  exact plain_of_mem_filesAt hw.sound (hpaths p hp) hpath

/-- **The files ascend.** -/
theorem pairwise_filesOf :
    (filesOf w paths).Pairwise fun p q => p.allParts < q.allParts := by
  refine Path.pairwise_lt_sorted fun path hpath => ?_
  exact plain_of_mem_filesOf hw hpaths (mem_sorted.mpr hpath)

/-- A path for which others stand leads to a file, if it is not too long. -/
theorem isFile_iff_of_mem_filesOf (h : path ∈ filesOf w paths) :
    w.isFile path.text = true ↔ path.text.utf8ByteSize ≤ Workspace.maxPathSize := by
  refine ⟨size_of_isFile, fun hsize => ?_⟩
  rcases (mem_filesOf_iff hw).mp h with ⟨-, hfile⟩ | ⟨p, hp, hbelow, -⟩
  · exact hfile
  · exact hbelow.isFile hw (hpaths p hp) hsize

/-- **Files stand for themselves**, those whose paths are not too long. -/
theorem filesOf_filesOf : filesOf w (filesOf w paths) =
    (filesOf w paths).filter fun path => path.text.utf8ByteSize ≤ Workspace.maxPathSize := by
  have hplain : ∀ path ∈ filesOf w paths, path.Plain := fun _ => plain_of_mem_filesOf hw hpaths
  refine Path.eq_of_mem_iff (pairwise_filesOf hw hplain) ((pairwise_filesOf hw hpaths).filter _)
    fun path => ?_
  rw [mem_filesOf_iff hw, List.mem_filter, decide_eq_true_eq]
  constructor
  · rintro (⟨hmem, hfile⟩ | ⟨p, hp, hbelow, -⟩)
    · exact ⟨hmem, size_of_isFile hfile⟩
    · -- what is found is no directory
      obtain ⟨place, hlocate, -⟩ := Workspace.isDir_iff.mp hbelow.isDir
      have hfile := (isFile_iff_of_mem_filesOf hw hpaths hp).mpr
        (Workspace.locate_eq_ok_iff.mp hlocate).2.2.1
      rw [isFile_eq_false_of_isDir hbelow.isDir] at hfile
      simp at hfile
  · rintro ⟨hmem, hsize⟩
    exact .inl ⟨hmem, (isFile_iff_of_mem_filesOf hw hpaths hmem).mpr hsize⟩

end Canonical

/-! ### Main result -/

theorem size_of_readSource {source : Source} (h : readSource w path = .ok source) :
    path.text.utf8ByteSize ≤ Workspace.maxPathSize := by
  obtain ⟨text, htext, -⟩ := bind_eq_ok_iff.mp h
  exact size_of_isFile (Workspace.isFile_of_readText (mapError_eq_ok_iff.mp htext))

theorem exists_source_of_loadEach {documents : List Document}
    (h : (loadEach w paths).outcome = .ok documents) :
    ∀ path ∈ paths, ∃ source, readSource w path = .ok source := by
  induction paths generalizing documents with
  | nil => nofun
  | cons path rest ih =>
    rw [outcome_loadEach_cons] at h
    obtain ⟨source, hsource, h⟩ := bind_eq_ok_iff.mp h
    obtain ⟨more, hmore, -⟩ := bind_eq_ok_iff.mp h
    exact List.forall_mem_cons.mpr ⟨⟨source, hsource⟩, ih hmore⟩

/-- **The files that paths stand for** are one list, whatever the order of the paths. It ascends,
its members are the given files and those below the given directories that have a suffix of the
language, and it depends on nothing but which paths are given. If no path in it is too long the
list stands for itself, and what is read from it is what is read from the given paths; and none is
if the files are read. -/
theorem filesOf_canonical (w : Workspace) (hw : w.Proper) (paths : List Path)
    (hpaths : ∀ p ∈ paths, p.Plain) :
    ((filesOf w paths).Pairwise fun p q => p.allParts < q.allParts) ∧
    (∀ path, path ∈ filesOf w paths ↔ path ∈ paths ∧ w.isFile path.text = true ∨
      ∃ p ∈ paths, Below w p path ∧ path.suffix ∈ fileSuffixes) ∧
    (∀ others, (∀ p, p ∈ others ↔ p ∈ paths) → filesOf w others = filesOf w paths) ∧
    ((∀ path ∈ filesOf w paths, path.text.utf8ByteSize ≤ Workspace.maxPathSize) →
      filesOf w (filesOf w paths) = filesOf w paths ∧
        loadDocuments w (filesOf w paths) = loadDocuments w paths ∧
        schemaText w (filesOf w paths) = schemaText w paths) ∧
    ((∃ documents, (loadDocuments w paths).outcome = .ok documents) ∨
        (∃ text, schemaText w paths = .ok text) →
      ∀ path ∈ filesOf w paths, path.text.utf8ByteSize ≤ Workspace.maxPathSize) := by
  refine ⟨pairwise_filesOf hw hpaths, fun path => mem_filesOf_iff hw, fun others hothers => ?_,
    fun hsize => ?_, ?_⟩
  · have hplain : ∀ p ∈ others, p.Plain := fun p hp => hpaths p ((hothers p).mp hp)
    refine Path.eq_of_mem_iff (pairwise_filesOf hw hplain) (pairwise_filesOf hw hpaths)
      fun path => ?_
    simp only [mem_filesOf_iff hw, hothers]
  · have hsame : filesOf w (filesOf w paths) = filesOf w paths := by
      rw [filesOf_filesOf hw hpaths]
      exact List.filter_eq_self.mpr fun path hpath => decide_eq_true (hsize path hpath)
    refine ⟨hsame, ?_, ?_⟩
    · rw [loadDocuments, loadDocuments, hsame]
    · rw [schemaText, schemaText, hsame]
  · rintro (⟨documents, h⟩ | ⟨text, h⟩) path hpath
    · rw [outcome_loadDocuments] at h
      obtain ⟨source, hsource⟩ := exists_source_of_loadEach h path hpath
      exact size_of_readSource hsource
    · obtain ⟨sources, hsources, -⟩ := bind_eq_ok_iff.mp h
      obtain ⟨source, hsource⟩ := exists_mapM_iff.mp ⟨sources, hsources⟩ path hpath
      exact size_of_readSource hsource

/-- A directory with files of the language and another one, and a file of its own. -/
def sharedFiles : Workspace :=
  ⟨.dir [("api", .dir [("b.graphql", .file ⟨#[]⟩), ("notes.txt", .file ⟨#[]⟩),
    ("v1", .dir [("a.gql", .file ⟨#[]⟩)])]), ("extra.txt", .file ⟨#[]⟩)], []⟩

/-- Paths to them, some of which lead to the same files, and one that leads nowhere. -/
def sharedPaths : List Path :=
  [⟨"", ["api", "v1"]⟩, ⟨"", ["extra.txt"]⟩, ⟨"", ["api"]⟩, ⟨"", ["gone"]⟩,
    ⟨"", ["api", "b.graphql"]⟩, ⟨"", ["api"]⟩]

theorem filesOf_canonical_sharedFiles : sharedFiles.Proper ∧ (∀ p ∈ sharedPaths, p.Plain) ∧
    ((filesOf sharedFiles sharedPaths).Pairwise fun p q => p.allParts < q.allParts) ∧
    ⟨"", ["extra.txt"]⟩ ∈ filesOf sharedFiles sharedPaths ∧
    ⟨"", ["api", "v1", "a.gql"]⟩ ∈ filesOf sharedFiles sharedPaths ∧
    ⟨"", ["api", "notes.txt"]⟩ ∉ filesOf sharedFiles sharedPaths ∧
    filesOf sharedFiles sharedPaths.reverse = filesOf sharedFiles sharedPaths ∧
    filesOf sharedFiles (filesOf sharedFiles sharedPaths) = filesOf sharedFiles sharedPaths ∧
    schemaText sharedFiles (filesOf sharedFiles sharedPaths) =
      schemaText sharedFiles sharedPaths := by
  have hproper : sharedFiles.Proper := by decide +kernel
  have hplain : ∀ p ∈ sharedPaths, p.Plain := by decide +kernel
  obtain ⟨hascend, -, horder, hagain, -⟩ :=
    filesOf_canonical sharedFiles hproper sharedPaths hplain
  have hfound : sharedPaths.flatMap (filesAt sharedFiles) =
      [⟨"", ["api", "v1", "a.gql"]⟩, ⟨"", ["extra.txt"]⟩, ⟨"", ["api", "b.graphql"]⟩,
        ⟨"", ["api", "v1", "a.gql"]⟩, ⟨"", ["api", "b.graphql"]⟩, ⟨"", ["api", "b.graphql"]⟩,
        ⟨"", ["api", "v1", "a.gql"]⟩] := by decide +kernel
  have hfiles : ∀ path, path ∈ filesOf sharedFiles sharedPaths ↔
      path ∈ sharedPaths.flatMap (filesAt sharedFiles) := fun path => mem_sorted
  have hsize : ∀ path ∈ filesOf sharedFiles sharedPaths,
      path.text.utf8ByteSize ≤ Workspace.maxPathSize := by
    intro path hpath
    rw [hfiles, hfound] at hpath
    revert path
    decide +kernel
  obtain ⟨hsame, -, htext⟩ := hagain hsize
  refine ⟨hproper, hplain, hascend, ?_, ?_, ?_, horder _ fun p => List.mem_reverse, hsame, htext⟩
  · rw [hfiles, hfound]
    decide
  · rw [hfiles, hfound]
    decide
  · rw [hfiles, hfound]
    decide

end GraphQL

end OperationCatalog
