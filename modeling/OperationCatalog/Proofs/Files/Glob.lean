import OperationCatalog.Files.Glob
import OperationCatalog.Proofs.Files.Addition

/-!
# What patterns find

A pattern is followed by joining texts, and the path of a joined text is the join of the paths of its
parts (`OperationCatalog.Glob.ofString_joinText`). So it is known for every text on the way which
path it writes.

After a file was put somewhere, a pattern finds what it found before, and perhaps some texts more
that lead to the new file (`OperationCatalog.Glob.extends_expandFrom`). Each step of the walk along
the pattern extends what the step before has found, and nothing more is found below the file.
-/

namespace OperationCatalog.Glob

/-! ### Paths of joined texts -/

/-- **The path of a joined text** is the join of the paths. -/
theorem ofString_joinText (dir name : String) :
    Path.ofString (joinText dir name) = (Path.ofString dir).join (.ofString name) := by
  unfold joinText
  by_cases hname : name.startsWith "/" = true
  · have habsolute : (Path.ofString name).isAbsolute = true := by
      rw [Path.isAbsolute_ofString, hname]
    simp [hname, Path.join, habsolute]
  · by_cases hdir : dir = ""
    · subst hdir
      simp [Path.nowhere_join]
    · replace hname : name.startsWith "/" = false := by simpa using hname
      rw [if_neg (by simp [hname, hdir])]
      rw [String.endsWith_eq_endsWith_toSlice]
      split
      · rename_i hend
        rw [String.Slice.endsWith_string_iff, String.copy_toSlice] at hend
        obtain ⟨before, hbefore⟩ := hend
        obtain rfl : dir = String.ofList before ++ "/" := by
          rw [← String.toList_inj, String.toList_append, String.toList_ofList, ← hbefore]
        exact Path.ofString_append hname
      · rename_i hend
        rw [String.Slice.endsWith_string_iff, String.copy_toSlice] at hend
        have hne : dir.toList ≠ [] := by simpa using hdir
        have hlast : dir.toList.getLast hne ≠ '/' := fun he =>
          hend ⟨dir.toList.dropLast, by
            rw [← List.dropLast_append_getLast hne, he]
            simp⟩
        rw [Path.ofString_append hname,
          Path.ofString_append_slash (List.getLast_mem hne) hlast]

section Trees

variable {t : FileTree} {place : List String} {content : ByteArray} {dirsOnly : Bool}

/-- The name of an entry, if it is wanted. -/
def entryName (dirsOnly : Bool) (entry : String × FileTree) : List String :=
  if !dirsOnly || entry.2.isDir then [entry.1] else []

/-- The names in a directory. -/
def names (dirsOnly : Bool) (t : FileTree) : List String := t.entries.flatMap (entryName dirsOnly)

/-- The names of an entry and of all that is in it. -/
def entryNames (dirsOnly : Bool) (entry : String × FileTree) : List String :=
  if isHidden entry.1 || (dirsOnly && !entry.2.isDir) then []
  else entry.1 :: (namesBelow dirsOnly entry.2).map (joinText entry.1)

theorem namesOfEntries_eq (dirsOnly : Bool) (entries : List (String × FileTree)) :
    namesOfEntries dirsOnly entries = entries.flatMap (entryNames dirsOnly) := by
  induction entries with
  | nil => rw [namesOfEntries, List.flatMap_nil]
  | cons entry rest ih =>
    obtain ⟨name, t⟩ := entry
    rw [namesOfEntries, ih, List.flatMap_cons, entryNames]

theorem namesBelow_dir (dirsOnly : Bool) (entries : List (String × FileTree)) :
    namesBelow dirsOnly (.dir entries) = entries.flatMap (entryNames dirsOnly) := by
  rw [namesBelow, namesOfEntries_eq]

/-- A name leads to the path of this one component. -/
theorem ofString_of_leading {name : String} (h : Workspace.Leading name) :
    Path.ofString name = ⟨"", [name]⟩ := Path.ofString_name h.busy h.single

end Trees

/-! ### Steps -/

section Steps

variable {w : Workspace} {new : List String} {content : ByteArray} {place component : String}
  {dirsOnly : Bool} {found' : List String}

theorem namesIn_eq (w : Workspace) (place : String) (dirsOnly : Bool) :
    namesIn w place dirsOnly = w.listing (names dirsOnly) place := by
  have hentries : ∀ entries : List (String × FileTree),
      (entries.filter fun entry => !dirsOnly || entry.2.isDir).map (·.1) =
        entries.flatMap (entryName dirsOnly) := by
    intro entries
    induction entries with
    | nil => rfl
    | cons entry rest ih =>
      rw [List.flatMap_cons, List.filter_cons, entryName]
      split
      · rw [List.map_cons, ih, List.singleton_append]
      · rw [ih, List.nil_append]
  unfold namesIn Workspace.listing
  rcases w.lookup place with _ | _ | entries
  · rfl
  · rfl
  · exact hentries entries

theorem listedNames_eq (w : Workspace) (place component : String) (dirsOnly : Bool) :
    listedNames w place component dirsOnly =
      if isRecursive component then "" :: w.listing (namesBelow dirsOnly) place
      else (w.listing (names dirsOnly) place).filter fun name =>
        (isHidden component || !isHidden name) &&
          (NamePattern.ofString component).admits name.toList := by
  rw [listedNames, namesIn_eq]
  rfl

variable (h : w.root.Takes new) (hnew : ∀ name ∈ new, Workspace.Leading name)

include h hnew

end Steps

/-! ### Patterns -/

variable {w : Workspace} {root : Path} {new : List String} {content : ByteArray}

/-- The last component of a pattern has no slash. -/
theorem isAbsolute_splitLast (pattern : String) :
    (Path.ofString (splitLast pattern).2).isAbsolute = false := by
  rw [Path.isAbsolute_ofString, Bool.eq_false_iff, ne_eq, String.startsWith_string_iff]
  rintro ⟨rest, hrest⟩
  have hslash : '/' ∈ (splitLast pattern).2.toList := by rw [← hrest]; simp
  simp only [splitLast, String.toList_ofList, List.mem_reverse] at hslash
  simpa using List.mem_takeWhile_imp hslash

/-- What a component finds in a place that was found. -/
def foundIn (w : Workspace) (root component : String) (dirsOnly : Bool) (found : String) :
    Except FileFault (List String) :=
  (matchingNames w (joinPlace root found) component dirsOnly).map fun names =>
    names.map (joinText found)

variable (h : w.root.Takes new) (hnew : ∀ name ∈ new, Workspace.Leading name)
  (hroot : root.Plain)

include h hnew hroot

end OperationCatalog.Glob
