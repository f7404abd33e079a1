import OperationCatalog.Proofs.Files.Found
import OperationCatalog.Proofs.Metadata.Patterns

/-!
# Directories that patterns do not search

Of what a pattern finds, the components that the pattern itself names in so many words are not
looked at: as many components are dropped from the path that was found as the pattern has before its
first special one. These are the same components, however the pattern is written: a text that is
found has the root of the pattern and starts with its literal components
(`OperationCatalog.Metadata.along_of_mem_expand`). So a file is left out exactly if a directory
below them has the name of one that is not searched
(`OperationCatalog.Metadata.kept_iff_below_literal`).
-/

namespace OperationCatalog.Metadata

open Glob (splitLast hasMagic Inner)

variable {w : Workspace} {given : Option Path} {pattern text : String} {files : List Path}

/-! ### The literal components of a pattern -/

theorem allParts_join {p q : Path} (hq : q.isAbsolute = false) :
    (p.join q).allParts = p.allParts ++ q.parts := by
  unfold Path.join Path.allParts Path.isAbsolute at *
  simp only [hq, Bool.false_eq_true, if_false]
  split <;> simp

theorem hasMagic_iff_exists_allParts {s : String} :
    hasMagic s = true ↔ ∃ part ∈ (Path.ofString s).allParts, hasMagic part = true := by
  have hroot : hasMagic (Path.ofString s).root = false := by
    rcases (Path.plain_ofString s).root with h | h | h <;> rw [h] <;> rfl
  rw [Glob.hasMagic_iff_exists_part, Path.allParts]
  split
  · rw [List.exists_mem_cons_iff, hroot]
    simp
  · rfl

/-- A text without special characters is literal from its start to its end. -/
theorem literalParts_of_not_hasMagic (h : hasMagic pattern = false) :
    literalParts pattern = (Path.ofString pattern).allParts := by
  refine List.takeWhile_eq_self_iff.mpr fun part hpart => ?_
  rw [Bool.not_eq_true', Bool.eq_false_iff]
  exact fun hmagic =>
    Bool.eq_false_iff.mp h (hasMagic_iff_exists_allParts.mpr ⟨part, hpart, hmagic⟩)

/-- **The literal components of a pattern with a special one** stand before its last component. -/
theorem literalParts_splitLast (h : hasMagic pattern = true) :
    literalParts (splitLast pattern).1 = literalParts pattern := by
  have hpath : (Path.ofString pattern).allParts = (Path.ofString (splitLast pattern).1).allParts ++
      (Path.ofString (splitLast pattern).2).parts := by
    rw [← allParts_join (Glob.isAbsolute_splitLast pattern), ← Glob.ofString_splitLast]
  unfold literalParts
  rw [hpath]
  cases hdir : hasMagic (splitLast pattern).1
  · -- what stands before is literal, and the last component is not
    rw [Glob.hasMagic_splitLast, hdir, Bool.false_or] at h
    have hbusy : ¬Path.IsIdle (splitLast pattern).2 := by
      rintro (hidle | hidle) <;> rw [hidle] at h <;> exact absurd h (by decide)
    rw [Path.ofString_name hbusy (Glob.slash_notMem_splitLast pattern), List.takeWhile_append,
      List.takeWhile_cons_of_neg (by simpa using h), List.append_nil]
    split
    · rename_i hlength
      exact (List.takeWhile_prefix _).eq_of_length hlength
    · rfl
  · -- the first special component comes before the last one
    obtain ⟨part, hpart, hmagic⟩ := hasMagic_iff_exists_allParts.mp hdir
    rw [List.takeWhile_append, if_neg]
    intro hlength
    have hall := List.takeWhile_eq_self_iff.mp ((List.takeWhile_prefix _).eq_of_length hlength)
    simpa [hmagic] using hall part hpart

/-! ### What is found starts with them -/

/-- **A text along a pattern**: it starts where the pattern starts, and with the literal components
of the pattern, and it leads out only where the pattern does. A pattern without special characters
has no other text. -/
structure Along (pattern text : String) : Prop where
  /-- Both have the same root. -/
  root : (Path.ofString text).root = (Path.ofString pattern).root
  /-- The literal components of the pattern come first. -/
  literal : literalParts pattern <+: (Path.ofString text).allParts
  /-- Names do not lead out. -/
  outwards : ".." ∈ (Path.ofString text).parts → ".." ∈ (Path.ofString pattern).parts
  /-- Without special characters, the pattern is the text. -/
  same : hasMagic pattern = false → text = pattern

theorem along_of_mem_expand (hw : w.root.Proper) {root : String} {found : List String}
    (h : Glob.expand w root pattern = .ok found) : ∀ text ∈ found, Along pattern text := by
  refine Glob.of_mem_expand hw (fun s => ⟨rfl, List.takeWhile_prefix _, fun h => h, fun _ => rfl⟩)
    (fun pattern found s hmagic hfound hs => ?_) h
  have hrelative : (Path.ofString s).isAbsolute = false :=
    hs.elim Inner.isAbsolute fun he => he ▸ Glob.isAbsolute_splitLast pattern
  have hpattern : Path.ofString pattern =
      ⟨(Path.ofString (splitLast pattern).1).root, (Path.ofString (splitLast pattern).1).parts ++
        (Path.ofString (splitLast pattern).2).parts⟩ := by
    rw [Glob.ofString_splitLast, Path.join, Glob.isAbsolute_splitLast, if_neg (by simp)]
  have htext : Path.ofString (Glob.joinText found s) =
      ⟨(Path.ofString found).root, (Path.ofString found).parts ++ (Path.ofString s).parts⟩ := by
    rw [Glob.ofString_joinText, Path.join, hrelative, if_neg (by simp)]
  refine ⟨?_, ?_, fun hout => ?_, fun hplain => absurd (hmagic.symm.trans hplain) (by simp)⟩
  · rw [htext, hpattern]
    dsimp only
    rw [hfound.root]
  · rw [Glob.ofString_joinText, allParts_join hrelative, ← literalParts_splitLast hmagic]
    exact hfound.literal.trans (List.prefix_append _ _)
  · rw [htext] at hout
    rw [hpattern]
    refine List.mem_append.mpr ((List.mem_append.mp hout).imp hfound.outwards fun hout => ?_)
    rcases hs with hs | rfl
    · exact absurd rfl (hs.names ".." hout).leading.inwards
    · exact hout

/-! ### What is left out -/

/-- **A pattern matches** a text to which it expands, if the text leads to a file. -/
def Matches (w : Workspace) (given : Option Path) (pattern text : String) : Prop :=
  w.isFile (foundPath w given text).text = true ∧
    ∃ found, Glob.expand w (given.getD w.currentPath).text pattern = .ok found ∧ text ∈ found

theorem Matches.along (hw : w.root.Proper) (h : Matches w given pattern text) :
    Along pattern text := by
  obtain ⟨-, found, hfound, htext⟩ := h
  exact along_of_mem_expand hw hfound text htext

theorem finds_iff : Finds w given pattern text ↔
    Matches w given pattern text ∧ isIgnored pattern text = false := by
  unfold Finds Matches isKept foundPath
  rw [Bool.and_eq_true, Bool.not_eq_true', and_assoc, and_comm]

theorem isIgnored_iff {below : List String}
    (h : (Path.ofString text).allParts = literalParts pattern ++ below) :
    isIgnored pattern text = true ↔ "node_modules" ∈ below := by
  rw [isIgnored, h, List.drop_left, List.any_eq_true]
  simp [ignoredDirectories]

theorem exists_of_resolveFiles {patterns : List String}
    (h : (resolveFiles w given patterns).outcome = .ok files) : ∃ found,
      (filesOfEach w (given.getD w.currentPath) patterns).outcome = .ok found ∧
        files = found.eraseDups := by
  refine filesOf_iff.mp ⟨fun hnone => ?_, fun _ => h⟩
  simp [resolveFiles, hnone] at h

/-- **The files of patterns** are what the patterns find. -/
theorem mem_resolveFiles_iff {patterns : List String} {path : Path}
    (h : (resolveFiles w given patterns).outcome = .ok files) : path ∈ files ↔
      ∃ pattern ∈ patterns, ∃ text, Finds w given pattern text ∧ foundPath w given text = path := by
  obtain ⟨found, hfound, rfl⟩ := exists_of_resolveFiles h
  rw [List.mem_eraseDups, mem_filesOfEach_iff hfound]

theorem nodup_of_resolveFiles {patterns : List String}
    (h : (resolveFiles w given patterns).outcome = .ok files) : files.Nodup := by
  obtain ⟨found, -, rfl⟩ := exists_of_resolveFiles h
  exact GraphQL.Scope.nodup_eraseDups found

/-- A path below a root, and how it starts, say which path it was. -/
theorem eq_of_join_eq {root p q : Path} (hroot : p.root = q.root)
    (h : root.join p = root.join q) : p = q := by
  have habsolute : p.isAbsolute = q.isAbsolute := by rw [Path.isAbsolute, hroot, Path.isAbsolute]
  obtain ⟨pRoot, pParts⟩ := p
  obtain ⟨qRoot, qParts⟩ := q
  obtain rfl : pRoot = qRoot := hroot
  unfold Path.join at h
  split at h
  · rwa [if_pos (habsolute ▸ ‹_›)] at h
  · rw [if_neg (habsolute ▸ ‹_›)] at h
    have hparts : pParts = qParts := List.append_cancel_left (congrArg Path.parts h)
    rw [hparts]

/-- The last component of a path that was found is that of the path it leads to. -/
theorem name_foundPath {name : String} (h : (Path.ofString text).parts.getLast? = some name) :
    (foundPath w given text).name = name := by
  unfold foundPath Path.join Path.name
  split <;> simp [List.getLastD_eq_getLast?, List.getLast?_append, h]

theorem getLast?_parts {p : Path} (hp : p.Plain) {name : String}
    (hname : name ≠ "" ∧ name ≠ "/" ∧ name ≠ "//") (h : p.allParts.getLast? = some name) :
    p.parts.getLast? = some name := by
  unfold Path.allParts at h
  split at h
  · rcases hparts : p.parts with _ | ⟨part, parts⟩
    · rw [hparts, List.getLast?_singleton, Option.some.injEq] at h
      rcases hp.root with hroot | hroot | hroot <;> simp_all
    · rwa [hparts, List.getLast?_cons_cons] at h
  · exact h

/-- **The files of patterns** are what the patterns match, unless a component below the literal ones
is one that is not searched. -/
theorem mem_resolveFiles_iff_below (hw : w.root.Proper) {patterns : List String} {path : Path}
    (h : (resolveFiles w given patterns).outcome = .ok files) :
    path ∈ files ↔ ∃ pattern ∈ patterns, ∃ text, Matches w given pattern text ∧
      foundPath w given text = path ∧ ∃ below,
        (Path.ofString text).allParts = literalParts pattern ++ below ∧
          "node_modules" ∉ below := by
  rw [mem_resolveFiles_iff h]
  refine exists_congr fun pattern => and_congr_right fun _ => exists_congr fun text => ?_
  rw [finds_iff, and_assoc]
  refine and_congr_right fun hmatches => ?_
  obtain ⟨below, hbelow⟩ := (hmatches.along hw).literal
  rw [and_comm]
  refine and_congr_right fun _ => ?_
  rw [Bool.eq_false_iff, ne_eq, isIgnored_iff hbelow.symm]
  exact ⟨fun hnone => ⟨below, hbelow.symm, hnone⟩, fun ⟨other, hother, hnone⟩ =>
    List.append_cancel_left (hbelow.trans hother) ▸ hnone⟩

section One

variable {below : List String}
  (hbelow : (Path.ofString text).allParts = literalParts pattern ++ below)

include hbelow

/-- **What one pattern matches** is one of its files, unless a component below the literal ones is
one that is not searched. -/
theorem foundPath_mem_iff (hw : w.root.Proper)
    (h : (resolveFiles w given [pattern]).outcome = .ok files)
    (hmatches : Matches w given pattern text) :
    foundPath w given text ∈ files ↔ "node_modules" ∉ below := by
  rw [mem_resolveFiles_iff_below hw h]
  constructor
  · rintro ⟨other, hother, text', hmatches', hsame, below', hbelow', hnone⟩
    obtain rfl := List.mem_singleton.mp hother
    -- another text that leads to the same path is the same path
    have hroot := (hmatches'.along hw).root.trans (hmatches.along hw).root.symm
    rw [eq_of_join_eq hroot hsame, hbelow] at hbelow'
    rwa [List.append_cancel_left hbelow']
  · exact fun hnone => ⟨pattern, List.mem_singleton_self _, text, hmatches, rfl, below, hbelow,
      hnone⟩

/-- The last component is the name of the file, and the others are directories. -/
theorem mem_below_iff (hname : (foundPath w given text).name ≠ "node_modules") :
    "node_modules" ∈ below ↔ "node_modules" ∈ below.dropLast := by
  refine ⟨fun hmem => ?_, fun h => List.dropLast_subset _ h⟩
  rcases List.eq_nil_or_concat below with rfl | ⟨dirs, last, rfl⟩
  · exact absurd hmem List.not_mem_nil
  · rw [List.concat_eq_append] at hbelow hmem ⊢
    rw [List.dropLast_concat]
    refine (List.mem_append.mp hmem).resolve_right fun hlast => hname ?_
    obtain rfl := List.mem_singleton.mp hlast
    refine name_foundPath (getLast?_parts (Path.plain_ofString text) (by decide) ?_)
    rw [hbelow, ← List.append_assoc, List.getLast?_concat]

end One

/-! ### Main result -/

/-- **What patterns do not search.** Patterns without fault stand for files: what they match, unless
a component below the literal ones is one that is not searched. So a file with another name that a
pattern matches is kept exactly if no directory below the literal components of the pattern has
that name, and a pattern without special characters always keeps what it matches. -/
theorem kept_iff_below_literal (w : Workspace) (hw : w.root.Proper) (given : Option Path) :
    (∀ patterns, patterns ≠ [] → '\x00' ∉ (given.getD w.currentPath).text.toList →
      (∀ pattern ∈ patterns, '\x00' ∉ pattern.toList) →
        ∃ files, (resolveFiles w given patterns).outcome = .ok files) ∧
    (∀ patterns files, (resolveFiles w given patterns).outcome = .ok files →
      ∀ path, path ∈ files ↔ ∃ pattern ∈ patterns, ∃ text, Matches w given pattern text ∧
        foundPath w given text = path ∧ ∃ below,
          (Path.ofString text).allParts = literalParts pattern ++ below ∧
            "node_modules" ∉ below) ∧
    ∀ pattern files, (resolveFiles w given [pattern]).outcome = .ok files →
      ∀ text, Matches w given pattern text → ∃ below,
        (Path.ofString text).allParts = literalParts pattern ++ below ∧
        ((foundPath w given text).name ≠ "node_modules" →
          (foundPath w given text ∈ files ↔ "node_modules" ∉ below.dropLast)) ∧
        (hasMagic pattern = false → below = [] ∧ foundPath w given text ∈ files) := by
  refine ⟨fun patterns hne hroot hpatterns => ?_,
    fun patterns files hfiles path => mem_resolveFiles_iff_below hw hfiles,
    fun pattern files hfiles text hmatches => ?_⟩
  · rw [outcome_resolveFiles (by simpa using hne), exists_bind_pure_iff, exists_filesOfEach_iff]
    exact fun pattern hpattern => Glob.exists_expand hw hroot (hpatterns pattern hpattern)
  · have halong := hmatches.along hw
    obtain ⟨below, hbelow⟩ := halong.literal
    have hmem := foundPath_mem_iff hbelow.symm hw hfiles hmatches
    refine ⟨below, hbelow.symm, fun hname => ?_, fun hplain => ?_⟩
    · rw [hmem, mem_below_iff hbelow.symm hname]
    · obtain rfl := halong.same hplain
      rw [literalParts_of_not_hasMagic hplain, List.append_right_eq_self] at hbelow
      exact ⟨hbelow, hmem.mpr (by simp [hbelow])⟩

/-- A project that is itself in a directory which patterns do not search, and has one. -/
def nestedFiles : Workspace :=
  ⟨.dir [("node_modules", .dir [("app", .dir [("metadata", .dir [("a.json", .file ⟨#[]⟩),
    ("node_modules", .dir [("b.json", .file ⟨#[]⟩)])])])])], ["node_modules", "app"]⟩

/-- A pattern for all of its files. -/
def nestedPattern : String := "/node_modules/app//metadata/./**/[!c].json"

theorem kept_iff_below_literal_nestedFiles : nestedFiles.root.Proper ∧
    ∃ files, (resolveFiles nestedFiles none [nestedPattern]).outcome = .ok files ∧
      ⟨"/", ["node_modules", "app", "metadata", "a.json"]⟩ ∈ files ∧
      ⟨"/", ["node_modules", "app", "metadata", "node_modules", "b.json"]⟩ ∉ files := by
  have hproper : nestedFiles.root.Proper := by decide +kernel
  obtain ⟨hthere, -, hkept⟩ := kept_iff_below_literal nestedFiles hproper none
  obtain ⟨files, hfiles⟩ := hthere [nestedPattern] (by decide) (by decide) (by decide)
  have hfound : Glob.expand nestedFiles "/node_modules/app" nestedPattern =
      .ok ["/node_modules/app//metadata/./a.json",
        "/node_modules/app//metadata/./node_modules/b.json"] := by decide +kernel
  -- which of them is kept can be read off the components below the literal ones
  have hmem : ∀ text path below, Matches nestedFiles none nestedPattern text →
      foundPath nestedFiles none text = path → path.name ≠ "node_modules" →
      (Path.ofString text).allParts = literalParts nestedPattern ++ below →
        (path ∈ files ↔ "node_modules" ∉ below.dropLast) := by
    rintro text _ below hmatches rfl hname hbelow
    obtain ⟨other, hother, hiff, -⟩ := hkept nestedPattern files hfiles text hmatches
    rw [List.append_cancel_left (hbelow.symm.trans hother)]
    exact hiff hname
  refine ⟨hproper, files, hfiles, ?_, ?_⟩
  · rw [hmem "/node_modules/app//metadata/./a.json" _ ["a.json"]
      ⟨by decide +kernel, _, hfound, by decide⟩ (by decide +kernel) (by decide +kernel)
      (by decide +kernel)]
    decide
  · rw [hmem "/node_modules/app//metadata/./node_modules/b.json" _ ["node_modules", "b.json"]
      ⟨by decide +kernel, _, hfound, by decide⟩ (by decide +kernel) (by decide +kernel)
      (by decide +kernel)]
    decide

end OperationCatalog.Metadata
