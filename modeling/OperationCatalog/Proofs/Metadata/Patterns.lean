import OperationCatalog.Proofs.Metadata.Files
import OperationCatalog.Proofs.Named

/-!
# The order of metadata files

Later files override earlier ones, so the order in which patterns stand for files matters. The
files of some patterns are a beginning of those of more patterns: a pattern that is added at the
end adds its files there, those that earlier patterns stand for left out, in the order of the texts
under which it finds them (`OperationCatalog.Metadata.files_in_order`). A pattern that adds no file
is as good as none.

Where a pattern finds a file under several texts, the file stands where the least of them does,
since what a pattern finds is sorted before repetitions are dropped
(`OperationCatalog.exists_eraseDups_removeAll_map`).
-/

namespace OperationCatalog

/-- **The values of a sorted list without repetitions**, and without those that came before: each is
that of the least thing which has it. -/
theorem exists_eraseDups_removeAll_map {α β : Type} [DecidableEq β] (f : α → β)
    {r : α → α → Prop} (hrefl : ∀ a, r a a) {as : List α} (has : as.Pairwise r) (before : List β) :
    ∃ chosen : List α, chosen.Sublist as ∧
      ((as.map f).removeAll before).eraseDups = chosen.map f ∧
      ∀ a ∈ chosen, ∀ b ∈ as, f b = f a → r a b := by
  induction as generalizing before with
  | nil => exact ⟨[], .slnil, by simp, nofun⟩
  | cons a rest ih =>
    obtain ⟨ha, hrest⟩ := List.pairwise_cons.mp has
    rw [List.map_cons, List.cons_removeAll]
    by_cases hbefore : f a ∈ before
    · obtain ⟨chosen, hsublist, hchosen, hleast⟩ := ih hrest before
      rw [if_neg (by simpa using hbefore)]
      refine ⟨chosen, hsublist.cons a, hchosen, fun c hc => List.forall_mem_cons.mpr
        ⟨fun heq => ?_, hleast c hc⟩⟩
      -- what is chosen has a value that did not come before
      have hmem : f c ∈ (rest.map f).removeAll before :=
        List.mem_eraseDups.mp (hchosen ▸ List.mem_map_of_mem hc)
      rw [List.removeAll, List.mem_filter, ← heq] at hmem
      simp [hbefore] at hmem
    · obtain ⟨chosen, hsublist, hchosen, hleast⟩ := ih hrest (f a :: before)
      rw [if_pos (by simpa using hbefore), List.eraseDups_cons]
      refine ⟨a :: chosen, hsublist.cons_cons a, ?_, List.forall_mem_cons.mpr
        ⟨List.forall_mem_cons.mpr ⟨fun _ => hrefl a, fun b hb _ => ha b hb⟩, fun c hc =>
          List.forall_mem_cons.mpr ⟨fun heq => ?_, hleast c hc⟩⟩⟩
      · rw [List.map_cons, ← hchosen, List.removeAll, List.removeAll, List.filter_filter]
        congr 3
        funext b
        rw [List.elem_cons]
        cases b == f a <;> simp
      · have hmem : f c ∈ (rest.map f).removeAll (f a :: before) :=
          List.mem_eraseDups.mp (hchosen ▸ List.mem_map_of_mem hc)
        rw [List.removeAll, List.mem_filter, ← heq] at hmem
        simp at hmem

namespace Metadata

variable {w : Workspace} {given : Option Path} {pattern text : String} {path : Path}
  {patterns : List String} {files : List Path}

/-! ### What a pattern finds -/

/-- The path to which a text leads that a pattern finds. -/
def foundPath (w : Workspace) (given : Option Path) (text : String) : Path :=
  (given.getD w.currentPath).join (.ofString text)

/-- **A pattern finds** a text to which it expands, if it leads to a file that is not left out. -/
def Finds (w : Workspace) (given : Option Path) (pattern text : String) : Prop :=
  isKept w (given.getD w.currentPath) pattern text = true ∧
    ∃ found, Glob.expand w (given.getD w.currentPath).text pattern = .ok found ∧ text ∈ found

/-- What is found is a file. -/
theorem Finds.isFile (h : Finds w given pattern text) :
    w.isFile (foundPath w given text).text = true :=
  (Bool.and_eq_true_iff.mp h.1).2

/-- What is kept of the texts to which a pattern expands, in ascending order. -/
def keptTexts (w : Workspace) (given : Option Path) (pattern : String) (found : List String) :
    List String :=
  (found.filter (isKept w (given.getD w.currentPath) pattern)).mergeSort fun a b => decide (a ≤ b)

theorem pairwise_keptTexts (w : Workspace) (given : Option Path) (pattern : String)
    (found : List String) : (keptTexts w given pattern found).Pairwise (· ≤ ·) := by
  refine (List.pairwise_mergeSort (fun a b c => ?_) (fun a b => ?_) _).imp of_decide_eq_true
  · simpa using String.le_trans
  · simpa using String.le_total a b

theorem mem_keptTexts_iff {found : List String}
    (h : Glob.expand w (given.getD w.currentPath).text pattern = .ok found) :
    text ∈ keptTexts w given pattern found ↔ Finds w given pattern text := by
  simp only [keptTexts, List.mem_mergeSort, List.mem_filter, Finds, h, Except.ok.injEq,
    exists_eq_left', and_comm]

/-- **The files of a pattern** are those that it finds, in ascending order of the texts. -/
theorem filesOfPattern_eq_ok_iff :
    filesOfPattern w (given.getD w.currentPath) pattern = .ok files ↔
      ∃ found, Glob.expand w (given.getD w.currentPath).text pattern = .ok found ∧
        files = (keptTexts w given pattern found).map (foundPath w given) := by
  rw [filesOfPattern, map_eq_ok_iff]
  refine exists_congr fun found => and_congr_right fun _ => ?_
  rw [keptTexts, ← filter_mergeSort, eq_comm]
  rfl

theorem mem_filesOfPattern_iff
    (h : filesOfPattern w (given.getD w.currentPath) pattern = .ok files) :
    path ∈ files ↔ ∃ text, Finds w given pattern text ∧ foundPath w given text = path := by
  obtain ⟨found, hfound, rfl⟩ := filesOfPattern_eq_ok_iff.mp h
  simp only [List.mem_map, mem_keptTexts_iff hfound]

/-! ### What patterns find -/

theorem exists_filesOfEach_iff (patterns : List String) :
    (∃ files, (filesOfEach w (given.getD w.currentPath) patterns).outcome = .ok files) ↔
      ∀ pattern ∈ patterns, ∃ found,
        Glob.expand w (given.getD w.currentPath).text pattern = .ok found := by
  induction patterns with
  | nil => simp [filesOfEach]
  | cons pattern rest ih =>
    rw [List.forall_mem_cons, ← ih, outcome_filesOfEach_cons]
    constructor
    · rintro ⟨files, h⟩
      obtain ⟨first, hfirst, h⟩ := bind_eq_ok_iff.mp h
      obtain ⟨more, hmore, -⟩ := bind_eq_ok_iff.mp h
      obtain ⟨found, hfound, -⟩ := filesOfPattern_eq_ok_iff.mp (mapError_eq_ok_iff.mp hfirst)
      exact ⟨⟨found, hfound⟩, more, hmore⟩
    · rintro ⟨⟨found, hfound⟩, more, hmore⟩
      have hfirst := filesOfPattern_eq_ok_iff.mpr ⟨found, hfound, rfl⟩
      exact ⟨_, bind_eq_ok_iff.mpr ⟨_, mapError_eq_ok_iff.mpr hfirst,
        bind_eq_ok_iff.mpr ⟨more, hmore, rfl⟩⟩⟩

/-- **What patterns stand for** is what each of them finds. -/
theorem mem_filesOfEach_iff
    (h : (filesOfEach w (given.getD w.currentPath) patterns).outcome = .ok files) :
    path ∈ files ↔
      ∃ pattern ∈ patterns, ∃ text, Finds w given pattern text ∧ foundPath w given text = path := by
  rw [mem_filesOfEach h]
  refine exists_congr fun pattern => and_congr_right fun _ => ⟨?_, ?_⟩
  · rintro ⟨first, hfirst, hpath⟩
    exact (mem_filesOfPattern_iff hfirst).mp hpath
  · rintro ⟨text, hfinds, hplace⟩
    obtain ⟨-, found, hfound, -⟩ := id hfinds
    have hfirst := filesOfPattern_eq_ok_iff.mpr ⟨found, hfound, rfl⟩
    exact ⟨_, hfirst, (mem_filesOfPattern_iff hfirst).mpr ⟨text, hfinds, hplace⟩⟩

/-- **The files of more patterns** come after those of the first. -/
theorem outcome_filesOfEach_append (w : Workspace) (root : Path) (patterns more : List String) :
    (filesOfEach w root (patterns ++ more)).outcome =
      (filesOfEach w root patterns).outcome >>= fun first =>
        (filesOfEach w root more).outcome >>= fun second => pure (first ++ second) := by
  induction patterns with
  | nil =>
    rw [List.nil_append, filesOfEach, Logged.outcome_pure, ok_bind]
    exact (bind_pure _).symm
  | cons pattern rest ih =>
    rw [List.cons_append, outcome_filesOfEach_cons, ih, outcome_filesOfEach_cons]
    simp only [bind_assoc, pure_bind, List.append_assoc]

/-! ### Appending patterns -/

variable {more : List String} {earlier : List Path}

theorem filesOf_iff : FilesOf w given patterns files ↔
    ∃ found, (filesOfEach w (given.getD w.currentPath) patterns).outcome = .ok found ∧
      files = found.eraseDups := by
  rcases eq_or_ne patterns [] with rfl | hpatterns
  · simp [FilesOf, filesOfEach]
  · rw [FilesOf, outcome_resolveFiles (by simpa using hpatterns), bind_eq_ok_iff]
    simp only [hpatterns, ne_eq, not_false_eq_true, false_implies, true_and, forall_const,
      pure_eq_ok_iff]
    exact exists_congr fun found => and_congr_right fun _ => eq_comm

/-- **What a pattern adds** to the files of earlier patterns, under the texts it finds. -/
structure Adds (w : Workspace) (given : Option Path) (pattern : String) (earlier : List Path)
    (texts : List String) : Prop where
  /-- The texts ascend. -/
  ascending : texts.Pairwise (· < ·)
  /-- Each is found and leads to a file that no earlier pattern stands for. -/
  new : ∀ text ∈ texts, Finds w given pattern text ∧ foundPath w given text ∉ earlier
  /-- Each is the least that leads to its file. -/
  least : ∀ text ∈ texts, ∀ other, Finds w given pattern other →
    foundPath w given other = foundPath w given text → text ≤ other
  /-- All that is found is there or was there earlier. -/
  complete : ∀ text, Finds w given pattern text →
    foundPath w given text ∈ earlier ++ texts.map (foundPath w given)

/-- **What a pattern adds** to earlier files. -/
theorem exists_adds (h : filesOfPattern w (given.getD w.currentPath) pattern = .ok files)
    (earlier : List Path) : ∃ texts, Adds w given pattern earlier texts ∧
      (files.removeAll earlier).eraseDups = texts.map (foundPath w given) := by
  obtain ⟨found, hfound, rfl⟩ := filesOfPattern_eq_ok_iff.mp h
  have hsorted := pairwise_keptTexts w given pattern found
  obtain ⟨texts, hsublist, htexts, hleast⟩ :=
    exists_eraseDups_removeAll_map (foundPath w given) String.le_refl hsorted earlier
  refine ⟨texts, ⟨?_, fun text htext => ⟨(mem_keptTexts_iff hfound).mp (hsublist.subset htext), ?_⟩,
    fun text htext other hother => hleast text htext other ((mem_keptTexts_iff hfound).mpr hother),
    fun text htext => ?_⟩, htexts⟩
  · -- no text is there twice, since no file is
    have hnodup : texts.Nodup := .of_map _ (htexts ▸ GraphQL.Scope.nodup_eraseDups _)
    exact ((hsorted.sublist hsublist).and hnodup).imp fun ⟨hle, hne⟩ => lt_of_le_of_ne hle hne
  · have hnew := List.mem_eraseDups.mp (htexts ▸ List.mem_map_of_mem htext)
    simpa using (List.mem_filter.mp hnew).2
  · rw [List.mem_append, ← htexts, List.mem_eraseDups, List.removeAll, List.mem_filter]
    have hmem := List.mem_map_of_mem (f := foundPath w given)
      ((mem_keptTexts_iff hfound).mpr htext)
    by_cases hearlier : foundPath w given text ∈ earlier
    · exact .inl hearlier
    · exact .inr ⟨hmem, by simpa using hearlier⟩

/-- **The files of a run, around those of one pattern.** -/
theorem exists_filesOf_append {pattern : String} {before after : List String}
    (h : FilesOf w given (before ++ pattern :: after) files) :
    ∃ earlier texts later, FilesOf w given before earlier ∧ Adds w given pattern earlier texts ∧
      files = earlier ++ texts.map (foundPath w given) ++ later := by
  obtain ⟨found, hfound, rfl⟩ := filesOf_iff.mp h
  rw [outcome_filesOfEach_append, outcome_filesOfEach_cons] at hfound
  obtain ⟨earlier, hearlier, hfound⟩ := bind_eq_ok_iff.mp hfound
  obtain ⟨more, hmore, hfound⟩ := bind_eq_ok_iff.mp hfound
  obtain rfl := pure_eq_ok_iff.mp hfound
  obtain ⟨own, hown, hmore⟩ := bind_eq_ok_iff.mp hmore
  obtain ⟨later, -, hmore⟩ := bind_eq_ok_iff.mp hmore
  obtain rfl := pure_eq_ok_iff.mp hmore
  obtain ⟨texts, hadds, htexts⟩ := exists_adds (mapError_eq_ok_iff.mp hown) earlier.eraseDups
  refine ⟨earlier.eraseDups, texts, (later.removeAll (earlier ++ own)).eraseDups,
    filesOf_iff.mpr ⟨earlier, hearlier, rfl⟩, hadds, ?_⟩
  have hsame : own.removeAll earlier.eraseDups = own.removeAll earlier := by
    simp only [List.removeAll, List.elem_eq_contains, List.contains_eq_mem, List.mem_eraseDups]
  rw [← htexts, hsame, ← List.append_assoc, List.eraseDups_append, List.eraseDups_append]

/-- The files of a run are a beginning of those of a run with more patterns. -/
theorem exists_filesOf_prefix (h : FilesOf w given (patterns ++ more) files) :
    ∃ first, FilesOf w given patterns first ∧ first <+: files := by
  obtain ⟨found, hfound, rfl⟩ := filesOf_iff.mp h
  rw [outcome_filesOfEach_append] at hfound
  obtain ⟨first, hfirst, hfound⟩ := bind_eq_ok_iff.mp hfound
  obtain ⟨second, -, hfound⟩ := bind_eq_ok_iff.mp hfound
  obtain rfl := pure_eq_ok_iff.mp hfound
  rw [List.eraseDups_append]
  exact ⟨_, filesOf_iff.mpr ⟨first, hfirst, rfl⟩, List.prefix_append _ _⟩

/-- **A pattern that adds no file** is as good as none. -/
theorem outcome_resolveFiles_append (hpatterns : patterns ≠ []) {pattern : String}
    (h : pattern ∈ patterns ∨ ∃ files found, (resolveFiles w given patterns).outcome = .ok files ∧
      Glob.expand w (given.getD w.currentPath).text pattern = .ok found ∧
      ∀ text, Finds w given pattern text → foundPath w given text ∈ files) :
    (resolveFiles w given (patterns ++ [pattern])).outcome =
      (resolveFiles w given patterns).outcome := by
  have hnonempty : patterns.isEmpty = false := by simpa using hpatterns
  rw [outcome_resolveFiles (by simp) w given, outcome_resolveFiles hnonempty w given,
    outcome_filesOfEach_append]
  rcases hfirst : (filesOfEach w (given.getD w.currentPath) patterns).outcome with fault | first
  · rfl
  obtain ⟨own, hown, hsubset⟩ :
      ∃ own, filesOfPattern w (given.getD w.currentPath) pattern = .ok own ∧ own ⊆ first := by
    rcases h with hmem | ⟨files, found, hfiles, hfound, hsubset⟩
    · obtain ⟨found, hfound⟩ := (exists_filesOfEach_iff patterns).mp ⟨first, hfirst⟩ pattern hmem
      refine ⟨_, filesOfPattern_eq_ok_iff.mpr ⟨found, hfound, rfl⟩, fun path hpath => ?_⟩
      exact (mem_filesOfEach_iff hfirst).mpr ⟨pattern, hmem, (mem_filesOfPattern_iff
        (filesOfPattern_eq_ok_iff.mpr ⟨found, hfound, rfl⟩)).mp hpath⟩
    · refine ⟨_, filesOfPattern_eq_ok_iff.mpr ⟨found, hfound, rfl⟩, fun path hpath => ?_⟩
      obtain ⟨text, htext, rfl⟩ := (mem_filesOfPattern_iff
        (filesOfPattern_eq_ok_iff.mpr ⟨found, hfound, rfl⟩)).mp hpath
      rw [outcome_resolveFiles hnonempty, hfirst, ok_bind] at hfiles
      obtain rfl := pure_eq_ok_iff.mp hfiles
      exact List.mem_eraseDups.mp (hsubset text htext)
  have hmore : (filesOfEach w (given.getD w.currentPath) [pattern]).outcome = .ok own := by
    rw [outcome_filesOfEach_cons, hown]
    exact congrArg Except.ok (List.append_nil own)
  have hnothing : own.removeAll first = [] := by
    rw [List.removeAll, List.filter_eq_nil_iff]
    exact fun path hpath => by simp [hsubset hpath]
  rw [hmore]
  simp only [ok_bind, pure_bind, List.eraseDups_append, hnothing, List.eraseDups_nil,
    List.append_nil]

/-! ### Main result -/

/-- **Patterns stand for files in order.** What they stand for are files that some pattern finds,
no path twice; the files of some patterns are a beginning of those of more; and between the files
of earlier patterns and those of later ones, a pattern adds what it finds in ascending order of the
texts. A pattern that occurs already, or that finds only files which are there, changes neither the
files nor the table that is loaded from them. -/
theorem files_in_order (w : Workspace) (given : Option Path) :
    (∀ patterns files, (resolveFiles w given patterns).outcome = .ok files →
      files.Nodup ∧ ∀ path ∈ files, w.isFile path.text = true ∧
        ∃ pattern ∈ patterns, ∃ text, Finds w given pattern text ∧ foundPath w given text = path) ∧
    (∀ patterns, patterns ≠ [] → ((∃ files, (resolveFiles w given patterns).outcome = .ok files) ↔
      ∀ pattern ∈ patterns, ∃ found,
        Glob.expand w (given.getD w.currentPath).text pattern = .ok found)) ∧
    (∀ patterns more files, patterns ≠ [] →
      (resolveFiles w given (patterns ++ more)).outcome = .ok files →
      ∃ first, (resolveFiles w given patterns).outcome = .ok first ∧ first <+: files) ∧
    (∀ before pattern after files,
      (resolveFiles w given (before ++ pattern :: after)).outcome = .ok files →
      ∃ earlier texts later, FilesOf w given before earlier ∧ Adds w given pattern earlier texts ∧
        files = earlier ++ texts.map (foundPath w given) ++ later) ∧
    ∀ patterns pattern, patterns ≠ [] →
      (pattern ∈ patterns ∨ ∃ files found, (resolveFiles w given patterns).outcome = .ok files ∧
        Glob.expand w (given.getD w.currentPath).text pattern = .ok found ∧
        ∀ text, Finds w given pattern text → foundPath w given text ∈ files) →
      (resolveFiles w given (patterns ++ [pattern])).outcome =
          (resolveFiles w given patterns).outcome ∧
        ∀ schema, (buildTable w given (patterns ++ [pattern]) schema).outcome =
          (buildTable w given patterns schema).outcome := by
  refine ⟨fun patterns files h => ?_, fun patterns hpatterns => ?_,
    fun patterns more files hpatterns h => ?_, fun before pattern after files h => ?_,
    fun patterns pattern hpatterns h => ?_⟩
  · have hpatterns : patterns.isEmpty = false := by
      rw [Bool.eq_false_iff]
      intro hempty
      simp [resolveFiles, hempty] at h
    rw [outcome_resolveFiles hpatterns] at h
    obtain ⟨found, hfound, h⟩ := bind_eq_ok_iff.mp h
    obtain rfl := pure_eq_ok_iff.mp h
    refine ⟨GraphQL.Scope.nodup_eraseDups _, fun path hpath => ?_⟩
    obtain ⟨pattern, hpattern, text, htext, rfl⟩ :=
      (mem_filesOfEach_iff hfound).mp (List.mem_eraseDups.mp hpath)
    exact ⟨htext.isFile, pattern, hpattern, text, htext, rfl⟩
  · rw [outcome_resolveFiles (by simpa using hpatterns), exists_bind_pure_iff,
      exists_filesOfEach_iff]
  · have hfiles : FilesOf w given (patterns ++ more) files :=
      ⟨fun hnil => absurd (List.append_eq_nil_iff.mp hnil).1 hpatterns, fun _ => h⟩
    obtain ⟨first, hfirst, hprefix⟩ := exists_filesOf_prefix hfiles
    exact ⟨first, hfirst.2 hpatterns, hprefix⟩
  · exact exists_filesOf_append ⟨by simp, fun _ => h⟩
  · have hsame := outcome_resolveFiles_append hpatterns h
    refine ⟨hsame, fun schema => ?_⟩
    rw [outcome_buildTable (by simp), outcome_buildTable (by simpa using hpatterns), hsame]

/-! ### A file in two places -/

/-- A file that is there again in a directory which patterns do not search. -/
def layeredFiles : Workspace :=
  ⟨.dir [("base.yaml", .file ⟨#[]⟩), ("types", .dir [("own.yaml", .file ⟨#[]⟩),
    ("node_modules", .dir [("base.yaml", .file ⟨#[]⟩)])])], []⟩

/-- Patterns that stand for all the files but that one. -/
def layeredPatterns : List String := ["base.yaml", "types/*.yaml"]

/-- The files that the patterns stand for. -/
def layeredPaths : List Path := [⟨"/", ["base.yaml"]⟩, ⟨"/", ["types", "own.yaml"]⟩]

theorem files_in_order_layeredFiles :
    (resolveFiles layeredFiles none layeredPatterns).outcome = .ok layeredPaths ∧
      layeredPaths.Nodup ∧
      (∃ first, (resolveFiles layeredFiles none ["base.yaml"]).outcome = .ok first ∧
        first <+: layeredPaths) ∧
      (∃ texts later, Adds layeredFiles none "types/*.yaml" [⟨"/", ["base.yaml"]⟩] texts ∧
        layeredPaths = [⟨"/", ["base.yaml"]⟩] ++ texts.map (foundPath layeredFiles none) ++ later) ∧
      (∃ text, Finds layeredFiles none "**/base.yaml" text) ∧
      (resolveFiles layeredFiles none (layeredPatterns ++ ["**/base.yaml"])).outcome =
        .ok layeredPaths := by
  obtain ⟨hunique, -, happend, hbetween, hsame⟩ := files_in_order layeredFiles none
  have hfiles : (resolveFiles layeredFiles none layeredPatterns).outcome = .ok layeredPaths := by
    decide +kernel
  have hbase : (resolveFiles layeredFiles none ["base.yaml"]).outcome =
      .ok [⟨"/", ["base.yaml"]⟩] := by decide +kernel
  have hexpand : Glob.expand layeredFiles "/" "**/base.yaml" =
      .ok ["base.yaml", "types/node_modules/base.yaml"] := by decide +kernel
  have hkept : isKept layeredFiles ⟨"/", []⟩ "**/base.yaml" "base.yaml" = true := by decide +kernel
  have hignored : isKept layeredFiles ⟨"/", []⟩ "**/base.yaml" "types/node_modules/base.yaml" =
      false := by decide +kernel
  refine ⟨hfiles, (hunique _ _ hfiles).1,
    happend ["base.yaml"] ["types/*.yaml"] _ (by decide) hfiles, ?_,
    ⟨"base.yaml", hkept, _, hexpand, List.mem_cons_self⟩, ?_⟩
  · obtain ⟨earlier, texts, later, hearlier, hadds, heq⟩ :=
      hbetween ["base.yaml"] "types/*.yaml" [] _ hfiles
    obtain rfl := Except.ok.inj (hbase.symm.trans (hearlier.2 (by decide)))
    exact ⟨texts, later, hadds, heq⟩
  · refine (hsame layeredPatterns "**/base.yaml" (by decide) (.inr ⟨_, _, hfiles, hexpand,
      fun text htext => ?_⟩)).1.trans hfiles
    obtain ⟨hkept, found, hfound, hmem⟩ := htext
    obtain rfl := Except.ok.inj (hexpand.symm.trans hfound)
    simp only [List.mem_cons, List.not_mem_nil, or_false] at hmem
    obtain rfl | rfl := hmem
    · decide +kernel
    · exact absurd (hkept.symm.trans hignored) (by decide)

end Metadata

end OperationCatalog
