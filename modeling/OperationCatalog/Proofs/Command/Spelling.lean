import OperationCatalog.Proofs.GraphQL.Resolved
import OperationCatalog.Proofs.Metadata.Ignored

/-!
# Paths that lead to one file

Two files of a run are told apart by their paths. A path spells a place: its components are followed
without looking at the files, and two dots take back the component before
(`OperationCatalog.Workspace.spelled`). As there are no links, a path that leads anywhere leads to
the place that it spells, so two paths lead to one file exactly if both spell its place
(`OperationCatalog.Workspace.sameFile_iff`). That is less than being the same path: a path from the
root and one from the current directory can spell one place, and so can two paths of which one has
two dots.

Paths that go inwards from one base (`OperationCatalog.Path.Inwards`) spell different places unless
they are the same. So no file is taken twice if the patterns or the paths of a run do
(`OperationCatalog.Command.files_distinct`), and otherwise one can be
(`OperationCatalog.Command.sameFile_detourFiles`).
-/

namespace OperationCatalog

variable {w : Workspace} {p q base : Path}

/-! ### Spelled places -/

namespace Workspace

/-- One component, followed without looking at the files. -/
def spell (here : List String) (part : String) : List String :=
  if part = ".." then here.dropLast else here ++ [part]

/-- **The place that a path spells.** -/
def spelled (w : Workspace) (p : Path) : List String := p.parts.foldl spell (w.origin p)

/-- **A path leads to the place that it spells**, if it leads anywhere. -/
theorem Reaches.eq_spelled {place : List String} (hp : p.Plain) (h : w.Reaches p place) :
    place = w.spelled p := by
  unfold Reaches at h
  unfold spelled
  obtain ⟨-, hbusy, -⟩ := hp
  -- components are followed from some place on, whichever it is
  generalize w.origin p = here at h ⊢
  generalize p.parts = parts at h hbusy ⊢
  induction parts generalizing here with
  | nil => exact (Except.ok.inj h).symm
  | cons part parts ih =>
    obtain ⟨hfirst, hrest⟩ := List.forall_mem_cons.mp hbusy
    rw [List.foldlM_cons] at h
    obtain ⟨next, hnext, h⟩ := bind_eq_ok_iff.mp h
    rw [List.foldl_cons, ih _ h hrest]
    obtain ⟨-, ⟨hidle, -⟩ | ⟨rfl, rfl⟩ | ⟨-, hdots, -, rfl, -⟩⟩ := step_eq_ok_iff.mp hnext
    · exact absurd hidle hfirst
    · rw [spell, if_pos rfl]
    · rw [spell, if_neg hdots]

/-- **Two paths lead to one file.** -/
def SameFile (w : Workspace) (p q : Path) : Prop :=
  ∃ place content, w.locate p.text = .ok place ∧ w.locate q.text = .ok place ∧
    w.node? place = some (.file content)

/-- **Two paths lead to one file** exactly if both lead to files and spell one place. -/
theorem sameFile_iff (hp : p.Plain) (hq : q.Plain) : w.SameFile p q ↔
    w.isFile p.text = true ∧ w.isFile q.text = true ∧ w.spelled p = w.spelled q := by
  have hplace : ∀ {p : Path} {place}, p.Plain → w.locate p.text = .ok place → place = w.spelled p :=
    fun hp h => ((locate_text_iff hp).mp h).2.2.2.eq_spelled hp
  constructor
  · rintro ⟨place, content, hlocate, hlocate', hfile⟩
    exact ⟨isFile_iff.mpr ⟨place, content, hlocate, hfile⟩,
      isFile_iff.mpr ⟨place, content, hlocate', hfile⟩,
      (hplace hp hlocate).symm.trans (hplace hq hlocate')⟩
  · rintro ⟨hfile, hfile', hsame⟩
    obtain ⟨place, content, hlocate, hnode⟩ := isFile_iff.mp hfile
    obtain ⟨other, -, hlocate', -⟩ := isFile_iff.mp hfile'
    rw [← hplace hp hlocate, ← hplace hq hlocate'] at hsame
    exact ⟨place, content, hlocate, hsame ▸ hlocate', hnode⟩

theorem spelled_join {names : List String} (h : ".." ∉ names) :
    w.spelled (base.join ⟨"", names⟩) = w.spelled base ++ names := by
  have hnames : ∀ (names : List String) (here : List String), ".." ∉ names →
      names.foldl spell here = here ++ names := by
    intro names
    induction names with
    | nil => intro here _; exact (List.append_nil here).symm
    | cons name names ih =>
      intro here h
      obtain ⟨hne, h⟩ := not_or.mp (mt List.mem_cons.mpr h)
      rw [List.foldl_cons, ih _ h, spell, if_neg (Ne.symm hne), List.append_assoc,
        List.singleton_append]
  exact (List.foldl_append ..).trans (hnames names _ h)

end Workspace

/-! ### Paths inwards from one base -/

namespace Path

/-- **A path goes inwards from a base**: after the base it does not lead out. -/
def Inwards (base p : Path) : Prop := ∃ names, p = base.join ⟨"", names⟩ ∧ ".." ∉ names

theorem inwards_self (p : Path) : Inwards p p := ⟨[], (join_nowhere p).symm, by simp⟩

theorem Inwards.join (h : Inwards base p) {names : List String} (hnames : ".." ∉ names) :
    Inwards base (p.join ⟨"", names⟩) := by
  obtain ⟨first, rfl, hfirst⟩ := h
  refine ⟨first ++ names, ?_, fun hmem => (List.mem_append.mp hmem).elim hfirst hnames⟩
  rw [join_assoc]
  rfl

/-- **Paths inwards from one base** spell different places, unless they are the same. -/
theorem eq_of_inwards (hp : Inwards base p) (hq : Inwards base q)
    (h : w.spelled p = w.spelled q) : p = q := by
  obtain ⟨names, rfl, hnames⟩ := hp
  obtain ⟨names', rfl, hnames'⟩ := hq
  rw [Workspace.spelled_join hnames, Workspace.spelled_join hnames'] at h
  rw [List.append_cancel_left h]

/-- Of different paths inwards from one base, no two lead to one file. -/
theorem pairwise_not_sameFile {paths : List Path} (hnodup : paths.Nodup)
    (hplain : ∀ p ∈ paths, p.Plain) (hinwards : ∀ p ∈ paths, Inwards base p) :
    paths.Pairwise fun p q => ¬w.SameFile p q := by
  refine hnodup.imp_of_mem fun hp hq hne hsame => hne ?_
  have hspelled := ((Workspace.sameFile_iff (hplain _ hp) (hplain _ hq)).mp hsame).2.2
  exact eq_of_inwards (hinwards _ hp) (hinwards _ hq) hspelled

end Path

/-! ### What patterns and paths stand for -/

/-- **Where a pattern is followed from**: the root that was given, or the one that the pattern
itself starts with. -/
def Metadata.startOf (w : Workspace) (given : Option Path) (pattern : String) : Path :=
  (given.getD w.currentPath).join ⟨(Path.ofString pattern).root, []⟩

/-- A relative pattern is followed from the root that was given. -/
theorem Metadata.inwards_startOf {given : Option Path} {pattern : String}
    (h : (Path.ofString pattern).isAbsolute = false) :
    (given.getD w.currentPath).Inwards (startOf w given pattern) := by
  have hroot : (Path.ofString pattern).root = "" := by simpa [Path.isAbsolute] using h
  rw [startOf, hroot, Path.join_nowhere]
  exact Path.inwards_self _

/-- What patterns without two dots stand for goes inwards from where they are followed from. -/
theorem Metadata.inwards_of_mem_resolveFiles (hw : w.root.Proper) {given : Option Path}
    {patterns : List String} {files : List Path}
    (h : (resolveFiles w given patterns).outcome = .ok files)
    (hpatterns : ∀ pattern ∈ patterns, base.Inwards (startOf w given pattern) ∧
      ".." ∉ (Path.ofString pattern).parts) : ∀ path ∈ files, base.Inwards path := by
  intro path hpath
  obtain ⟨pattern, hpattern, text, hfinds, rfl⟩ := (mem_resolveFiles_iff h).mp hpath
  have halong := (finds_iff.mp hfinds).1.along hw
  obtain ⟨hstart, hdots⟩ := hpatterns pattern hpattern
  have hjoin : foundPath w given text =
      (startOf w given pattern).join ⟨"", (Path.ofString text).parts⟩ := by
    -- the text starts with the root of its pattern
    rw [startOf, ← halong.root, Path.join_assoc]
    rfl
  rw [hjoin]
  exact hstart.join fun hout => hdots (halong.outwards hout)

/-- What paths stand for goes inwards from where they do. -/
theorem GraphQL.inwards_of_mem_filesOf (hw : w.Proper) {paths : List Path}
    (hpaths : ∀ p ∈ paths, base.Inwards p) : ∀ path ∈ filesOf w paths, base.Inwards path := by
  intro path hpath
  rcases (mem_filesOf_iff hw).mp hpath with ⟨hmem, -⟩ | ⟨p, hp, hbelow, -⟩
  · exact hpaths path hmem
  · obtain ⟨place, names, content, -, -, hfile, rfl⟩ := hbelow
    have hthere : w.node? (place ++ names) ≠ none := by simp [hfile]
    have hnames := hw.tree.isName hthere
    exact (hpaths p hp).join fun hout =>
      (hnames ".." (List.mem_append_right _ hout)).leading.inwards rfl

/-! ### Main result -/

namespace Command

/-- **Which paths lead to one file.** The metadata files of a run are different paths that lead to
files, and so are the files that paths stand for. Two of them lead to one file exactly if they
spell one place, and no two do if all of them go inwards from one base, because the patterns or the
paths do. -/
theorem files_distinct (w : Workspace) (hw : w.Proper) :
    (∀ p q : Path, p.Plain → q.Plain → (w.SameFile p q ↔
      w.isFile p.text = true ∧ w.isFile q.text = true ∧ w.spelled p = w.spelled q)) ∧
    (∀ given patterns files, (∀ root ∈ given, root.Plain) →
      (Metadata.resolveFiles w given patterns).outcome = .ok files →
        (∀ path ∈ files, path.Plain ∧ w.isFile path.text = true) ∧ files.Nodup ∧
        (files.Pairwise (fun p q => ¬w.SameFile p q) ↔ (files.map w.spelled).Nodup) ∧
        ∀ base : Path, (∀ pattern ∈ patterns, base.Inwards (Metadata.startOf w given pattern) ∧
            ".." ∉ (Path.ofString pattern).parts) →
          files.Pairwise fun p q => ¬w.SameFile p q) ∧
    ∀ paths, (∀ p ∈ paths, p.Plain) →
      (∀ path ∈ GraphQL.filesOf w paths, path.Plain) ∧ (GraphQL.filesOf w paths).Nodup ∧
      ∀ base : Path, (∀ p ∈ paths, base.Inwards p) →
        (GraphQL.filesOf w paths).Pairwise fun p q => ¬w.SameFile p q := by
  refine ⟨fun p q => Workspace.sameFile_iff, fun given patterns files hgiven hfiles => ?_,
    fun paths hpaths => ?_⟩
  · have hroot : (given.getD w.currentPath).Plain := by
      cases given with
      | none => exact hw.sound.plain
      | some root => exact hgiven root rfl
    have hplain := Metadata.plain_of_mem_resolveFiles hroot hfiles
    have hisFile : ∀ path ∈ files, w.isFile path.text = true := by
      intro path hpath
      obtain ⟨pattern, -, text, hfinds, rfl⟩ := (Metadata.mem_resolveFiles_iff hfiles).mp hpath
      exact hfinds.isFile
    have hnodup := Metadata.nodup_of_resolveFiles hfiles
    refine ⟨fun path hpath => ⟨hplain path hpath, hisFile path hpath⟩, hnodup, ?_,
      fun base hpatterns => ?_⟩
    · rw [List.Nodup, List.pairwise_map]
      refine List.Pairwise.iff_of_mem fun {p q} hp hq => not_congr ?_
      rw [Workspace.sameFile_iff (hplain p hp) (hplain q hq)]
      simp [hisFile p hp, hisFile q hq]
    · exact Path.pairwise_not_sameFile hnodup hplain
        (Metadata.inwards_of_mem_resolveFiles hw.tree hfiles hpatterns)
  · have hplain : ∀ path ∈ GraphQL.filesOf w paths, path.Plain := fun _ =>
      GraphQL.plain_of_mem_filesOf hw hpaths
    exact ⟨hplain, Path.nodup_sorted _, fun base hbase =>
      Path.pairwise_not_sameFile (Path.nodup_sorted _) hplain
        (GraphQL.inwards_of_mem_filesOf hw hbase)⟩

/-- Two files, and a directory that a path can go through. -/
def detourFiles : Workspace :=
  ⟨.dir [("a.json", .file ⟨#[]⟩), ("d", .dir []), ("q.gql", .file ⟨#[]⟩)], []⟩

theorem files_distinct_detourFiles : detourFiles.Proper ∧
    (∃ files, (Metadata.resolveFiles detourFiles none ["*.json", "./a.json"]).outcome = .ok files ∧
      ⟨"/", ["a.json"]⟩ ∈ files ∧ files.Pairwise fun p q => ¬detourFiles.SameFile p q) ∧
    (GraphQL.filesOf detourFiles [⟨"", ["q.gql"]⟩, ⟨"", []⟩]).Pairwise fun p q =>
      ¬detourFiles.SameFile p q := by
  have hproper : detourFiles.Proper := by decide +kernel
  obtain ⟨-, hpatterns, hpaths⟩ := files_distinct detourFiles hproper
  have hfiles : (Metadata.resolveFiles detourFiles none ["*.json", "./a.json"]).outcome =
      .ok [⟨"/", ["a.json"]⟩] := by decide +kernel
  refine ⟨hproper, ⟨_, hfiles, List.mem_cons_self, ?_⟩, ?_⟩
  · have hrelative : ∀ pattern ∈ ["*.json", "./a.json"],
        (Path.ofString pattern).isAbsolute = false ∧ ".." ∉ (Path.ofString pattern).parts := by
      decide +kernel
    exact (hpatterns none _ _ (by simp) hfiles).2.2.2 detourFiles.currentPath
      fun pattern hpattern => ⟨Metadata.inwards_startOf (hrelative pattern hpattern).1,
        (hrelative pattern hpattern).2⟩
  · refine (hpaths _ (by decide +kernel)).2.2 ⟨"", []⟩ fun p hp => ⟨p.parts, ?_, ?_⟩
    · revert p
      decide +kernel
    · revert p
      decide +kernel

/-- **A file can be taken twice**: as a metadata file, where one pattern makes a detour, and as a
file of the language, where one path is relative and another is not. -/
theorem sameFile_detourFiles :
    (Metadata.resolveFiles detourFiles none ["a.json", "d/../a.json"]).outcome =
      .ok [⟨"/", ["a.json"]⟩, ⟨"/", ["d", "..", "a.json"]⟩] ∧
    detourFiles.SameFile ⟨"/", ["a.json"]⟩ ⟨"/", ["d", "..", "a.json"]⟩ ∧
    ⟨"", ["q.gql"]⟩ ∈ GraphQL.filesOf detourFiles [⟨"", ["q.gql"]⟩, ⟨"/", ["q.gql"]⟩] ∧
    ⟨"/", ["q.gql"]⟩ ∈ GraphQL.filesOf detourFiles [⟨"", ["q.gql"]⟩, ⟨"/", ["q.gql"]⟩] ∧
    detourFiles.SameFile ⟨"", ["q.gql"]⟩ ⟨"/", ["q.gql"]⟩ := by
  refine ⟨by decide +kernel, ⟨["a.json"], ⟨#[]⟩, ?_⟩, ?_, ?_, ⟨["q.gql"], ⟨#[]⟩, ?_⟩⟩
  · decide +kernel
  · exact GraphQL.mem_filesOf.mpr ⟨⟨"", ["q.gql"]⟩, by decide, by decide +kernel⟩
  · exact GraphQL.mem_filesOf.mpr ⟨⟨"/", ["q.gql"]⟩, by decide, by decide +kernel⟩
  · decide +kernel

end Command

end OperationCatalog
