import OperationCatalog.Command.Run
import OperationCatalog.Proofs.Config.Overriding

/-!
# The configuration of a run

Each setting of a run is what the command line gives for it, if it gives anything; otherwise what
the configuration file says; otherwise what it is by default
(`OperationCatalog.Command.configuration_of_options`). A file that is read as YAML never makes a run
end in anything but a wrong configuration: it is no mapping, or what it says is wrong, even if the
command line gives something else for it.

A file that is not read is another matter. Its fault is passed on as it is.
-/

namespace OperationCatalog.Command

open Config (Said SaidIn Options ofValue isIdentifier)

/-- What a command line gives for the settings of a run. -/
def Given.options (given : Given) : Options :=
  ⟨given.values .metadata, given.last? .namespaceName, given.last? .documentsImport⟩

/-- **The configuration of a run** and the directory that its patterns are relative to, as the task
that generates a module has them. -/
def configuration (w : Workspace) (path : Option Path) (given : Given) :
    Logged Stop (Config × Option Path) :=
  (Config.resolve w path (overrides given) (given.values .metadata)).mapError configurationStop

section

variable {w : Workspace} {path : Option Path} {given : Given} {config : Config}
  {root : Option Path} {stop : Stop}

theorem configuration_eq_ok_iff : (configuration w path given).outcome = .ok (config, root) ↔
    ∃ said, SaidIn w path said ∧ (∀ name ∈ given.last? .namespaceName, isIdentifier name = true) ∧
      given.options.appliedTo said.config = config ∧
      Config.patternRoot path (given.values .metadata) = root := by
  have hentries : overrides given = given.options.entries := rfl
  unfold configuration
  rw [Logged.outcome_mapError, mapError_eq_ok_iff, hentries]
  refine Config.resolve_eq_ok_iff.trans (exists_congr fun said => ?_)
  exact and_congr_right fun hsaid => and_congr_left' hsaid.valid_iff

/-- There is no configuration exactly if the file says nothing, or if the namespace that the command
line gives is wrong. -/
theorem configuration_eq_error_iff : (∃ stop, (configuration w path given).outcome = .error stop) ↔
    (¬∃ said, SaidIn w path said) ∨
      ∃ name ∈ given.last? .namespaceName, isIdentifier name = false := by
  have hok : (∃ resolved, (configuration w path given).outcome = .ok resolved) ↔
      (∃ said, SaidIn w path said) ∧
        ∀ name ∈ given.last? .namespaceName, isIdentifier name = true := by
    constructor
    · rintro ⟨⟨config, root⟩, h⟩
      obtain ⟨said, hsaid, hname, -⟩ := configuration_eq_ok_iff.mp h
      exact ⟨⟨said, hsaid⟩, hname⟩
    · rintro ⟨⟨said, hsaid⟩, hname⟩
      exact ⟨(_, _), configuration_eq_ok_iff.mpr ⟨said, hsaid, hname, rfl, rfl⟩⟩
  rw [← not_iff_not, not_exists, ← exists_eq_ok_iff, hok]
  simp

/-- **A configuration that is refused** though the file is read is a wrong configuration. -/
theorem stop_of_configuration (hread : ∀ file ∈ path, ∃ g, w.readYaml file = .ok g)
    (h : (configuration w path given).outcome = .error stop) :
    ∃ fault, stop = .failed (.configuration fault) := by
  obtain ⟨fault, hfault, rfl⟩ := mapError_eq_error_iff.mp h
  cases fault with
  | document fault =>
    obtain ⟨file, hfile, hfault⟩ := Config.readYaml_of_resolve_eq_error hfault
    obtain ⟨g, hg⟩ := hread file hfile
    simp [hg] at hfault
  | notMapping _ | invalid _ => exact ⟨_, rfl⟩

end

/-- **The settings of a run**, as the command line and the configuration file call for them. -/
theorem configuration_of_options (w : Workspace) (path : Option Path) (given : Given) :
    (∀ config root, (configuration w path given).outcome = .ok (config, root) →
      (∃ said, SaidIn w path said ∧
        config.metadata = (if given.values .metadata = [] then said.metadata.getD []
          else given.values .metadata) ∧
        config.namespaceName =
          (given.last? .namespaceName).getD (said.namespaceName.getD "GraphQLInputTypes") ∧
        config.documentSuffix = said.documentSuffix.getD "Document" ∧
        config.documentsImport =
          (given.last? .documentsImport).or (said.documentsImport.getD none)) ∧
      ∀ directory, root = some directory ↔
        given.values .metadata = [] ∧ ∃ file, path = some file ∧ file.parent = directory) ∧
    ((∀ file ∈ path, ∃ g, w.readYaml file = .ok g) →
      ((∃ stop, (configuration w path given).outcome = .error stop) ↔
        (∃ file ∈ path, ∃ g, w.readYaml file = .ok g ∧
          g.top ≠ .scalar .null ∧ ∀ entries, g.top ≠ .map entries) ∨
        (∃ file ∈ path, ∃ g entries, w.readYaml file = .ok g ∧ g.top = .map entries ∧
          ∀ said : Said, ¬said.By ⟨g, entries⟩) ∨
        ∃ name ∈ given.last? .namespaceName, isIdentifier name = false) ∧
      ∀ stop, (configuration w path given).outcome = .error stop →
        ∃ fault, stop = .failed (.configuration fault)) ∧
    ∀ g config, ofValue g = .ok config → ofValue (.ofTree (.map config.toEntries)) = .ok config := by
  refine ⟨fun config root h => ?_, fun hread => ⟨?_, fun stop h => ?_⟩, fun g config h => ?_⟩
  · obtain ⟨said, hsaid, -, rfl, rfl⟩ := configuration_eq_ok_iff.mp h
    refine ⟨⟨said, hsaid, rfl, rfl, rfl, rfl⟩, fun directory => ?_⟩
    rcases hpatterns : given.values .metadata with _ | ⟨pattern, patterns⟩
    · simp [Config.patternRoot]
    · simp [Config.patternRoot]
  · rw [configuration_eq_error_iff, ← or_assoc]
    refine or_congr_left ?_
    cases path with
    | none =>
      have hsaid : ∃ said, SaidIn w none said := ⟨_, .noFile⟩
      simp [hsaid]
    | some file =>
      obtain ⟨g, hg⟩ := hread file rfl
      rw [Config.not_exists_saidIn_iff hg]
      simp [hg]
  · exact stop_of_configuration hread h
  · exact Config.ofValue_toEntries.mpr ⟨Config.ofValue_eq_ok h, rfl⟩

/-- A configuration file that calls two of the settings by either of their names. -/
def settingsFiles : Workspace :=
  ⟨.dir [("conf", .dir [("c.yaml", .file
    "metadata: [m.yaml]\nnamespace: Own\ndocumentSuffix: Doc\ndocuments_import: ./q\n".toUTF8)])],
    []⟩

/-- A namespace on the command line replaces that of the file, and nothing else of it. -/
theorem configuration_of_options_settingsFiles :
    (configuration settingsFiles (some (.ofString "conf/c.yaml"))
        [(.namespaceName, "Given")]).outcome =
      .ok (⟨["m.yaml"], "Given", "Doc", some "./q"⟩, some (.ofString "conf")) ∧
      ∃ said, SaidIn settingsFiles (some (.ofString "conf/c.yaml")) said ∧
        said.metadata.getD [] = ["m.yaml"] ∧ said.documentSuffix.getD "Document" = "Doc" := by
  have hresolved : (configuration settingsFiles (some (.ofString "conf/c.yaml"))
      [(.namespaceName, "Given")]).outcome =
        .ok (⟨["m.yaml"], "Given", "Doc", some "./q"⟩, some (.ofString "conf")) :=
    toOption_eq_some_iff.mp (by decide +kernel)
  obtain ⟨⟨said, hsaid, hmetadata, -, hsuffix, -⟩, -⟩ :=
    (configuration_of_options settingsFiles (some (.ofString "conf/c.yaml"))
      [(.namespaceName, "Given")]).1 _ _ hresolved
  exact ⟨hresolved, said, hsaid, hmetadata.symm, hsuffix.symm⟩

end OperationCatalog.Command
