import OperationCatalog.Proofs.Config.Said

/-!
# Settings with options over them

The settings of a run are those of its file with what the command line gives put over them. This is
a detour: the settings are written as a mapping, under the names that need no other, values are put
into the mapping, and it is checked again. The detour loses nothing. A configuration is accepted
again as what it is (`OperationCatalog.Config.ofValue_toEntries`), and what the command line gives
replaces the setting that it is given for and no other
(`OperationCatalog.Config.overridden_eq_ok_iff`).

So the settings of a run are what the file says, with the options put over it
(`OperationCatalog.Config.resolve_eq_ok_iff`), and the second check refuses nothing but a namespace
of the command line (`OperationCatalog.Config.SaidIn.valid_iff`).
-/

namespace OperationCatalog.Config

open Validation

/-! ### Configurations as mappings -/

/-- **A configuration that is accepted**, wherever it comes from. -/
def Valid (c : Config) : Prop :=
  isIdentifier c.namespaceName = true ∧ isIdentifierPart c.documentSuffix = true

instance (c : Config) : Decidable c.Valid := inferInstanceAs (Decidable (_ ∧ _))

/-- All that a configuration says as a mapping. -/
def said (c : Config) : Said :=
  ⟨some c.metadata, some c.namespaceName, some c.documentSuffix, some c.documentsImport⟩

section

variable {α : Type} {entries : List (Scalar × Value)} {name : String} {others : List String}
  {v : Value} {check : ValueGraph → Checked α} {a : α}

theorem says_of_find? (hname : name ∈ others) (hfind : Value.find? name entries = some v)
    (hothers : ∀ other ∈ others, other ≠ name → Value.find? other entries = none)
    (hcheck : check (.ofTree v) = .ok a) : Says (Entries.ofTree entries) others check (some a) := by
  refine .value hname (g := .ofTree v) ?_ (fun other hother hne => ?_) hcheck
  · rw [get?_ofTree, hfind]
    rfl
  · rw [get?_ofTree, hothers other hother hne]
    rfl

end

/-- What the mapping of a configuration has under the names of the settings. -/
theorem find?_toEntries (c : Config) :
    Value.find? "metadata" c.toEntries = some (.list (c.metadata.map .text)) ∧
      Value.find? "namespace" c.toEntries = some (.text c.namespaceName) ∧
      Value.find? "document_suffix" c.toEntries = some (.text c.documentSuffix) ∧
      Value.find? "documents_import" c.toEntries =
        some ((c.documentsImport.map Value.text).getD .null) ∧
      Value.find? "documentSuffix" c.toEntries = none ∧
      Value.find? "documentsImport" c.toEntries = none := by
  simp [toEntries, Value.find?_cons, Value.find?_nil]

/-- **A configuration as a mapping** is accepted exactly if it was, and it is the same again. -/
theorem ofValue_toEntries {c config : Config} :
    ofValue (.ofTree (.map c.toEntries)) = .ok config ↔ c.Valid ∧ c = config := by
  obtain ⟨hmetadata, hnamespace, hsuffix, hsource, hnoSuffix, hnoSource⟩ := find?_toEntries c
  have hpatterns : listOf text (.ofTree (.list (c.metadata.map .text))) = .ok c.metadata :=
    listOf_map fun _ _ => rfl
  have himport : nullable text (.ofTree ((c.documentsImport.map Value.text).getD .null)) =
      .ok c.documentsImport := by
    cases c.documentsImport <;> rfl
  replace hmetadata : Says (Entries.ofTree c.toEntries) ["metadata"] (listOf text)
      (some c.metadata) := says_of_find? (by simp) hmetadata (by simp) hpatterns
  replace hnamespace : Says (Entries.ofTree c.toEntries) ["namespace"] text
      (some c.namespaceName) := says_of_find? (by simp) hnamespace (by simp) rfl
  replace hsuffix : Says (Entries.ofTree c.toEntries) ["documentSuffix", "document_suffix"] text
      (some c.documentSuffix) := says_of_find? (by simp) hsuffix (by simp [hnoSuffix]) rfl
  replace hsource : Says (Entries.ofTree c.toEntries) ["documentsImport", "documents_import"]
      (nullable text) (some c.documentsImport) :=
    says_of_find? (by simp) hsource (by simp [hnoSource]) himport
  have hknown : ∀ entry ∈ c.toEntries, ∃ name ∈ settingNames, entry.1 = .str name := by
    simp [toEntries, settingNames]
  change ofEntries (Entries.ofTree c.toEntries) = .ok config ↔ _
  rw [ofEntries_eq_ok_iff]
  constructor
  · rintro ⟨⟨_, _, _, _⟩, h, rfl⟩
    obtain rfl := h.metadata.unique hmetadata
    obtain rfl := h.namespaceName.unique hnamespace
    obtain rfl := h.documentSuffix.unique hsuffix
    obtain rfl := h.documentsImport.unique hsource
    exact ⟨⟨h.identifier _ rfl, h.part _ rfl⟩, rfl⟩
  · rintro ⟨⟨hidentifier, hpart⟩, rfl⟩
    exact ⟨c.said, ⟨hknown, hmetadata, hnamespace, hsuffix, hsource,
      by simpa [said] using hidentifier, by simpa [said] using hpart⟩, rfl⟩

/-! ### Overriding -/

/-- **What a command line gives** for the settings of a run. -/
structure Options where
  /-- The patterns of the metadata files. -/
  patterns : List String
  /-- The namespace of the generated declarations, if it is given. -/
  namespaceName : Option String
  /-- The module that documents are imported from, if it is given. -/
  documentsImport : Option String

namespace Options

/-- The options as entries, in the form that settings are overridden by. -/
def entries (o : Options) : List (Scalar × Value) :=
  [(.str "namespace", (o.namespaceName.map Value.text).getD .null),
    (.str "documents_import", (o.documentsImport.map Value.text).getD .null)]

/-- **The settings with the options put over them**, each over its own. -/
def appliedTo (o : Options) (c : Config) : Config where
  metadata := if o.patterns = [] then c.metadata else o.patterns
  namespaceName := o.namespaceName.getD c.namespaceName
  documentSuffix := c.documentSuffix
  documentsImport := o.documentsImport.or c.documentsImport

end Options

theorem overridden_eq (c : Config) (o : Options) :
    c.overridden o.entries o.patterns = ofValue (.ofTree (.map (o.appliedTo c).toEntries)) := by
  obtain ⟨patterns, namespaceName, documentsImport⟩ := o
  have hentries : override c.toEntries (Options.entries ⟨patterns, namespaceName, documentsImport⟩) =
      toEntries { c with
        namespaceName := namespaceName.getD c.namespaceName
        documentsImport := documentsImport.or c.documentsImport } := by
    cases namespaceName <;> cases documentsImport <;>
      simp [override, Options.entries, toEntries, Value.put, Value.null, Value.text]
  unfold overridden
  rw [hentries]
  cases patterns <;> simp [Options.appliedTo, toEntries, Value.put]

/-- **Overridden settings** are accepted exactly if what is over the others is, and they are that. -/
theorem overridden_eq_ok_iff {c config : Config} {o : Options} :
    c.overridden o.entries o.patterns = .ok config ↔ (o.appliedTo c).Valid ∧ o.appliedTo c = config := by
  rw [overridden_eq, ofValue_toEntries]

/-! ### Files -/

/-- **What a file says about the settings of a run**: nothing if there is no file, or if it is empty;
otherwise it is a mapping. -/
inductive SaidIn (w : Workspace) : Option Path → Said → Prop where
  /-- There is no file. -/
  | noFile : SaidIn w none {}
  /-- The file holds no value. -/
  | blank {file : Path} {g : ValueGraph} : w.readYaml file = .ok g → g.top = .scalar .null →
      SaidIn w (some file) {}
  /-- The file is a mapping. -/
  | mapping {file : Path} {g : ValueGraph} {entries : List (Scalar × Value)} {said : Said} :
      w.readYaml file = .ok g → g.top = .map entries → said.By ⟨g, entries⟩ →
      SaidIn w (some file) said

section

variable {w : Workspace} {path : Option Path} {file : Path} {g : ValueGraph} {said : Said}
  {config : Config} {o : Options} {root : Option Path}

theorem ofDocument_eq_ok_iff : ofDocument g = .ok config ↔
    g.top = .scalar .null ∧ config = {} ∨
      ∃ entries, g.top = .map entries ∧ ofEntries ⟨g, entries⟩ = .ok config := by
  unfold ofDocument
  split
  · rename_i htop
    simp [htop, eq_comm]
  · rename_i entries htop
    have hvalue : ofValue g = ofEntries ⟨g, entries⟩ := by
      unfold ofValue Validation.entries
      rw [htop]
      rfl
    rw [mapError_eq_ok_iff, hvalue]
    simp [htop]
  · rename_i hnull hmap
    simp only [reduceCtorEq, false_iff, not_or, not_and, not_exists]
    exact ⟨fun h => absurd h hnull, fun entries h => absurd h (hmap entries)⟩

theorem load_eq_ok_iff :
    (load w path).outcome = .ok config ↔ ∃ said, SaidIn w path said ∧ said.config = config := by
  cases path with
  | none =>
    constructor
    · intro h
      exact ⟨{}, .noFile, Except.ok.inj h⟩
    · rintro ⟨_, ⟨⟩, rfl⟩
      rfl
  | some file =>
    rw [outcome_load_some, bind_eq_ok_iff]
    simp only [mapError_eq_ok_iff, ofDocument_eq_ok_iff, ofEntries_eq_ok_iff]
    constructor
    · rintro ⟨g, hread, ⟨htop, rfl⟩ | ⟨entries, htop, said, hby, rfl⟩⟩
      · exact ⟨{}, .blank hread htop, rfl⟩
      · exact ⟨said, .mapping hread htop hby, rfl⟩
    · rintro ⟨said, hsaid, rfl⟩
      cases hsaid with
      | blank hread htop => exact ⟨_, hread, Or.inl ⟨htop, rfl⟩⟩
      | mapping hread htop hby => exact ⟨_, hread, Or.inr ⟨_, htop, said, hby, rfl⟩⟩

/-- **The settings of a run** are those that the file says, with the options put over them. -/
theorem resolve_eq_ok_iff :
    (resolve w path o.entries o.patterns).outcome = .ok (config, root) ↔
      ∃ said, SaidIn w path said ∧ (o.appliedTo said.config).Valid ∧
        o.appliedTo said.config = config ∧ patternRoot path o.patterns = root := by
  rw [outcome_resolve, bind_eq_ok_iff]
  simp only [bind_eq_ok_iff, mapError_eq_ok_iff, overridden_eq_ok_iff, pure_eq_ok_iff, load_eq_ok_iff,
    Prod.mk.injEq]
  constructor
  · rintro ⟨_, ⟨said, hsaid, rfl⟩, _, ⟨hvalid, rfl⟩, rfl, rfl⟩
    exact ⟨said, hsaid, hvalid, rfl, rfl⟩
  · rintro ⟨said, hsaid, hvalid, rfl, rfl⟩
    exact ⟨_, ⟨said, hsaid, rfl⟩, _, ⟨hvalid, rfl⟩, rfl, rfl⟩

/-- Of what is said by a file and given by options, only a namespace that is given can be wrong. -/
theorem SaidIn.valid_iff (h : SaidIn w path said) :
    (o.appliedTo said.config).Valid ↔ ∀ name ∈ o.namespaceName, isIdentifier name = true := by
  have hsaid : isIdentifier said.config.namespaceName = true ∧
      isIdentifierPart said.config.documentSuffix = true := by
    obtain ⟨hname, hpart⟩ : (∀ name ∈ said.namespaceName, isIdentifier name = true) ∧
        ∀ suffix ∈ said.documentSuffix, isIdentifierPart suffix = true := by
      cases h with
      | noFile | blank _ _ => simp
      | mapping _ _ hby => exact ⟨hby.identifier, hby.part⟩
    unfold Said.config
    constructor
    · rcases hgiven : said.namespaceName with _ | name
      · exact (by decide : isIdentifier "GraphQLInputTypes" = true)
      · exact hname name hgiven
    · rcases hgiven : said.documentSuffix with _ | suffix
      · exact (by decide : isIdentifierPart "Document" = true)
      · exact hpart suffix hgiven
  unfold Valid Options.appliedTo
  rcases o.namespaceName with _ | name
  · simpa using hsaid
  · simpa using fun _ => hsaid.2

/-- **A file that is read says nothing** if it is neither empty nor a mapping, or if it is a mapping
that says something else. -/
theorem not_exists_saidIn_iff (hread : w.readYaml file = .ok g) :
    (¬∃ said, SaidIn w (some file) said) ↔
      (g.top ≠ .scalar .null ∧ ∀ entries, g.top ≠ .map entries) ∨
        ∃ entries, g.top = .map entries ∧ ∀ said : Said, ¬said.By ⟨g, entries⟩ := by
  constructor
  · intro h
    by_cases hmap : ∃ entries, g.top = .map entries
    · obtain ⟨entries, htop⟩ := hmap
      exact Or.inr ⟨entries, htop, fun said hby => h ⟨said, .mapping hread htop hby⟩⟩
    · exact Or.inl ⟨fun hnull => h ⟨_, .blank hread hnull⟩, fun entries htop => hmap ⟨entries, htop⟩⟩
  · rintro (⟨hnull, hmap⟩ | ⟨entries, htop, hnone⟩) ⟨said, hsaid⟩
    · cases hsaid with
      | blank hread' htop =>
        obtain rfl := Except.ok.inj (hread.symm.trans hread')
        exact hnull htop
      | mapping hread' htop _ =>
        obtain rfl := Except.ok.inj (hread.symm.trans hread')
        exact hmap _ htop
    · cases hsaid with
      | blank hread' htop' =>
        obtain rfl := Except.ok.inj (hread.symm.trans hread')
        simp [htop] at htop'
      | mapping hread' htop' hby =>
        obtain rfl := Except.ok.inj (hread.symm.trans hread')
        obtain rfl := Value.map.inj (htop.symm.trans htop')
        exact hnone said hby

end

end OperationCatalog.Config
