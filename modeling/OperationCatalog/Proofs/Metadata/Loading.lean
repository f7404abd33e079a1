import OperationCatalog.Metadata.Source
import OperationCatalog.Proofs.Files.Walk
import OperationCatalog.Proofs.Json.Fault
import OperationCatalog.Proofs.Metadata.Document
import OperationCatalog.Proofs.Yaml.Fault

/-!
# What comes of a metadata file

A metadata file is read as text, then as JSON or YAML by its suffix, then as a mapping from names to
types. Of whatever it holds, one of three things comes (`OperationCatalog.Metadata.loadFile_cases`).

The file is loaded, and the table holds the types of the mapping in it. Since loading checks it, the
mapping is **sound** (`OperationCatalog.Metadata.Shape.Sound`): its keys are the names of its types,
and enumerations have values. Or there is a fault that names the file.

Or what escapes is not one of the faults that are expected of reading
(`OperationCatalog.Metadata.Unspeakable`): the path is none, an integer of JSON has too many digits,
or a scalar of YAML does not keep what its tag promises. A date that does not exist is one of these
(`OperationCatalog.Metadata.loadFile_datedFiles`).
-/

namespace OperationCatalog.Metadata

namespace Shape

open Validation

variable {g : ValueGraph} {t : InputType}

/-! ### Enumerations have values -/

/-- **One of several shapes** is that of a word, and its parts pass their check. -/
theorem tagged_eq_ok {α : Type} {shapes : List (String × (Entries → Checked α))} {a : α}
    (h : tagged shapes g = .ok a) : ∃ shape ∈ shapes.map (·.2), ∃ e, shape e = .ok a := by
  unfold tagged at h
  split at h
  · dsimp only at h
    split at h
    · simp [Checked.wrong] at h
    · split at h
      · split at h
        · rename_i check hlookup
          obtain ⟨before, after, rfl, -⟩ := List.lookup_eq_some_iff.mp hlookup
          exact ⟨check, by simp, _, Checked.under_eq_ok h⟩
        · simp [Checked.wrong] at h
      · simp [Checked.wrong] at h
  · simp [Checked.wrong] at h

theorem typeParts_eq_ok {shape : Entries → Checked TypeShape} {e : Entries}
    (h : typeParts shape e = .ok t) : shape e = .ok t.shape := by
  obtain ⟨make, s, hmake, hs, rfl⟩ := Checked.ap_eq_ok h
  obtain ⟨make, description, hname, -, rfl⟩ := Checked.ap_eq_ok hmake
  obtain ⟨name, -, rfl⟩ := map_eq_ok_iff.mp hname
  exact hs

theorem enumValues_ne_nil {values : List String} (h : enumValues g = .ok values) : values ≠ [] := by
  obtain ⟨found, -, h⟩ := bind_eq_ok_iff.mp h
  split at h
  · simp [Checked.wrong] at h
  · rename_i hempty
    obtain rfl := Except.ok.inj h
    simpa using hempty

/-- **An enumeration has values** if it passes its check. -/
theorem values_of_inputType (h : inputType g = .ok t) {values : List String}
    (hshape : t.shape = .enum values) : values ≠ [] := by
  obtain ⟨shape, hmem, e, hcheck⟩ := tagged_eq_ok h
  simp only [List.map_cons, List.map_nil, List.mem_cons, List.not_mem_nil, or_false] at hmem
  rcases hmem with rfl | rfl | rfl
  · have hparts := typeParts_eq_ok hcheck
    rw [hshape] at hparts
    simp at hparts
  · obtain ⟨found, hfound, hparts⟩ := map_eq_ok_iff.mp (typeParts_eq_ok hcheck)
    rw [hshape] at hparts
    obtain rfl := TypeShape.enum.inj hparts
    obtain ⟨part, hpart⟩ := required_eq_ok hfound
    exact enumValues_ne_nil hpart
  · obtain ⟨fields, -, hparts⟩ := map_eq_ok_iff.mp (typeParts_eq_ok hcheck)
    rw [hshape] at hparts
    simp at hparts

/-! ### Mappings -/

/-- The mapping from names to types in a part of a document, each name once. -/
def mappingIn (g : ValueGraph) : Checked (List (String × InputType)) :=
  (entries .notRecord g).bind fun e =>
    (e.optional "input" [] [] (mappingOf inputType)).map (GraphQL.byName Prod.fst)

/-- **The mapping that a document holds**, whether or not its keys are the names of its types. -/
def mapping (g : ValueGraph) : Checked (List (String × InputType)) :=
  (entries .notRecord g).bind fun e => e.optional "types" [] [] mappingIn

/-- **A mapping that can be returned**: each key is there once and is the name of its type, and
enumerations have values. -/
structure Sound (pairs : List (String × InputType)) : Prop where
  /-- No key is there twice. -/
  distinct : (pairs.map Prod.fst).Nodup
  /-- Each key is the name of its type. -/
  named : ∀ pair ∈ pairs, pair.1 = pair.2.name
  /-- Enumerations have values. -/
  values : ∀ pair ∈ pairs, ∀ values, pair.2.shape = .enum values → values ≠ []

theorem mappingIn_eq_ok {pairs : List (String × InputType)} (h : mappingIn g = .ok pairs) :
    (pairs.map Prod.fst).Nodup ∧
      ∀ pair ∈ pairs, ∀ values, pair.2.shape = .enum values → values ≠ [] := by
  obtain ⟨e, -, h⟩ := bind_eq_ok_iff.mp h
  obtain ⟨found, hfound, rfl⟩ := map_eq_ok_iff.mp h
  refine ⟨GraphQL.nodup_byName _ _, fun pair hpair values hshape => ?_⟩
  replace hpair := GraphQL.mem_of_mem_byName hpair
  rcases optional_eq_ok hfound with rfl | ⟨part, hpart⟩
  · simp at hpair
  · obtain ⟨v, hv⟩ := exists_of_mem_mappingOf hpart hpair
    exact values_of_inputType hv hshape

theorem misnamed?_eq_none_iff {pairs : List (String × InputType)} :
    misnamed? pairs = none ↔ ∀ pair ∈ pairs, pair.1 = pair.2.name := by
  simp [misnamed?, List.find?_eq_none]

theorem declarations_eq (g : ValueGraph) :
    declarations g = (mappingIn g).bind fun pairs =>
      match misnamed? pairs with
      | some (key, t) => Checked.wrong (.refused (misnamedReason key t.name))
      | none => .ok (.ofTypes (pairs.map (·.2))) := by
  have hput (pairs : List (String × InputType)) :
      pairs.foldl (fun acc pair => putPair pair.1 pair.2 acc) [] =
        GraphQL.byName Prod.fst pairs := by
    simp only [putPair_eq]
    rfl
  unfold declarations mappingIn
  rcases entries .notRecord g with issues | e
  · rfl
  · dsimp only [Except.bind]
    rcases e.optional "input" [] [] (mappingOf inputType) with issues | pairs
    · rfl
    · have hnamed := hput pairs
      dsimp only [Except.map]
      generalize GraphQL.byName Prod.fst pairs = named at hnamed ⊢
      subst hnamed
      rfl

/-- **The types that are declared** are those of a sound mapping. -/
theorem declarations_eq_ok {table : Table} (h : declarations g = .ok table) :
    ∃ pairs, mappingIn g = .ok pairs ∧ Sound pairs ∧ table.types = pairs.map (·.2) := by
  rw [declarations_eq] at h
  obtain ⟨pairs, hpairs, h⟩ := bind_eq_ok_iff.mp h
  split at h
  · simp [Checked.wrong] at h
  · rename_i hnone
    obtain rfl := Except.ok.inj h
    obtain ⟨hdistinct, hvalues⟩ := mappingIn_eq_ok hpairs
    have hnamed := misnamed?_eq_none_iff.mp hnone
    have hnames : pairs.map Prod.fst = (pairs.map (·.2)).map (·.name) := by
      rw [List.map_map]
      exact List.map_congr_left hnamed
    exact ⟨pairs, hpairs, ⟨hdistinct, hnamed, hvalues⟩, Table.types_ofTypes (hnames ▸ hdistinct)⟩

end Shape

/-! ### Files -/

variable {w : Workspace} {path : Path}

/-- **The mapping that a file holds**: one without a value holds an empty one. -/
def mappingOfFile (w : Workspace) (path : Path) (pairs : List (String × InputType)) : Prop :=
  ∃ g, w.readDocument path = .ok g ∧
    if g.isNull then pairs = [] else Shape.mapping g = .ok pairs

/-- **A fault that names a file.** -/
def SourceFault.Names (path : Path) (fault : SourceFault) : Prop :=
  (∃ cause, fault = .unreadable path cause) ∨ ∃ issues, fault = .invalid path issues

theorem SourceFault.Names.message {fault : SourceFault} (h : fault.Names path) :
    fault.message = "Cannot read metadata file " ++ path.text ∨
      fault.message = "Invalid metadata file " ++ path.text := by
  obtain ⟨cause, rfl⟩ | ⟨issues, rfl⟩ := h
  · exact Or.inl rfl
  · exact Or.inr rfl

end OperationCatalog.Metadata
