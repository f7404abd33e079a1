import OperationCatalog.Proofs.Config

/-!
# What a mapping says about the settings

A mapping is accepted as a configuration if every key is the name of a setting, no setting goes by
two names at once, and the values are what the settings take. It then says something about some of
the settings (`OperationCatalog.Config.Said.By`), and the others are what they are by default
(`OperationCatalog.Config.ofEntries_eq_ok_iff`).

That no setting goes by two names is a matter of the keys that are refused: the second name of a
setting is a stranger where the first one is there. So of the names of a setting at most one has a
value (`OperationCatalog.Config.Lone`), and which of them is looked up first does not matter.
-/

namespace OperationCatalog.Config

open Validation

/-! ### Values under a name -/

/-- **What is said under the names of a setting**: nothing, if the mapping has none of them; otherwise
what a check reads of the value, which is under one of the names only. -/
inductive Says {α : Type} (e : Entries) (names : List String) (check : ValueGraph → Checked α) :
    Option α → Prop where
  /-- None of the names is there. -/
  | nothing : (∀ name ∈ names, e.get? name = none) → Says e names check none
  /-- One of the names is there. -/
  | value {name : String} {g : ValueGraph} {a : α} : name ∈ names → e.get? name = some g →
      (∀ other ∈ names, other ≠ name → e.get? other = none) → check g = .ok a →
      Says e names check (some a)

section

variable {α : Type} {e : Entries} {key : String} {others names : List String} {default a : α}
  {check : ValueGraph → Checked α}

/-- **No setting goes by two names**: of some names at most one is there. -/
def Lone (e : Entries) (names : List String) : Prop :=
  ∀ name ∈ names, ∀ other ∈ names, name ≠ other → e.get? name = none ∨ e.get? other = none

theorem Says.lone {said : Option α} (h : Says e names check said) : Lone e names := by
  intro name hname other hother hne
  cases h with
  | nothing hnone => exact Or.inl (hnone name hname)
  | @value found _ _ _ _ hlone _ =>
    by_cases hfound : name = found
    · exact Or.inr (hlone other hother fun h => hne (hfound.trans h.symm))
    · exact Or.inl (hlone name hname hfound)

/-- What is said under some names is determined by the mapping. -/
theorem Says.unique {said said' : Option α} (h : Says e names check said)
    (h' : Says e names check said') : said = said' := by
  cases h with
  | nothing hnone =>
    cases h' with
    | nothing _ => rfl
    | value hname hget _ _ => simp [hnone _ hname] at hget
  | @value name g a hname hget hlone hcheck =>
    cases h' with
    | nothing hnone => simp [hnone _ hname] at hget
    | @value name' g' a' hname' hget' _ hcheck' =>
      have hsame : name' = name := by
        by_contra hne
        simp [hlone name' hname' hne] at hget'
      subst hsame
      obtain rfl : g = g' := Option.some.inj (hget.symm.trans hget')
      exact congrArg some (Except.ok.inj (hcheck.symm.trans hcheck'))

theorem first?_eq_none_iff : e.first? names = none ↔ ∀ name ∈ names, e.get? name = none := by
  unfold Entries.first?
  simp only [List.findSome?_eq_none_iff, Option.map_eq_none_iff]

theorem mem_of_first? {found : String} {g : ValueGraph} (h : e.first? names = some (found, g)) :
    found ∈ names ∧ e.get? found = some g := by
  obtain ⟨name, hname, hfound⟩ := List.exists_of_findSome?_eq_some h
  obtain ⟨_, hget, hpair⟩ := Option.map_eq_some_iff.mp hfound
  obtain ⟨rfl, rfl⟩ := Prod.mk.inj hpair
  exact ⟨hname, hget⟩

/-- **A part that may be missing** is what is said under its names, or what it is by default. -/
theorem optional_eq_ok_iff (hlone : Lone e (key :: others)) :
    e.optional key others default check = .ok a ↔
      ∃ said, Says e (key :: others) check said ∧ said.getD default = a := by
  unfold Entries.optional
  rcases hfirst : e.first? (key :: others) with _ | ⟨found, g⟩
  · dsimp only
    have hnone := first?_eq_none_iff.mp hfirst
    constructor
    · intro h
      exact ⟨none, .nothing hnone, Except.ok.inj h⟩
    · rintro ⟨said, hsaid, rfl⟩
      cases hsaid with
      | nothing _ => rfl
      | value hname hget _ _ => simp [hnone _ hname] at hget
  · dsimp only
    obtain ⟨hfound, hget⟩ := mem_of_first? hfirst
    have hothers : ∀ other ∈ key :: others, other ≠ found → e.get? other = none := by
      intro other hother hne
      rcases hlone other hother found hfound hne with h | h
      · exact h
      · simp [hget] at h
    constructor
    · intro h
      exact ⟨some a, .value hfound hget hothers (Checked.under_eq_ok h), rfl⟩
    · rintro ⟨said, hsaid, rfl⟩
      cases hsaid with
      | nothing hnone => simp [hnone _ hfound] at hget
      | @value name g' a hname hget' hlone' hcheck =>
        have hsame : found = name := by
          by_contra hne
          simp [hlone' found hfound hne] at hget
        subst hsame
        obtain rfl : g = g' := Option.some.inj (hget.symm.trans hget')
        rw [hcheck]
        rfl

end

/-! ### The settings that are said -/

/-- **What is said about the settings**, as far as anything is. Of the module that documents are
imported from it may be said that there is none. -/
structure Said where
  /-- The patterns of the metadata files. -/
  metadata : Option (List String) := none
  /-- The namespace of the generated declarations. -/
  namespaceName : Option String := none
  /-- What names the document of an operation, after the operation's name. -/
  documentSuffix : Option String := none
  /-- The module that documents are imported from. -/
  documentsImport : Option (Option String) := none
  deriving DecidableEq, Repr

/-- The settings after something was said about them, and the others by default. -/
def Said.config (said : Said) : Config where
  metadata := said.metadata.getD []
  namespaceName := said.namespaceName.getD "GraphQLInputTypes"
  documentSuffix := said.documentSuffix.getD "Document"
  documentsImport := said.documentsImport.getD none

/-- **A mapping that says something about the settings**, and nothing else. -/
structure Said.By (e : Entries) (said : Said) : Prop where
  /-- Every key is the name of a setting. -/
  known : ∀ entry ∈ e.list, ∃ name ∈ settingNames, entry.1 = .str name
  /-- The patterns are texts. -/
  metadata : Says e ["metadata"] (listOf text) said.metadata
  /-- The namespace is a text. -/
  namespaceName : Says e ["namespace"] text said.namespaceName
  /-- The suffix is a text, and goes by either of its names. -/
  documentSuffix : Says e ["documentSuffix", "document_suffix"] text said.documentSuffix
  /-- The module is a text or none, and goes by either of its names. -/
  documentsImport :
    Says e ["documentsImport", "documents_import"] (nullable text) said.documentsImport
  /-- The namespace is an identifier. -/
  identifier : ∀ name ∈ said.namespaceName, isIdentifier name = true
  /-- The suffix is a part of one. -/
  part : ∀ suffix ∈ said.documentSuffix, isIdentifierPart suffix = true

theorem textWith_eq_ok_iff {property : String → Bool} {reason : String → String} {g : ValueGraph}
    {s : String} : textWith property reason g = .ok s ↔ text g = .ok s ∧ property s = true := by
  constructor
  · intro h
    refine ⟨?_, textWith_eq_ok h⟩
    obtain ⟨t, ht, h⟩ := bind_eq_ok_iff.mp h
    split at h
    · obtain rfl := Except.ok.inj h
      exact ht
    · simp [Checked.wrong] at h
  · rintro ⟨htext, hproperty⟩
    unfold textWith
    rw [htext]
    exact if_pos hproperty

/-- A text with a property that is said is a text that is said and has it. -/
theorem says_textWith_iff {e : Entries} {names : List String} {property : String → Bool}
    {reason : String → String} {said : Option String} :
    Says e names (textWith property reason) said ↔
      Says e names text said ∧ ∀ s ∈ said, property s = true := by
  constructor
  · rintro (hnone | ⟨hname, hget, hlone, hcheck⟩)
    · exact ⟨.nothing hnone, by simp⟩
    · obtain ⟨htext, hproperty⟩ := textWith_eq_ok_iff.mp hcheck
      exact ⟨.value hname hget hlone htext, by simpa using hproperty⟩
  · rintro ⟨hnone | ⟨hname, hget, hlone, htext⟩, hproperty⟩
    · exact .nothing hnone
    · exact .value hname hget hlone (textWith_eq_ok_iff.mpr ⟨htext, hproperty _ rfl⟩)

/-! ### Keys -/

variable {e : Entries}

theorem get?_eq_none_iff {name : String} :
    e.get? name = none ↔ ∀ entry ∈ e.list, entry.1 ≠ .str name := by
  have hkey : ∀ key : Scalar, key.sameKey (.str name) = true ↔ key = .str name := by
    intro key
    cases key <;> simp [Scalar.sameKey, Scalar.asInt?]
  unfold Entries.get? Value.find?
  rw [Option.map_eq_none_iff, Option.map_eq_none_iff, List.find?_eq_none]
  exact forall₂_congr fun entry _ => not_congr (hkey entry.1)

theorem noStrangers_eq_ok_iff :
    noStrangers e = .ok () ↔ ∀ entry ∈ e.list, strangerIssue? e entry.1 = none := by
  unfold noStrangers
  rw [← List.filterMap_eq_nil_iff]
  split
  · rename_i hnil
    simpa using hnil
  · rename_i hne
    simpa using hne

theorem strangerIssue?_eq_none_iff {key : Scalar} :
    strangerIssue? e key = none ↔ ∃ name ∈ settingNames, key = .str name ∧
      ∀ first ∈ secondNames.lookup name, e.get? first = none := by
  cases key with
  | str s =>
    unfold strangerIssue?
    rcases hlookup : secondNames.lookup s with _ | first
    · simp [hlookup]
    · simp [hlookup]
  | _ => simp [strangerIssue?]

theorem lone_pair_iff {first second : String} (hne : first ≠ second) :
    Lone e [first, second] ↔ e.get? first = none ∨ e.get? second = none := by
  constructor
  · exact fun h => h first (by simp) second (by simp) hne
  · rintro h name hname other hother hother_ne
    simp only [List.mem_cons, List.not_mem_nil, or_false] at hname hother
    rcases hname with rfl | rfl <;> rcases hother with rfl | rfl
    · exact absurd rfl hother_ne
    · exact h
    · exact h.symm
    · exact absurd rfl hother_ne

/-- **A mapping has nothing but settings**, each under one name, exactly if no key is a stranger. -/
theorem noStrangers_iff :
    noStrangers e = .ok () ↔ (∀ entry ∈ e.list, ∃ name ∈ settingNames, entry.1 = .str name) ∧
      ∀ names ∈ secondNames, Lone e [names.2, names.1] := by
  have hnames : ∀ names ∈ secondNames,
      names.2 ≠ names.1 ∧ secondNames.lookup names.1 = some names.2 := by decide
  rw [noStrangers_eq_ok_iff]
  constructor
  · intro h
    refine ⟨fun entry hentry => ?_, fun names hnames' => ?_⟩
    · obtain ⟨name, hname, hkey, -⟩ := strangerIssue?_eq_none_iff.mp (h entry hentry)
      exact ⟨name, hname, hkey⟩
    · obtain ⟨hne, hlookup⟩ := hnames names hnames'
      refine (lone_pair_iff hne).mpr (or_iff_not_imp_right.mpr fun hsecond => ?_)
      -- the second name is a key, and it is none that the first one shadows
      obtain ⟨entry, hentry, hkey⟩ : ∃ entry ∈ e.list, entry.1 = .str names.1 := by
        simpa [get?_eq_none_iff] using hsecond
      obtain ⟨name, -, hname, hfirst⟩ := strangerIssue?_eq_none_iff.mp (h entry hentry)
      obtain rfl : names.1 = name := Scalar.str.inj (hkey.symm.trans hname)
      exact hfirst names.2 hlookup
  · rintro ⟨hknown, hlone⟩ entry hentry
    obtain ⟨name, hname, hkey⟩ := hknown entry hentry
    refine strangerIssue?_eq_none_iff.mpr ⟨name, hname, hkey, fun first hfirst => ?_⟩
    obtain ⟨before, after, hsplit, -⟩ := List.lookup_eq_some_iff.mp hfirst
    have hpair : (name, first) ∈ secondNames := by
      rw [hsplit]
      simp
    rcases (lone_pair_iff (hnames _ hpair).1).mp (hlone _ hpair) with h | h
    · exact h
    · exact absurd hkey (get?_eq_none_iff.mp h entry hentry)

/-! ### Mappings that are accepted -/

/-- **A mapping is accepted** exactly if it says something about the settings and nothing else, and
the settings are what it says. -/
theorem ofEntries_eq_ok_iff {config : Config} :
    ofEntries e = .ok config ↔ ∃ said : Said, said.By e ∧ said.config = config := by
  have hone (name : String) : Lone e [name] := by
    intro a ha b hb hne
    rw [List.mem_singleton.mp ha, List.mem_singleton.mp hb] at hne
    exact absurd rfl hne
  constructor
  · intro h
    obtain ⟨_, ⟨⟩, hfour, hstrangers, hmade⟩ := Checked.ap_eq_ok h
    obtain ⟨_, _, hthree, himport, hfourth⟩ := Checked.ap_eq_ok hfour
    obtain ⟨_, _, htwo, hsuffix, hthird⟩ := Checked.ap_eq_ok hthree
    obtain ⟨_, _, hfirst, hnamespace, hsecond⟩ := Checked.ap_eq_ok htwo
    obtain ⟨_, hmetadata, hfirst⟩ := map_eq_ok_iff.mp hfirst
    subst hfirst hsecond hthird hfourth hmade
    obtain ⟨hknown, hlone⟩ := noStrangers_iff.mp hstrangers
    obtain ⟨metadata, hsaid, rfl⟩ := (optional_eq_ok_iff (hone _)).mp hmetadata
    obtain ⟨namespaceName, hsaidNamespace, rfl⟩ := (optional_eq_ok_iff (hone _)).mp hnamespace
    obtain ⟨suffix, hsaidSuffix, rfl⟩ :=
      (optional_eq_ok_iff (hlone ("document_suffix", _) (by decide))).mp hsuffix
    obtain ⟨source, hsource, rfl⟩ :=
      (optional_eq_ok_iff (hlone ("documents_import", _) (by decide))).mp himport
    obtain ⟨hname, hidentifier⟩ := says_textWith_iff.mp hsaidNamespace
    obtain ⟨hending, hpart⟩ := says_textWith_iff.mp hsaidSuffix
    exact ⟨⟨metadata, namespaceName, suffix, source⟩,
      ⟨hknown, hsaid, hname, hending, hsource, hidentifier, hpart⟩, rfl⟩
  · rintro ⟨said, h, rfl⟩
    have hlone : ∀ names ∈ secondNames, Lone e [names.2, names.1] := by
      simp only [secondNames, List.forall_mem_cons]
      exact ⟨h.documentSuffix.lone, h.documentsImport.lone, by simp⟩
    have hnamespace : Says e ["namespace"] (textWith isIdentifier namespaceReason)
        said.namespaceName := says_textWith_iff.mpr ⟨h.namespaceName, h.identifier⟩
    have hsuffix : Says e ["documentSuffix", "document_suffix"]
        (textWith isIdentifierPart suffixReason) said.documentSuffix :=
      says_textWith_iff.mpr ⟨h.documentSuffix, h.part⟩
    unfold ofEntries
    rw [(optional_eq_ok_iff (hone _)).mpr ⟨_, h.metadata, rfl⟩,
      (optional_eq_ok_iff (hone _)).mpr ⟨_, hnamespace, rfl⟩,
      (optional_eq_ok_iff h.documentSuffix.lone).mpr ⟨_, hsuffix, rfl⟩,
      (optional_eq_ok_iff h.documentsImport.lone).mpr ⟨_, h.documentsImport, rfl⟩,
      noStrangers_iff.mpr ⟨h.known, hlone⟩]
    rfl

end OperationCatalog.Config
