import OperationCatalog.Proofs.Config
import OperationCatalog.Proofs.Metadata.Dump
import OperationCatalog.Proofs.Metadata.Origin
import OperationCatalog.Proofs.TypeScript.Legible
import OperationCatalog.Proofs.TypeScript.Naming

/-!
# Identifiers of a generated module

Some texts stand in a module as they are, where an identifier has to stand: the namespace, the
documents and what is imported of them, the constants, and what is referred to in the namespace
(`OperationCatalog.TypeScript.Module.identifiers`). They come from four places, and each of these
has a check of its own or none:

* the namespace and the suffix of documents are settings, and those are checked;
* operations, and the types of their parameters, are called by names of the query language, since
  the documents were parsed;
* so are the types of a schema;
* a type of a metadata file may be called anything.

So all of them hold identifiers but for types of metadata files that fields lead to
(`OperationCatalog.TypeScript.identifiers_of_generate`). What a setting may end in is a matter of
its check: a line break at its end is not looked at, so the settings here are those without one.
-/

namespace OperationCatalog.GraphQL

/-- The name that a type is described by is the one inside its lists. -/
theorem TypeRef.baseName_of_describedName? {ref : TypeRef} {name : String}
    (h : ref.describedName? = some name) : ref.baseName = name := by
  unfold describedName? at h
  rw [← baseName_nullable ref]
  rcases hnullable : ref.nullable with own | item | inner
  · simpa [hnullable, baseName] using h
  · rw [hnullable] at h
    rw [baseName, ← baseName_nullable item]
    rcases hitem : item.nullable with own | inner | inner
    · simpa [hitem, baseName] using h
    · simp [hitem] at h
    · simp [hitem] at h
  · simp [hnullable] at h

end OperationCatalog.GraphQL

namespace OperationCatalog.TypeScript

open Metadata

/-! ### Identifiers -/

/-- **An identifier**: letters, digits, underscores and dollar signs, at least one of them and no
digit in front. -/
def IsIdentifier (s : String) : Prop :=
  (s.toList.head?.any fun c => !c.isDigit) = true ∧ s.toList.all Config.isIdentifierChar = true

instance (s : String) : Decidable (IsIdentifier s) := inferInstanceAs (Decidable (_ ∧ _))

variable {s part : String}

theorem isIdentifierChar_of_isNameChar {c : Char} (h : GraphQL.isNameChar c = true) :
    Config.isIdentifierChar c = true := by
  simp only [GraphQL.isNameChar, Config.isIdentifierChar, Bool.or_eq_true] at h ⊢
  exact Or.inl h

/-- No letter is a digit, and neither is an underscore. -/
theorem isDigit_of_isNameStart {c : Char} (h : GraphQL.isNameStart c = true) :
    c.isDigit = false := by
  rcases Bool.or_eq_true_iff.mp h with hletter | hunderscore
  · grind [Char.isAlpha, Char.isUpper, Char.isLower, Char.isDigit]
  · obtain rfl := beq_iff_eq.mp hunderscore
    rfl

/-- **A name of the query language** is an identifier. -/
theorem isIdentifier_of_isName (h : GraphQL.IsName s) : IsIdentifier s := by
  obtain ⟨hstart, hchars⟩ := h
  refine ⟨?_, ?_⟩
  · obtain ⟨c, hc, hstart⟩ := (Option.any_eq_true _ _).mp hstart
    exact (Option.any_eq_true _ _).mpr ⟨c, hc, by simp [isDigit_of_isNameStart hstart]⟩
  · exact List.all_eq_true.mpr fun c hc =>
      isIdentifierChar_of_isNameChar (List.all_eq_true.mp hchars c hc)

/-- An identifier goes on with what may stand in one. -/
theorem IsIdentifier.append (h : IsIdentifier s)
    (hpart : part.toList.all Config.isIdentifierChar = true) : IsIdentifier (s ++ part) := by
  obtain ⟨hhead, hchars⟩ := h
  obtain ⟨c, hc, hdigit⟩ := (Option.any_eq_true _ _).mp hhead
  obtain ⟨rest, hrest⟩ := List.head?_eq_some_iff.mp hc
  unfold IsIdentifier
  rw [String.toList_append, List.all_append, hchars, hpart, hrest]
  exact ⟨hdigit, rfl⟩

/-! ### Settings -/

/-- A text that does not end in a line break is checked as a whole. -/
theorem all_of_isIdentifierPart (h : Config.isIdentifierPart s = true)
    (hend : s.toList.getLast? ≠ some '\n') : s.toList.all Config.isIdentifierChar = true := by
  unfold Config.isIdentifierPart Config.withoutFinalBreak at h
  rwa [if_neg (by simpa using hend)] at h

theorem isIdentifier_of_accepted (h : Config.isIdentifier s = true)
    (hend : s.toList.getLast? ≠ some '\n') : IsIdentifier s := by
  obtain ⟨hpart, hhead⟩ := Bool.and_eq_true_iff.mp h
  refine ⟨?_, all_of_isIdentifierPart hpart hend⟩
  obtain ⟨c, hc, hstart⟩ := (Option.any_eq_true _ _).mp hhead
  exact (Option.any_eq_true _ _).mpr ⟨c, hc, (Bool.and_eq_true_iff.mp hstart).2⟩

/-! ### What stands in a module -/

/-- **The constants that are referred to** by the fields and parameters of a module: the types that
it mentions, those of scalars left aside. -/
def Module.referenced (m : Module) : List String :=
  (m.mentions.filter fun mention => mention.1.typeKind != .scalar).map (·.2)

/-- **What stands in a module where an identifier has to**: its namespace, which references start
with, its documents and what it imports of them, its constants, and those that it refers to. -/
def Module.identifiers (m : Module) : List String :=
  m.namespaceName :: m.operations.map (·.document) ++ m.importedNames ++ m.constantNames ++
    m.declarations.map (·.name) ++ m.referenced

section

variable {config : Config} {table : Table} {documents : List GraphQL.Document} {m : Module}
  {w : Workspace} {root : Option Path} {patterns : List String} {schema : Option Table}
  {name : String}

/-- A constant that is referred to is that of a type of the table. -/
theorem mem_names_of_referenced (h : (generate config table documents).outcome = .ok m)
    (hname : name ∈ m.referenced) : name ∈ table.names := by
  obtain ⟨⟨shape, type⟩, hmention, rfl⟩ := List.mem_map.mp hname
  obtain ⟨hmem, hkind⟩ := List.mem_filter.mp hmention
  exact (declared_of_mem_mentions h hmem (by simpa using hkind)).1

theorem mem_names_of_declared (h : (generate config table documents).outcome = .ok m)
    (hname : name ∈ m.declarations.map (·.name)) : name ∈ table.names := by
  obtain ⟨⟨t, ht, -⟩, -⟩ := exists_reaches_of_declared h hname
  exact Table.mem_names_of_find? ht

/-- **A type of a run** is called by an identifier, unless a metadata file declares it. -/
theorem isIdentifier_or_declared (hschema : ∀ t ∈ schema, Extracted t)
    (htable : (buildTable w root patterns schema).outcome = .ok table)
    (hname : name ∈ table.names) :
    IsIdentifier name ∨ DeclaredInFiles w root patterns name := by
  refine (mem_names_of_buildTable htable hname).imp_left ?_
  rintro ⟨t, ht, hmem⟩
  exact isIdentifier_of_isName ((hschema t ht).isName hmem)

/-- **The operations of a generated module** are called by names, if the documents were parsed, and
so are the types of their parameters. -/
theorem isName_of_operation (h : (generate config table documents).outcome = .ok m)
    (parsed : ∀ d ∈ documents, d.Parsed) {o : OperationCode} (ho : o ∈ m.operations) :
    GraphQL.IsName o.name ∧ ∀ p ∈ o.parameters, GraphQL.IsName p.type := by
  obtain ⟨entries, closure, hentries, -, -, hoperations, -⟩ := exists_closure_of_generate h
  rw [hoperations] at ho
  obtain ⟨e, he, rfl⟩ := List.mem_map.mp ho
  refine ⟨(isName_of_build hentries parsed he).1, fun code hcode => ?_⟩
  obtain ⟨p, hp, rfl⟩ := List.mem_map.mp hcode
  obtain ⟨d, hd, o, ho, hdescribed⟩ := Catalog.exists_operation_of_build hentries e he
  obtain ⟨-, -, -, hparameters⟩ := Catalog.describeOperation_eq_some hdescribed
  obtain ⟨v, hv, hof⟩ := exists_of_forall₂_of_mem hparameters hp
  have hname := ((Catalog.lexical_of_mem_operationsOf (parsed d hd) ho).types v hv).name
  rwa [GraphQL.TypeRef.baseName_of_describedName? (Catalog.describedName?_of_describeVariable hof)]
    at hname

/-- **The constants of operations** are called by identifiers. -/
theorem isIdentifier_of_mem_constantNames
    (h : (generate config table documents).outcome = .ok m) (parsed : ∀ d ∈ documents, d.Parsed)
    (hname : name ∈ m.constantNames) : IsIdentifier name := by
  obtain ⟨o, ho, rfl⟩ := List.mem_map.mp hname
  exact (isIdentifier_of_isName (isName_of_operation h parsed ho).1).append (by decide)

/-- **Documents** are called by identifiers, if their suffix consists of what may stand in one. -/
theorem isIdentifier_of_document (h : (generate config table documents).outcome = .ok m)
    (parsed : ∀ d ∈ documents, d.Parsed)
    (hsuffix : config.documentSuffix.toList.all Config.isIdentifierChar = true)
    {o : OperationCode} (ho : o ∈ m.operations) : IsIdentifier o.document := by
  rw [(namedBy_of_generate h).document o ho]
  exact (isIdentifier_of_isName (isName_of_operation h parsed ho).1).append hsuffix

/-- What is imported is called like a document. -/
theorem isIdentifier_of_mem_importedNames
    (h : (generate config table documents).outcome = .ok m) (parsed : ∀ d ∈ documents, d.Parsed)
    (hsuffix : config.documentSuffix.toList.all Config.isIdentifierChar = true)
    (hname : name ∈ m.importedNames) : IsIdentifier name := by
  have hnamed := namedBy_of_generate h
  obtain ⟨-, o, ho, rfl⟩ := hnamed.mem_importedNames_iff.mp hname
  exact hnamed.document o ho ▸ isIdentifier_of_document h parsed hsuffix ho

/-- **Where a generated module holds identifiers.** Let a module be generated for documents that
were parsed, with settings that are accepted, and from the types of metadata files and of a schema,
if there is one.

* Its namespace is an identifier, if that does not end in a line break.
* So are its documents and what it imports of them, if their suffix does not.
* The constants of its operations are identifiers, and so are the types of their parameters.
* A constant in its namespace, and one that is referred to, is called like a type of the run, and
  by an identifier unless a metadata file declares that type.
* Hence identifiers stand wherever they have to, if metadata files only declare types that are
  called by identifiers. -/
theorem identifiers_of_generate {settings : ValueGraph}
    (hconfig : Config.ofValue settings = .ok config) (hschema : ∀ t ∈ schema, Extracted t)
    (htable : (buildTable w root patterns schema).outcome = .ok table)
    (parsed : ∀ d ∈ documents, d.Parsed)
    (h : (generate config table documents).outcome = .ok m) :
    (config.namespaceName.toList.getLast? ≠ some '\n' → IsIdentifier m.namespaceName) ∧
      (config.documentSuffix.toList.getLast? ≠ some '\n' →
        (∀ o ∈ m.operations, IsIdentifier o.document) ∧
          ∀ name ∈ m.importedNames, IsIdentifier name) ∧
      (∀ name ∈ m.constantNames, IsIdentifier name) ∧
      (∀ o ∈ m.operations, ∀ p ∈ o.parameters, IsIdentifier p.type) ∧
      (∀ name ∈ m.declarations.map (·.name) ++ m.referenced,
        name ∈ table.names ∧ (IsIdentifier name ∨ DeclaredInFiles w root patterns name)) ∧
      ((∀ name, DeclaredInFiles w root patterns name → IsIdentifier name) →
        config.namespaceName.toList.getLast? ≠ some '\n' →
        config.documentSuffix.toList.getLast? ≠ some '\n' →
        ∀ name ∈ m.identifiers, IsIdentifier name) := by
  obtain ⟨hnamespace, hsuffix⟩ := Config.ofValue_eq_ok hconfig
  have hspace : config.namespaceName.toList.getLast? ≠ some '\n' → IsIdentifier m.namespaceName :=
    fun hend => namespaceName_of_generate h ▸ isIdentifier_of_accepted hnamespace hend
  have hdocument : config.documentSuffix.toList.getLast? ≠ some '\n' →
      (∀ o ∈ m.operations, IsIdentifier o.document) ∧
        ∀ name ∈ m.importedNames, IsIdentifier name := fun hend =>
    have hchars := all_of_isIdentifierPart hsuffix hend
    ⟨fun o ho => isIdentifier_of_document h parsed hchars ho,
      fun name hname => isIdentifier_of_mem_importedNames h parsed hchars hname⟩
  have hconstant : ∀ name ∈ m.constantNames, IsIdentifier name :=
    fun name hname => isIdentifier_of_mem_constantNames h parsed hname
  have htype : ∀ name ∈ m.declarations.map (·.name) ++ m.referenced,
      name ∈ table.names ∧ (IsIdentifier name ∨ DeclaredInFiles w root patterns name) := by
    refine fun name hname => ?_
    have hmem : name ∈ table.names := (List.mem_append.mp hname).elim
      (fun hdeclared => mem_names_of_declared h hdeclared)
      fun hreferenced => mem_names_of_referenced h hreferenced
    exact ⟨hmem, isIdentifier_or_declared hschema htable hmem⟩
  refine ⟨hspace, hdocument, hconstant,
    fun o ho p hp => isIdentifier_of_isName ((isName_of_operation h parsed ho).2 p hp), htype,
    fun hfiles hend hend' => ?_⟩
  obtain ⟨hdeclared, hreferenced⟩ := List.forall_mem_append.mp fun name hname =>
    (htype name hname).2.elim id (hfiles name)
  obtain ⟨hdocuments, himported⟩ := hdocument hend'
  simp only [Module.identifiers, List.forall_mem_append, List.forall_mem_cons]
  exact ⟨⟨⟨⟨⟨hspace hend, List.forall_mem_map.mpr hdocuments⟩, himported⟩, hconstant⟩, hdeclared⟩,
    hreferenced⟩

end

/-! ### A type that is called by no identifier -/

/-- An object with a field whose type is called by no identifier, and that type. -/
def dashedTypes : List InputType :=
  [⟨"Filter", none, .object [⟨"by", "sort-order", true, none, .one .enum⟩]⟩,
    ⟨"sort-order", none, .enum ["UP", "DOWN"]⟩]

/-- The table of these types. -/
def dashedTable : Table := .ofTypes dashedTypes

/-- What is written of the table. -/
def dashedText : String := (Dump.text dashedTable).toOption.getD ""

/-- A directory that holds nothing but this text. -/
def dashedFiles : Workspace := ⟨.dir [("types.json", .file dashedText.toUTF8)], []⟩

/-- A schema with an enumeration. -/
def sortText : String := "enum Sort \x7b UP \x7d"

/-- The schema that the text defines. -/
def sortSchema : GraphQL.Schema := (GraphQL.schemaOfText false sortText).toOption.getD .empty

/-- The table that is extracted from the schema. -/
def sortTable : Table := (extract sortSchema).outcome.toOption.getD .empty

/-- An operation that takes a value of the schema and objects of the file. -/
def findText : String := "query Find($by: Sort, $in: [Filter]) \x7b a \x7d"

/-- The document of the operation. -/
def findDocument : GraphQL.Document := (GraphQL.parse findText.toList).toOption.getD []

theorem extracted_sortTable : Extracted sortTable := by
  obtain ⟨hschema, hextract⟩ : (GraphQL.schemaOfText false sortText).toOption.isSome = true ∧
      (extract sortSchema).outcome.toOption.isSome = true := by decide +kernel
  replace hschema : GraphQL.schemaOfText false sortText = .ok sortSchema := eq_ok_getD hschema _
  replace hextract : (extract sortSchema).outcome = .ok sortTable := eq_ok_getD hextract _
  exact ⟨false, sortText, sortSchema, hschema, hextract⟩

theorem loadFile_dashedFiles :
    (resolveFiles dashedFiles (some ⟨"/", []⟩) ["types.json"]).outcome =
        .ok [⟨"/", ["types.json"]⟩] ∧
      (loadFile dashedFiles ⟨"/", ["types.json"]⟩).outcome = .ok dashedTable := by
  have htext : Dump.text dashedTable = .ok dashedText := eq_ok_getD (by decide +kernel) _
  have hplace : Path.text ⟨"/", ["types.json"]⟩ = "/types.json" := by decide
  have hfile : dashedFiles.lookup (Path.text ⟨"/", ["types.json"]⟩) =
      .ok (.file dashedText.toUTF8) := by
    have hlocate : dashedFiles.locate "/types.json" = .ok ["types.json"] := by
      rw [Workspace.locate, if_neg (by simp)]
      decide +kernel
    rw [hplace, Workspace.lookup, hlocate]
    rfl
  have htypes : dashedTable.types = dashedTypes := Table.types_ofTypes (by decide)
  have hunruled : ∀ t ∈ dashedTypes, ∀ f ∈ t.fields, f.validation = none := by decide
  have hvalues : ∀ t ∈ dashedTypes, t.shape ≠ .enum [] := by simp [dashedTypes]
  have hdocument : dashedTable.Documentable := fun t ht => by
    rw [htypes] at ht
    exact ⟨fun values hshape hnil => hvalues t ht (hnil ▸ hshape),
      fun f hf rules hrules => by simp [hunruled t ht f hf] at hrules⟩
  have htree : dashedTable.IsTree Json.Legible := fun t ht f hf rules hrules => by
    rw [htypes] at ht
    simp [hunruled t ht f hf] at hrules
  exact ⟨resolveFiles_of_filesOfPattern (filesOfPattern_of_literal (by decide +kernel)
    (by decide +kernel) (by decide +kernel) (by decide +kernel) hfile),
    loadFile_of_text hdocument htree htext hfile (by decide +kernel)⟩

/-- The types of a run with the schema and the metadata file. -/
def findTable : Table := .merge [sortTable, dashedTable]

theorem buildTable_dashedFiles :
    (buildTable dashedFiles (some ⟨"/", []⟩) ["types.json"] (some sortTable)).outcome =
      .ok findTable := by
  obtain ⟨hfiles, hload⟩ := loadFile_dashedFiles
  rw [buildTable_of_oneFile hfiles hload, Option.getD_some, findTable]

/-- The module that is generated for the operation. -/
def findModule : Module :=
  (generate {} findTable [findDocument]).outcome.toOption.getD ⟨"", none, [], []⟩

theorem generate_findDocument :
    findDocument.Parsed ∧ (generate {} findTable [findDocument]).outcome = .ok findModule ∧
      findModule.declarations.map (·.name) = ["Sort", "sort-order", "Filter"] ∧
      findModule.referenced = ["sort-order", "Sort", "Filter"] := by
  obtain ⟨hparsed, hgenerate, hdeclared, hreferenced⟩ :
      (GraphQL.parse findText.toList).toOption.isSome = true ∧
        (generate {} findTable [findDocument]).outcome.toOption.isSome = true ∧
        findModule.declarations.map (·.name) = ["Sort", "sort-order", "Filter"] ∧
        findModule.referenced = ["sort-order", "Sort", "Filter"] := by decide +kernel
  exact ⟨GraphQL.Document.parsed_of_isSome hparsed, eq_ok_getD hgenerate _, hdeclared,
    hreferenced⟩

theorem identifiers_of_generate_findDocument :
    (generate {} findTable [findDocument]).outcome = .ok findModule ∧
      IsIdentifier findModule.namespaceName ∧
      (∀ o ∈ findModule.operations, IsIdentifier o.document) ∧
      (∀ name ∈ findModule.constantNames, IsIdentifier name) ∧
      DeclaredInFiles dashedFiles (some ⟨"/", []⟩) ["types.json"] "sort-order" := by
  obtain ⟨hparsed, hgenerate, hdeclared, -⟩ := generate_findDocument
  have hsettings : Config.ofValue (.ofTree (.map [])) = .ok {} := rfl
  have hschema : ∀ t ∈ some sortTable, Extracted t := fun t ht => by
    obtain rfl := Option.mem_some.mp ht
    exact extracted_sortTable
  obtain ⟨hspace, hdocument, hconstant, -, htypes, -⟩ :=
    identifiers_of_generate hsettings hschema buildTable_dashedFiles
      (List.forall_mem_singleton.mpr hparsed) hgenerate
  have hdashed : "sort-order" ∈ findModule.declarations.map (·.name) := by simp [hdeclared]
  refine ⟨hgenerate, hspace (by decide), (hdocument (by decide)).1, hconstant, ?_⟩
  exact (htypes "sort-order" (List.mem_append_left _ hdashed)).2.resolve_left (by decide)

/-- **A constant need not be called by an identifier**: a field leads to a type of a metadata file
that is called otherwise. -/
theorem not_isIdentifier_findDocument :
    Config.ofValue (.ofTree (.map [])) = .ok {} ∧ Extracted sortTable ∧
      (buildTable dashedFiles (some ⟨"/", []⟩) ["types.json"] (some sortTable)).outcome =
        .ok findTable ∧
      findDocument.Parsed ∧ (generate {} findTable [findDocument]).outcome = .ok findModule ∧
      (∃ name ∈ findModule.declarations.map (·.name), ¬IsIdentifier name) ∧
      ∃ name ∈ findModule.referenced, ¬IsIdentifier name := by
  obtain ⟨hparsed, hgenerate, hdeclared, hreferenced⟩ := generate_findDocument
  refine ⟨rfl, extracted_sortTable, buildTable_dashedFiles, hparsed, hgenerate,
    ⟨"sort-order", by simp [hdeclared], by decide⟩, "sort-order", by simp [hreferenced], by decide⟩

end OperationCatalog.TypeScript
