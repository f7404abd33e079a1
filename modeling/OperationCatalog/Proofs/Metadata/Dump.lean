import OperationCatalog.Metadata.Source
import OperationCatalog.Proofs.Json.RoundTrip
import OperationCatalog.Proofs.Json.SingleLine
import OperationCatalog.Proofs.Metadata.Document

/-!
# Extracted tables in files

The table that is extracted from a schema is written to a file of metadata, and the file is loaded
as the same table (`OperationCatalog.Metadata.load_dump_of_extract`): its document is read back
(`OperationCatalog.Metadata.document_document`), the text of the document is read as the document
(`OperationCatalog.Json.read_write_of_strict`), and the file has no line break but the line feed, so
it is read as its text. It follows that a run has the same types whether it is given the schema or
the file.

One thing can be in a rule and not in a file. An argument that is not given has the value that its
directive says, and where the type of the argument is an enumeration of introspection, that value is
a constant of the library and not a text. Such a table has no text at all, and no other table is
without one.
-/

namespace OperationCatalog

/-! ### Files -/

namespace Text

/-- Unified line breaks are those of a text without carriage returns. -/
theorem unifyNewlines_of_notMem {cs : List Char} (h : '\r' ∉ cs) : unifyNewlines cs = cs := by
  induction cs with
  | nil => rfl
  | cons c cs ih =>
    obtain ⟨hc, hcs⟩ := not_or.mp (List.mem_cons.not.mp h)
    rw [unifyNewlines, ih hcs]
    all_goals
      intros
      simp_all

end Text

namespace Workspace

variable {w : Workspace} {path : Path} {text : String}

/-- **A file is read as the text that it was written with**, if that has no carriage return. -/
theorem readText_of_lookup (hfile : w.lookup path.text = .ok (.file text.toUTF8))
    (hreturn : '\r' ∉ text.toList) : w.readText path = .ok text := by
  have hbytes : String.fromUTF8? text.toUTF8 = some text := dif_pos text.isValidUTF8
  rw [readText, readRaw, hfile]
  dsimp only [Except.bind]
  rw [hbytes]
  change Except.ok (Text.withUnifiedNewlines text) = _
  rw [Text.withUnifiedNewlines, Text.unifyNewlines_of_notMem hreturn, String.ofList_toList]

/-- A file without a suffix of YAML is read as JSON. -/
theorem readDocument_of_read {v : Value} (hfile : w.lookup path.text = .ok (.file text.toUTF8))
    (hreturn : '\r' ∉ text.toList) (hsuffix : yamlSuffixes.contains path.suffix = false)
    (hread : Json.read text.toList = .ok v) : w.readDocument path = .ok (.ofTree v) := by
  rw [readDocument, hsuffix, readJson, readText_of_lookup hfile hreturn]
  change ((Json.read text.toList).mapError DocumentFault.json).map ValueGraph.ofTree = _
  rw [hread]
  rfl

end Workspace

/-- **The directives of a schema have no constants** where an argument is not given. -/
def GraphQL.Schema.AvoidsConstants (schema : GraphQL.Schema) : Prop :=
  ∀ d ∈ schema.directives, ∀ argument ∈ d.arguments, ∀ v ∈ argument.2, ∀ s ∈ v.scalars,
    s.isConstant = false

instance (schema : GraphQL.Schema) : Decidable schema.AvoidsConstants :=
  inferInstanceAs (Decidable (∀ d ∈ schema.directives, _))

namespace Metadata

open GraphQL

variable {schema : Schema} {table : Table}

/-! ### The scalars of a table -/

/-- The scalars in a rule. -/
def Rule.scalars (r : Rule) : List Scalar :=
  ((r.constraints.getD []) ++ r.context.toList ++ r.options.toList).flatMap (·.root.scalars)

/-- **The scalars in the rules of a table.** -/
def Table.scalars (table : Table) : List Scalar :=
  table.types.flatMap fun t => t.fields.flatMap fun f => (f.validation.getD []).flatMap Rule.scalars

variable {P Q : Scalar → Prop}

theorem forall_mem_getD {α : Type} {p : α → Prop} {given : Option (List α)} :
    (∀ a ∈ given.getD [], p a) ↔ ∀ as ∈ given, ∀ a ∈ as, p a := by
  cases given <;> simp

theorem mem_getD {α : Type} {a : α} {given : Option (List α)} :
    a ∈ given.getD [] ↔ ∃ as ∈ given, a ∈ as := by
  cases given <;> simp

/-- A rule is one of trees for a property exactly if its scalars have it. -/
theorem Rule.IsTree.iff_scalars {r : Rule} (h : r.IsTree P) :
    r.IsTree Q ↔ ∀ s ∈ r.scalars, Q s := by
  rw [Rule.isTree_iff]
  unfold Rule.scalars
  simp only [List.forall_mem_flatMap, List.forall_mem_append, Option.mem_toList, forall_mem_getD,
    and_assoc]
  refine and_congr ?_ (and_congr ?_ ?_)
  · exact forall₂_congr fun gs hgs => forall₂_congr fun g hg =>
      (h.constraints gs hgs g hg).iff_scalars
  · exact forall₂_congr fun g hg => (h.context g hg).iff_scalars
  · exact forall₂_congr fun g hg => (h.options g hg).iff_scalars

/-- **A table is one of trees** for a property exactly if its scalars have it. -/
theorem Table.IsTree.iff_scalars (h : table.IsTree P) :
    table.IsTree Q ↔ ∀ s ∈ table.scalars, Q s := by
  unfold Table.scalars
  simp only [List.forall_mem_flatMap, forall_mem_getD]
  exact forall₂_congr fun t ht => forall₂_congr fun f hf => forall₂_congr fun rules hrules =>
    forall₂_congr fun r hr => (h t ht f hf rules hrules r hr).iff_scalars

/-! ### Extracted tables -/

/-- **A document can hold an extracted table.** -/
theorem documentable_of_extract (hplain : schema.Plain) (h : (extract schema).outcome = .ok table) :
    table.Documentable := by
  intro t ht
  refine ⟨fun values hshape => ?_, fun field hfield rules hrules r hr => ?_⟩
  · obtain ⟨u, -, hof⟩ := exists_of_mem_extract h ht
    exact values_of_typeOf hof hshape
  · have htree := isTree_of_extract hplain h t ht field hfield rules hrules r hr
    obtain ⟨f, -, use, -, rfl⟩ := exists_use_of_extract h ht hfield hrules hr
    exact ⟨fun gs hgs g hg => (htree.constraints gs hgs g hg).nodes, by simp [ruleOf],
      by simp [ruleOf]⟩

/-- **An extracted table is not empty**: every schema has text. -/
theorem types_ne_nil_of_extract (hstring : ∃ u, schema.type? "String" = some u ∧ u.form ≠ .output)
    (h : (extract schema).outcome = .ok table) : table.types ≠ [] := by
  have hdescribed : schema.Describes "String" := ⟨by decide +kernel, hstring⟩
  obtain ⟨u, hu, -⟩ := find?_of_extract h hdescribed
  exact List.ne_nil_of_mem (Table.find?_eq_some_iff.mp hu).1

theorem exists_of_mem_scalars_ruleOf {use : Directive} {s : Scalar}
    (hs : s ∈ (ruleOf schema use).scalars) : ∃ v ∈ ruleArguments schema use, s ∈ v.scalars := by
  unfold Rule.scalars ruleOf at hs
  dsimp only at hs
  split at hs
  · simp at hs
  · simpa [ValueGraph.ofTree] using hs

/-- **A scalar in an extracted table** that no literal can stand for is in the value that an
argument of a directive has where none is given. -/
theorem exists_default_of_mem_scalars (hplain : schema.Plain)
    (h : (extract schema).outcome = .ok table) {s : Scalar} (hs : s ∈ table.scalars)
    (hconstant : s.isConstant = true) :
    ∃ d ∈ schema.directives, ∃ argument ∈ d.arguments, ∃ v ∈ argument.2, s ∈ v.scalars := by
  unfold Table.scalars at hs
  simp only [List.mem_flatMap, mem_getD] at hs
  obtain ⟨t, ht, field, hfield, r, ⟨rules, hrules, hr⟩, hs⟩ := hs
  obtain ⟨f, hf, use, huse, rfl⟩ := exists_use_of_extract h ht hfield hrules hr
  obtain ⟨v, hv, hs⟩ := exists_of_mem_scalars_ruleOf hs
  rcases mem_ruleArguments hv with ⟨argument, hargument, rfl⟩ | ⟨d, hd, argument, hargument, h⟩ |
    rfl
  · have hliteral := (hplain.directives f hf use huse argument hargument).tree_value
    have hs := hliteral.iff_scalars.mp hliteral s hs
    simp [hs.2] at hconstant
  · exact ⟨d, hd, argument, hargument, v, h, hs⟩
  · obtain rfl : s = .null := by simpa [Value.null, Value.scalars] using hs
    simp [Scalar.isConstant] at hconstant

/-! ### Writing -/

/-- What a file cannot hold of plain scalars are the constants. -/
theorem writable_file_iff {s : Scalar} (h : s.Plain) :
    Json.Writable .file s ↔ s.isConstant = false := by
  unfold Json.Writable Json.writeScalar
  cases s with
  | int i =>
    have hi : Decimal.isWritable i = true := h
    simp [Json.Layout.file, Json.hasNotation, Json.scalarText, Json.writeInt, hi, Except.map,
      Scalar.isConstant]
  | bytes _ | date _ | instant _ => exact h.elim
  | constant name => simp [Json.Layout.file, Json.hasNotation, Scalar.isConstant]
  | null | bool _ | float _ | str _ =>
    simp [Json.Layout.file, Json.hasNotation, Json.scalarText, Except.map, Scalar.isConstant]

/-- **A table of plain scalars has a text** exactly if no constant is in it. -/
theorem exists_text_iff (h : table.IsTree Scalar.Plain) :
    (∃ text, Dump.text table = .ok text) ↔ ∀ s ∈ table.scalars, s.isConstant = false := by
  have hplain : ∀ s ∈ table.scalars, s.Plain := h.iff_scalars.mp h
  have hdocument : (Dump.document table).Tree Scalar.Plain :=
    (Dump.tree_document_iff (fun _ => trivial) (fun _ => trivial) h).mpr h
  calc (∃ text, Dump.text table = .ok text)
      ↔ ∃ chars, Json.write .file (.ofTree (Dump.document table)) = .ok chars := by
        rw [Dump.text, exists_bind_pure_iff]
    _ ↔ (Dump.document table).Tree (Json.Writable .file) := Json.exists_writeValue_iff hdocument 0
    _ ↔ table.IsTree (Json.Writable .file) :=
        Dump.tree_document_iff (fun _ => ⟨_, rfl⟩) (fun _ => ⟨_, rfl⟩) h
    _ ↔ ∀ s ∈ table.scalars, Json.Writable .file s := h.iff_scalars
    _ ↔ ∀ s ∈ table.scalars, s.isConstant = false :=
        forall₂_congr fun s hs => writable_file_iff (hplain s hs)

/-! ### Loading -/

/-- **A written table is loaded** from its file. -/
theorem loadFile_of_text (hdocument : table.Documentable) (htree : table.IsTree Json.Legible)
    {text : String} (htext : Dump.text table = .ok text) {w : Workspace} {path : Path}
    (hfile : w.lookup path.text = .ok (.file text.toUTF8))
    (hsuffix : yamlSuffixes.contains path.suffix = false) :
    (loadFile w path).outcome = .ok table := by
  obtain ⟨chars, hchars, htext⟩ := bind_eq_ok_iff.mp htext
  obtain rfl := pure_eq_ok_iff.mp htext
  have hlegible : (Dump.document table).Tree Json.Legible :=
    (Dump.tree_document_iff (by simp [Json.Legible]) (by simp [Json.Legible]) htree).mpr htree
  have hread : Json.read (chars ++ ['\n']) = .ok (Dump.document table) :=
    Json.read_write_of_strict rfl ⟨[' '], rfl, by decide⟩ (ValueGraph.isTree_ofTree hlegible)
      hchars (by decide)
  have hreturn : '\r' ∉ chars ++ ['\n'] := by
    intro hmem
    rcases List.mem_append.mp hmem with hmem | hmem
    · exact absurd (Json.forall_mem_write Json.Layout.puts_file hchars _ hmem) (by decide)
    · simp at hmem
  have hread' : w.readDocument path = .ok (.ofTree (Dump.document table)) :=
    Workspace.readDocument_of_read hfile (by rwa [String.toList_ofList]) hsuffix
      (by rwa [String.toList_ofList])
  have hnull : (ValueGraph.ofTree (Dump.document table)).isNull = false := rfl
  rw [loadFile, hread']
  dsimp only
  rw [hnull, document_document hdocument]
  rfl

/-- **The types of a run** that is given one file are those of the file over those of its schema. -/
theorem buildTable_of_oneFile {w : Workspace} {root : Option Path} {patterns : List String}
    {path : Path} (hfiles : (resolveFiles w root patterns).outcome = .ok [path])
    (hload : (loadFile w path).outcome = .ok table) (schema : Option Table) :
    (buildTable w root patterns schema).outcome = .ok (.merge [schema.getD .empty, table]) := by
  have hpatterns : patterns ≠ [] := by
    rintro rfl
    simp [resolveFiles] at hfiles
  rw [buildTable, if_neg (by simpa using hpatterns), loadPatterns]
  simp only [Logged.outcome_bind_do, Logged.outcome_mapError, hfiles, Except.mapError, ok_bind,
    loadFiles, hload, Logged.outcome_pure_do, Logged.outcome_record, Logged.outcome_pure]
  rfl

/-- Without a schema, they are those of the file. -/
theorem buildTable_of_loadFile {w : Workspace} {root : Option Path} {patterns : List String}
    {path : Path} (hfiles : (resolveFiles w root patterns).outcome = .ok [path])
    (hload : (loadFile w path).outcome = .ok table) :
    (buildTable w root patterns none).outcome = .ok table := by
  have hmerge : Table.merge [.empty, table] = table :=
    Table.eq_of_types (Table.types_ofTypes table.distinct)
  exact (buildTable_of_oneFile hfiles hload none).trans (congrArg Except.ok hmerge)

/-- **A pattern without special characters** stands for the file that it names. -/
theorem filesOfPattern_of_literal {w : Workspace} {root : Path} {pattern : String}
    {content : ByteArray} (hmagic : Glob.hasMagic pattern = false)
    (hname : ((Glob.splitLast pattern).2 == "") = false)
    (hplace : Glob.joinPlace root.text pattern = (root.join (.ofString pattern)).text)
    (hkept : isIgnored pattern pattern = false)
    (hfile : w.lookup (root.join (.ofString pattern)).text = .ok (.file content)) :
    filesOfPattern w root pattern = .ok [root.join (.ofString pattern)] := by
  have hcontains : w.contains (Glob.joinPlace root.text pattern) = true := by
    rw [Workspace.contains, hplace, hfile]
  have hisFile : w.isFile (root.join (.ofString pattern)).text = true := by
    rw [Workspace.isFile, hfile]
  have hne : pattern ≠ "" := by
    rintro rfl
    simp [Glob.splitLast] at hname
  have hexpand : Glob.expand w root.text pattern = .ok [pattern] := by
    rw [Glob.expand, Glob.expandFrom]
    dsimp only
    rw [hmagic, hname, hcontains]
    simp [Except.map, hne]
  rw [filesOfPattern, hexpand]
  simp [Except.map, hkept, hisFile]

/-- The files of a run with one pattern that finds one. -/
theorem resolveFiles_of_filesOfPattern {w : Workspace} {root path : Path} {pattern : String}
    (h : filesOfPattern w root pattern = .ok [path]) :
    (resolveFiles w (some root) [pattern]).outcome = .ok [path] := by
  have hone : (filesOfEach w root [pattern]).outcome = .ok [path] := by
    simp only [filesOfEach, Logged.outcome_bind_do, h, Logged.outcome_lift, Except.mapError,
      ok_bind]
    rfl
  unfold resolveFiles
  rw [if_neg (by simp), Logged.outcome_bind_do, Option.getD_some, hone]
  rfl

/-- **What is extracted from a schema is loaded from the file it is written to.** -/
theorem load_dump_of_extract {trusted : Bool} {source : String}
    (hschema : schemaOfText trusted source = .ok schema)
    (hextract : (extract schema).outcome = .ok table) :
    ((∃ text, Dump.text table = .ok text) ↔ ∀ s ∈ table.scalars, s.isConstant = false) ∧
    (schema.AvoidsConstants → ∃ text, Dump.text table = .ok text) ∧
    ((∀ s ∈ table.scalars, Json.Legible s) → ∀ text, Dump.text table = .ok text →
      ∀ (w : Workspace) (path : Path), w.lookup path.text = .ok (.file text.toUTF8) →
        yamlSuffixes.contains path.suffix = false →
          (loadFile w path).outcome = .ok table ∧
          ∀ root, (buildTable w root [] (some table)).outcome = .ok table ∧
            ∀ patterns, (resolveFiles w root patterns).outcome = .ok [path] →
              (buildTable w root patterns none).outcome = .ok table) := by
  have hplain := plain_of_schemaOfText hschema
  have htree := isTree_of_extract hplain hextract
  refine ⟨exists_text_iff htree, fun havoids => (exists_text_iff htree).mpr fun s hs => ?_,
    fun hlegible text htext w path hfile hsuffix => ?_⟩
  · by_contra hconstant
    obtain ⟨d, hd, argument, hargument, v, hv, hs⟩ :=
      exists_default_of_mem_scalars hplain hextract hs (by simpa using hconstant)
    exact hconstant (havoids d hd argument hargument v hv s hs)
  have hload := loadFile_of_text (documentable_of_extract hplain hextract)
    (htree.iff_scalars.mpr hlegible) htext hfile hsuffix
  refine ⟨hload, fun root => ⟨?_, fun patterns hfiles => buildTable_of_loadFile hfiles hload⟩⟩
  have hne := types_ne_nil_of_extract (exists_string_of_schemaOfText hschema) hextract
  rw [buildTable]
  simp [hne]

/-- A rule with a number, with no value in a list and in an object, and with an argument that is not
given. -/
def rangedSource : String :=
  "directive @range(min: Float, among: [Int], shape: Shape, note: String) " ++
  "on INPUT_FIELD_DEFINITION " ++
  "enum Color \x7b RED GREEN \x7d input Shape \x7b width: Int, label: String \x7d " ++
  "input Order \x7b " ++
  "size: Float! @range(min: 0.5, among: [1, null], shape: \x7b label: null \x7d), " ++
  "colors: [Color!] \x7d"

/-- The schema that the text defines. -/
def rangedSchema : Schema := (schemaOfText false rangedSource).toOption.getD .empty

/-- The table that is extracted from the schema. -/
def rangedTable : Table := (extract rangedSchema).outcome.toOption.getD .empty

/-- The text of the table. -/
def rangedText : String := (Dump.text rangedTable).toOption.getD ""

/-- A directory that holds nothing but the text. -/
def rangedFiles : Workspace := ⟨.dir [("ranged.json", .file rangedText.toUTF8)], []⟩

theorem load_dump_of_extract_rangedSource :
    schemaOfText false rangedSource = .ok rangedSchema ∧
      (extract rangedSchema).outcome = .ok rangedTable ∧
      rangedTable.scalars = [.float (.ofDecimal false 5 (-1)), .int 1, .null, .null, .null] ∧
      rangedSchema.AvoidsConstants ∧ Dump.text rangedTable = .ok rangedText ∧
      (loadFile rangedFiles ⟨"/", ["ranged.json"]⟩).outcome = .ok rangedTable ∧
      (buildTable rangedFiles (some ⟨"/", []⟩) [] (some rangedTable)).outcome = .ok rangedTable ∧
      (buildTable rangedFiles (some ⟨"/", []⟩) ["ranged.json"] none).outcome = .ok rangedTable := by
  -- the text is parsed once for all that is computed from it
  obtain ⟨hschema, hextract, hscalars, havoids⟩ :
      (schemaOfText false rangedSource).toOption.isSome = true ∧
        (extract rangedSchema).outcome.toOption.isSome = true ∧
        rangedTable.scalars = [.float (.ofDecimal false 5 (-1)), .int 1, .null, .null, .null] ∧
        rangedSchema.AvoidsConstants := by decide +kernel
  replace hschema : schemaOfText false rangedSource = .ok rangedSchema := eq_ok_getD hschema _
  replace hextract : (extract rangedSchema).outcome = .ok rangedTable := eq_ok_getD hextract _
  obtain ⟨-, hwritten, hloaded⟩ := load_dump_of_extract hschema hextract
  have htext : Dump.text rangedTable = .ok rangedText := by
    obtain ⟨text, htext⟩ := hwritten havoids
    rw [rangedText, htext]
    rfl
  have hlegible : ∀ s ∈ rangedTable.scalars, Json.Legible s := by
    have hhalf : Json.read (Json.numberLayout.write (.ofDecimal false 5 (-1))) =
        .ok (.scalar (.float (.ofDecimal false 5 (-1)))) := rfl
    rw [hscalars]
    simp [Json.Legible, hhalf]
  have hplace : Path.text ⟨"/", ["ranged.json"]⟩ = "/ranged.json" := by decide
  have hfile : rangedFiles.lookup (Path.text ⟨"/", ["ranged.json"]⟩) =
      .ok (.file rangedText.toUTF8) := by
    have hlocate : rangedFiles.locate "/ranged.json" = .ok ["ranged.json"] := by
      rw [Workspace.locate, if_neg (by simp)]
      decide +kernel
    rw [hplace, Workspace.lookup, hlocate]
    rfl
  have hfiles : (resolveFiles rangedFiles (some ⟨"/", []⟩) ["ranged.json"]).outcome =
      .ok [⟨"/", ["ranged.json"]⟩] :=
    resolveFiles_of_filesOfPattern (filesOfPattern_of_literal (by decide +kernel)
      (by decide +kernel) (by decide +kernel) (by decide +kernel) hfile)
  obtain ⟨hload, htables⟩ :=
    hloaded hlegible rangedText htext rangedFiles ⟨"/", ["ranged.json"]⟩ hfile (by decide +kernel)
  obtain ⟨hdirect, hpatterns⟩ := htables (some ⟨"/", []⟩)
  exact ⟨hschema, hextract, hscalars, havoids, htext, hload, hdirect,
    hpatterns ["ranged.json"] hfiles⟩

/-- A rule whose argument is not given, and has a constant then. -/
def constantSource : String :=
  "directive @d(k: __TypeKind = SCALAR) on INPUT_FIELD_DEFINITION  input A \x7b x: Int @d \x7d"

/-- The schema that the text defines. -/
def constantSchema : Schema := (schemaOfText false constantSource).toOption.getD .empty

/-- The table that is extracted from the schema. -/
def constantTable : Table := (extract constantSchema).outcome.toOption.getD .empty

/-- **Not every extracted table has a text.** -/
theorem text_constantSource_eq_error :
    schemaOfText false constantSource = .ok constantSchema ∧
      (extract constantSchema).outcome = .ok constantTable ∧
      Dump.text constantTable = .error .noNotation := by
  obtain ⟨hschema, hextract, htext⟩ :
      (schemaOfText false constantSource).toOption.isSome = true ∧
        (extract constantSchema).outcome.toOption.isSome = true ∧
        Dump.text constantTable = .error .noNotation := by decide +kernel
  exact ⟨eq_ok_getD hschema _, eq_ok_getD hextract _, htext⟩

end Metadata

end OperationCatalog
