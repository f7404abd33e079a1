import OperationCatalog.Proofs.Text.Splitting
import OperationCatalog.Proofs.TypeScript.Reader

/-!
# Reading a generated module

The text of a module is read back from its outline (`OperationCatalog.TypeScript.read`): the import
is the first line, if it is one, the namespace is the block that says so, with one block for
each declared type, and the operations are the other blocks that export a constant. The types of
the constants are skipped.

Not all of a module is in its text: an import is only written where there is an operation and
a module to import from, and an empty description is not written
(`OperationCatalog.TypeScript.Module.content`). All the rest is read back, if the lines of the
module are lines and the names in its import and the name of its namespace are words
(`OperationCatalog.TypeScript.Module.Legible`). The texts in it do not matter.
-/

namespace OperationCatalog.TypeScript

open Metadata

/-! ### The reader -/

/-- **What the text of a module says.** -/
structure Content where
  /-- The documents that are imported and the module they are imported from, if there is an
  import. -/
  imports : Option (List String × String)
  /-- The namespace of the declared types. -/
  namespaceName : String
  /-- The declared types, in order. -/
  declarations : List Declaration
  /-- The operations, in order. -/
  operations : List OperationCode
  deriving DecidableEq, Repr

/-- The line a block starts with. -/
def Outline.opening : Outline → List Char
  | line _ => []
  | block opening _ => opening

/-- Whether a block starts with some words. -/
def Outline.startsWith (o : Outline) (words : String) : Bool := words.toList.isPrefixOf o.opening

/-- The outline of a text. -/
def outlineOf (text : String) : List Outline :=
  ((text.toList.splitOn '\n').foldl Reading.next ⟨[], []⟩).parts.reverse

/-- An import of documents, if a line is one. The documents are separated by commas. -/
def readImports : Outline → Option (List String × String)
  | .line text => do
    let rest ← text.dropPrefix? "import \x7b ".toList
    let names := (rest.takeWhile (· != '\x7d')).filter (· != ' ')
    let (source, _) ← readLiteral ((rest.dropWhile (· != '\x7d')).drop "\x7d from ".length)
    return ((names.splitOn ',').map String.ofList, String.ofList source)
  | .block _ _ => none

/-- The words that a namespace starts with. -/
def namespaceWords : String := "export namespace "

/-- The words that a constant starts with. -/
def constantWords : String := "export const "

/-- **The content of a text.** -/
def read (text : String) : Option Content := do
  let parts := outlineOf text
  let space ← parts.find? (·.startsWith namespaceWords)
  let name := String.ofList ((space.opening.drop namespaceWords.length).takeWhile (· != ' '))
  let declarations ← space.parts.mapM (readDeclaration name)
  let operations ← (parts.filter (·.startsWith constantWords)).mapM (readOperation name)
  return ⟨parts.head?.bind readImports, name, declarations, operations⟩

/-! ### What is to be read -/

/-- The characters that end a word in a generated module: a line break and what stands after a name
in an import. -/
def wordEnds : List Char := ['\n', ' ', ',', '\x7d']

/-- **A word**: a text without the characters that end one. -/
def IsWord (s : String) : Prop := ∀ c ∈ s.toList, c ∉ wordEnds

instance (s : String) : Decidable (IsWord s) := List.decidableBAll (· ∉ wordEnds) s.toList

theorem IsWord.notMem {s : String} (h : IsWord s) {c : Char} (hc : c ∈ wordEnds) : c ∉ s.toList :=
  fun hmem => h c hmem hc

namespace Module

/-- The documents that a module imports and where from, if there is an operation and something to
be imported from. -/
def imports (m : Module) : Option (List String × String) :=
  match m.documentsImport with
  | some source =>
    if source == "" || m.operations.isEmpty then none
    else some (m.operations.map (·.document), source)
  | none => none

/-- **The content of a module**: all of it but an import that is not due and empty
descriptions. -/
def content (m : Module) : Content :=
  ⟨m.imports, m.namespaceName, m.declarations.map Declaration.said, m.operations⟩

/-- **A module that can be read back**: its lines are lines, and what is no text in its import and
its namespace is made of words. -/
structure Legible (m : Module) : Prop where
  /-- No line is broken. -/
  lines : ∀ line ∈ m.lines, '\n' ∉ line.toList
  /-- The namespace is a word. -/
  namespaceName : IsWord m.namespaceName
  /-- The documents are words. -/
  documents : ∀ o ∈ m.operations, IsWord o.document

end Module

/-! ### Going past the lines of a module -/

namespace Reading

variable {parts : List Outline} {outer : List OpenBlock}

/-- Lines that belong to the members of a list are gone past member by member. -/
theorem run_flatMap {α : Type} {lines : α → List String} {outline : α → Outline} {as : List α}
    (h : ∀ a ∈ as, ∀ parts, (⟨parts, outer⟩ : Reading).run (lines a) =
      ⟨outline a :: parts, outer⟩) (parts : List Outline) :
    (⟨parts, outer⟩ : Reading).run (as.flatMap lines) =
      ⟨(as.map outline).reverse ++ parts, outer⟩ := by
  induction as generalizing parts with
  | nil => rfl
  | cons a as ih =>
    rw [List.flatMap_cons, run_append, h a List.mem_cons_self,
      ih fun b hb => h b (List.mem_cons_of_mem _ hb)]
    simp

/-- Lines that start no block are gone past one by one. -/
theorem run_plain {lines : List String}
    (h : ∀ line ∈ lines, ∃ text, text ≠ [] ∧ opensBlock text = false ∧
      line.toList = List.replicate (2 * outer.length) ' ' ++ text) (parts : List Outline) :
    (⟨parts, outer⟩ : Reading).run lines =
      ⟨(lines.map fun line => .line (line.toList.drop (2 * outer.length))).reverse ++ parts,
        outer⟩ := by
  induction lines generalizing parts with
  | nil => rfl
  | cons line lines ih =>
    obtain ⟨text, hne, htext, hline⟩ := h line List.mem_cons_self
    rw [run_cons, hline, next_line hne htext, ih fun l hl => h l (List.mem_cons_of_mem _ hl)]
    simp [hline]

end Reading

/-! ### Types of constants -/

namespace TypeDeclaration

/-- The lines of a type. -/
def outlines : TypeDeclaration → List Outline
  | choice name alternatives =>
    (("export type " ++ name ++ " =") :: alternativeLines alternatives).map fun line =>
      .line line.toList
  | interface exported name base members =>
    [.block ((if exported then "export " else "") ++ "interface " ++ name ++
        (base.map (" extends " ++ ·)).getD "" ++ " \x7b").toList
      (members.map fun m => .line (m.line.toList.drop 2))]

theorem plain_alternative (alternatives : List String) :
    ∀ line ∈ alternativeLines alternatives, line.toList ≠ [] ∧ opensBlock line.toList = false := by
  induction alternatives using alternativeLines.induct with
  | case1 => simp [alternativeLines]
  | case2 last =>
    refine List.forall_mem_singleton.mpr ⟨by simp, ?_⟩
    exact Reading.opensBlock_append ("  " ++ last) (by decide)
  | case3 first rest hrest ih =>
    rw [alternativeLines.eq_3 _ _ hrest]
    refine List.forall_mem_cons.mpr ⟨⟨by simp, ?_⟩, ih⟩
    exact Reading.opensBlock_append ("  " ++ first) (by decide)

theorem run_lines (d : TypeDeclaration) (parts : List Outline) :
    (⟨parts, []⟩ : Reading).run d.lines = ⟨d.outlines.reverse ++ parts, []⟩ := by
  cases d with
  | choice name alternatives =>
    rw [lines, Reading.run_plain, outlines]
    · rfl
    · refine List.forall_mem_cons.mpr ⟨?_, fun line hline => ?_⟩
      · have first := Reading.opensBlock_append ("export type " ++ name) (show " =" ≠ "" by decide)
        exact ⟨("export type " ++ name ++ " =").toList, by simp, first, rfl⟩
      · obtain ⟨hne, hplain⟩ := plain_alternative alternatives line hline
        exact ⟨_, hne, hplain, rfl⟩
  | interface exported name base members =>
    have inner (m : Member) : ∃ text, text ≠ [] ∧ opensBlock text = false ∧
        m.line.toList = List.replicate 2 ' ' ++ text := by
      refine ⟨("readonly " ++ m.name ++ (if m.optional then "?" else "") ++ ": " ++ m.type ++
        ";").toList, by simp, Reading.opensBlock_append _ (by decide), ?_⟩
      have line : m.line = "  readonly " ++ m.name ++ (if m.optional then "?" else "") ++ ": " ++
        m.type ++ ";" := rfl
      simp [line]
    rw [lines, outlines]
    refine Reading.run_outerBlock (Reading.opensBlock_append _ (by decide)) ?_
    rw [Reading.run_plain]
    · simp [Function.comp_def]
    · intro line hline
      obtain ⟨m, -, rfl⟩ := List.mem_map.mp hline
      exact inner m

end TypeDeclaration

theorem run_declarationLines (ds : List TypeDeclaration) (parts : List Outline) :
    (⟨parts, []⟩ : Reading).run (declarationLines ds) =
      ⟨(ds.flatMap TypeDeclaration.outlines).reverse ++ parts, []⟩ := by
  induction ds using declarationLines.induct generalizing parts with
  | case1 => rfl
  | case2 last =>
    rw [declarationLines, TypeDeclaration.run_lines]
    simp
  | case3 first rest hrest ih =>
    rw [declarationLines.eq_3 _ _ hrest, Reading.run_append, TypeDeclaration.run_lines,
      Reading.run_cons]
    have empty (r : Reading) : r.next "".toList = r := Reading.next_nil r
    rw [empty, ih]
    simp

/-- A type is neither a namespace nor a constant. -/
theorem TypeDeclaration.startsWith_outlines (d : TypeDeclaration) :
    ∀ o ∈ d.outlines, o.startsWith namespaceWords = false ∧ o.startsWith constantWords = false := by
  intro o ho
  cases d with
  | choice name alternatives =>
    obtain ⟨line, -, rfl⟩ := List.mem_map.mp ho
    exact ⟨rfl, rfl⟩
  | interface exported name base members =>
    obtain rfl := List.mem_singleton.mp ho
    cases exported <;>
      simp [Outline.startsWith, Outline.opening, namespaceWords, constantWords, List.isPrefixOf]

/-! ### Constants -/

namespace Module

/-- The outline of the constant of a declared type. -/
def declarationOutline (namespaceName : String) (d : Declaration) : Outline :=
  (declarationCode namespaceName d).outline
    ("export const " ++ d.name ++ ": " ++ interfaceOf d.body ++ " = ") ";"

/-- The outline of the constant of an operation. -/
def operationOutline (namespaceName : String) (o : OperationCode) : Outline :=
  (operationCode namespaceName o).outline
    ("export const " ++ (o.name ++ "Operation") ++ ": " ++ operationType o.document ++ " = ") ";"

/-- The outline of the namespace. -/
def namespaceOutline (m : Module) : Outline :=
  .block ("export namespace " ++ m.namespaceName ++ " \x7b").toList
    (m.declarations.map (declarationOutline m.namespaceName))

/-- The outline of an import, if it is due. -/
def importOutline (m : Module) : List Outline :=
  match m.imports with
  | some (documents, source) => [.line (importLine documents source).toList]
  | none => []

theorem run_empty (r : Reading) (lines : List String) : r.run ("" :: lines) = r.run lines := by
  have empty : r.next "".toList = r := Reading.next_nil r
  rw [Reading.run_cons, empty]

theorem run_declaration (namespaceName : String) (d : Declaration) (parts : List Outline)
    (block : OpenBlock) :
    (⟨parts, [block]⟩ : Reading).run (Module.declarationLines namespaceName d) =
      ⟨declarationOutline namespaceName d :: parts, [block]⟩ := by
  rw [Module.declarationLines, run_empty]
  exact Reading.run_lines _ ";" (Or.inr rfl) parts [block] _

theorem run_operation (namespaceName : String) (o : OperationCode) (parts : List Outline) :
    (⟨parts, []⟩ : Reading).run (operationLines namespaceName o) =
      ⟨operationOutline namespaceName o :: parts, []⟩ := by
  rw [operationLines, run_empty]
  exact Reading.run_lines _ ";" (Or.inr rfl) parts [] _

theorem run_namespace (m : Module) (parts : List Outline) :
    (⟨parts, []⟩ : Reading).run m.namespaceLines = ⟨m.namespaceOutline :: parts, []⟩ := by
  refine Reading.run_outerBlock (Reading.opensBlock_append _ (by decide)) ?_
  rw [Reading.run_flatMap fun d _ parts => run_declaration m.namespaceName d parts _,
    List.append_nil]

theorem importLines_eq (m : Module) : m.importLines =
    match m.imports with
    | some (documents, source) => [importLine documents source, ""]
    | none => [] := by
  unfold importLines imports
  cases m.documentsImport with
  | none => rfl
  | some source => dsimp only; split <;> rfl

theorem run_import (m : Module) (parts : List Outline) :
    (⟨parts, []⟩ : Reading).run m.importLines = ⟨m.importOutline ++ parts, []⟩ := by
  rw [importLines_eq, importOutline]
  cases m.imports with
  | none => rfl
  | some due =>
    obtain ⟨documents, source⟩ := due
    have line := @Reading.run_plain [] [importLine documents source] ?_ parts
    · rw [Reading.run_cons, run_empty]
      exact line
    · refine List.forall_mem_singleton.mpr ⟨(importLine documents source).toList, ?_, ?_, rfl⟩
      · simp [importLine]
      · exact Reading.opensBlock_append _ (by decide)

/-- The outline of a module with some types of constants before the namespace and some after it. -/
def outlinesWith (m : Module) (inputs types : List TypeDeclaration) : List Outline :=
  m.importOutline ++ inputs.flatMap TypeDeclaration.outlines ++ [m.namespaceOutline] ++
    types.flatMap TypeDeclaration.outlines ++ m.operations.map (operationOutline m.namespaceName)

/-- **The outline of a module.** -/
def outlines (m : Module) : List Outline := m.outlinesWith inputTypeInterfaces operationInterfaces

/-- **The lines of a module are gone past**, whatever the types of its constants are. -/
theorem run_linesWith (m : Module) (inputs types : List TypeDeclaration) :
    (⟨[], []⟩ : Reading).run (m.importLines ++ TypeScript.declarationLines inputs ++ [""] ++
        m.namespaceLines ++ [""] ++ TypeScript.declarationLines types ++
        m.operations.flatMap (operationLines m.namespaceName)) =
      ⟨(m.outlinesWith inputs types).reverse, []⟩ := by
  have nothing (r : Reading) : r.run [""] = r := run_empty r []
  have one : ∀ o ∈ m.operations, ∀ parts,
      (⟨parts, []⟩ : Reading).run (operationLines m.namespaceName o) =
        ⟨operationOutline m.namespaceName o :: parts, []⟩ :=
    fun o _ parts => run_operation m.namespaceName o parts
  have imports : m.importOutline.reverse = m.importOutline := by
    unfold importOutline
    split <;> rfl
  simp only [Reading.run_append, nothing]
  rw [run_import, run_declarationLines, run_namespace, run_declarationLines,
    Reading.run_flatMap one, outlinesWith]
  simp [imports]

/-- **The outline of the text of a module**, if its lines are lines. -/
theorem outlineOf_render (m : Module) (h : ∀ line ∈ m.lines, '\n' ∉ line.toList) :
    outlineOf m.render = m.outlines := by
  have run : (⟨[], []⟩ : Reading).run m.lines = ⟨m.outlines.reverse, []⟩ := run_linesWith m _ _
  -- what is left after the last line break is empty and says nothing
  have texts : (m.lines.map String.toList ++ [[]]).foldl Reading.next ⟨[], []⟩ =
      (⟨[], []⟩ : Reading).run m.lines := by
    rw [List.foldl_append, List.foldl_map]
    exact Reading.next_nil _
  rw [outlineOf, render, Text.splitOn_unlines h, texts, run, List.reverse_reverse]

/-! ### Reading the parts -/

variable {m : Module}

theorem declarationCode_eq (namespaceName : String) (d : Declaration) :
    declarationCode namespaceName d = .object (declarationCode namespaceName d).members := by
  unfold declarationCode
  split <;> rfl

theorem readDeclaration_outline (namespaceName : String) (d : Declaration) :
    readDeclaration namespaceName (declarationOutline namespaceName d) = some d.said := by
  refine readDeclaration_of_holds ?_
  rw [declarationOutline, declarationCode_eq]
  exact holds_object _ _ (labelled_declaration namespaceName d)

theorem readOperation_outline (namespaceName : String) (o : OperationCode) :
    readOperation namespaceName (operationOutline namespaceName o) = some o :=
  readOperation_of_holds (holds_object _ _ (labelled_operation namespaceName o))

/-- The types of the constants are skipped. -/
theorem startsWith_typeOutlines (ds : List TypeDeclaration) :
    (ds.flatMap TypeDeclaration.outlines).find? (·.startsWith namespaceWords) = none ∧
      (ds.flatMap TypeDeclaration.outlines).filter (·.startsWith constantWords) = [] := by
  rw [List.find?_eq_none, List.filter_eq_nil_iff]
  constructor
  · intro o ho
    obtain ⟨d, -, ho⟩ := List.mem_flatMap.mp ho
    simp [(d.startsWith_outlines o ho).1]
  · intro o ho
    obtain ⟨d, -, ho⟩ := List.mem_flatMap.mp ho
    simp [(d.startsWith_outlines o ho).2]

/-- So is the import, which is no block. -/
theorem startsWith_importOutline (m : Module) :
    m.importOutline.find? (·.startsWith namespaceWords) = none ∧
      m.importOutline.filter (·.startsWith constantWords) = [] := by
  unfold importOutline
  split
  · exact ⟨rfl, rfl⟩
  · exact ⟨rfl, rfl⟩

theorem startsWith_block (words rest : String) (parts : List Outline) :
    (Outline.block (words ++ rest).toList parts).startsWith words = true := by
  simp [Outline.startsWith, Outline.opening]

theorem find_namespace (m : Module) (inputs types : List TypeDeclaration) :
    (m.outlinesWith inputs types).find? (·.startsWith namespaceWords) =
      some m.namespaceOutline := by
  -- neither the import nor a type starts like a namespace, so the first that does is the one
  have found : m.namespaceOutline.startsWith namespaceWords = true := by
    rw [namespaceOutline, String.append_assoc]
    exact startsWith_block namespaceWords _ _
  simp only [outlinesWith, List.append_assoc, List.singleton_append, List.find?_append,
    startsWith_importOutline m, startsWith_typeOutlines inputs, List.find?_cons, found,
    Option.none_or, Option.some_or]

theorem filter_constants (m : Module) (inputs types : List TypeDeclaration) :
    (m.outlinesWith inputs types).filter (·.startsWith constantWords) =
      m.operations.map (operationOutline m.namespaceName) := by
  have other : m.namespaceOutline.startsWith constantWords = false := by
    simp [namespaceOutline, Outline.startsWith, Outline.opening, constantWords, List.isPrefixOf]
  have constant : ∀ o ∈ m.operations.map (operationOutline m.namespaceName),
      o.startsWith constantWords = true := by
    intro o ho
    obtain ⟨o, -, rfl⟩ := List.mem_map.mp ho
    rw [operationOutline, operationCode, Code.outline]
    simp only [String.append_assoc]
    exact startsWith_block constantWords _ _
  simp only [outlinesWith, List.filter_append, startsWith_importOutline m,
    startsWith_typeOutlines inputs, startsWith_typeOutlines types, List.filter_singleton, other,
    List.filter_eq_self.mpr constant]
  simp

/-- **The name of the namespace is read back.** -/
theorem namespaceName_outline (h : IsWord m.namespaceName) :
    String.ofList ((m.namespaceOutline.opening.drop namespaceWords.length).takeWhile (· != ' ')) =
      m.namespaceName := by
  have opening : m.namespaceOutline.opening =
      namespaceWords.toList ++ (m.namespaceName.toList ++ ' ' :: ['\x7b']) := by
    simp [namespaceOutline, Outline.opening, namespaceWords]
  have word := Text.ne_of_notMem (h.notMem (show ' ' ∈ wordEnds by decide))
  rw [opening, ← String.length_toList, List.drop_left, Text.takeWhile_part word rfl,
    String.ofList_toList]

/-- **An import is read back.** -/
theorem readImports_importLine {documents : List String} (hne : documents ≠ [])
    (h : ∀ d ∈ documents, IsWord d) (source : String) :
    readImports (.line (importLine documents source).toList) = some (documents, source) := by
  have word {c : Char} (hc : c ∈ wordEnds) : ∀ part ∈ documents.map String.toList, c ∉ part := by
    intro part hpart
    obtain ⟨d, hd, rfl⟩ := List.mem_map.mp hpart
    exact (h d hd).notMem hc
  have line : (importLine documents source).toList = "import \x7b ".toList ++
      (", ".toList.intercalate (documents.map String.toList) ++ [' '] ++ '\x7d' ::
        (" from ".toList ++ (textChars source.toList ++ [';']))) := by
    simp [importLine, textLiteral]
  generalize hparts : documents.map String.toList = parts at word line
  -- the names end at the brace, and without the blanks only commas are left between them
  have inside : ∀ c ∈ ", ".toList.intercalate parts ++ [' '], (c != '\x7d') = true := by
    have separator := Text.ne_of_notMem (show '\x7d' ∉ ", ".toList by decide)
    refine List.forall_mem_append.mpr ⟨?_, List.forall_mem_singleton.mpr rfl⟩
    exact Text.forall_mem_intercalate separator fun part hpart =>
      Text.ne_of_notMem (word (by decide) part hpart)
  have blanks : (", ".toList.intercalate parts ++ [' ']).filter (· != ' ') =
      [','].intercalate parts := by
    rw [List.filter_append, Text.filter_intercalate ", ".toList fun part hpart =>
      Text.ne_of_notMem (word (by decide) part hpart)]
    simp
  have split : ([','].intercalate parts).splitOn ',' = parts := by
    refine List.splitOn_intercalate ',' (word (by decide)) ?_
    simpa [← hparts] using hne
  have rest : ('\x7d' :: (" from ".toList ++ (textChars source.toList ++ [';']))).drop
      "\x7d from ".length = textChars source.toList ++ [';'] := by
    have length : "\x7d from ".length = 7 := by decide
    simp [length]
  have names : parts.map String.ofList = documents := by
    rw [← hparts, List.map_map]
    simp
  rw [readImports, line, List.dropPrefix?_append_of_beq _ (BEq.refl _)]
  have brace : ('\x7d' != '\x7d') = false := rfl
  simp only [Option.bind_eq_bind, Option.bind_some, Text.takeWhile_part inside brace,
    Text.dropWhile_part inside brace, blanks, split, rest, names, readLiteral_textChars,
    String.ofList_toList]
  rfl

theorem imports_eq_some {documents : List String} {source : String}
    (h : m.imports = some (documents, source)) :
    m.operations ≠ [] ∧ documents = m.operations.map (·.document) := by
  unfold imports at h
  split at h
  · split at h
    · simp at h
    · rename_i hdue
      cases h
      simp_all
  · simp at h

theorem head_outlines (h : m.Legible) : m.outlines.head?.bind readImports = m.imports := by
  cases himports : m.imports with
  | none =>
    have nothing : m.importOutline = [] := by rw [importOutline, himports]
    rw [outlines, outlinesWith, nothing]
    rfl
  | some due =>
    obtain ⟨documents, source⟩ := due
    have one : m.importOutline = [.line (importLine documents source).toList] := by
      rw [importOutline, himports]
    obtain ⟨hne, hdocuments⟩ := imports_eq_some himports
    rw [outlines, outlinesWith, one]
    refine readImports_importLine ?_ ?_ source
    · simpa [hdocuments] using hne
    · intro d hd
      rw [hdocuments] at hd
      obtain ⟨o, ho, rfl⟩ := List.mem_map.mp hd
      exact h.documents o ho

end Module

/-- **The content of a module is read back from its text.** -/
theorem read_render {m : Module} (h : m.Legible) : read m.render = some m.content := by
  rw [read, Module.outlineOf_render m h.lines, Module.head_outlines h, Module.outlines]
  simp only [Module.find_namespace, Module.filter_constants, Option.bind_eq_bind, Option.bind_some,
    Module.namespaceName_outline h.namespaceName]
  have declarations : m.namespaceOutline.parts.mapM (readDeclaration m.namespaceName) =
      some (m.declarations.map Declaration.said) :=
    mapM_map_eq_some fun d _ => Module.readDeclaration_outline m.namespaceName d
  have operations : (m.operations.map (Module.operationOutline m.namespaceName)).mapM
      (readOperation m.namespaceName) = some (m.operations.map id) :=
    mapM_map_eq_some fun o _ => Module.readOperation_outline m.namespaceName o
  rw [declarations, operations, List.map_id]
  rfl

end OperationCatalog.TypeScript
