import OperationCatalog.Proofs.GraphQL.Parser
import OperationCatalog.Proofs.Json.SingleLine
import OperationCatalog.Proofs.TypeScript.Reference
import OperationCatalog.Proofs.TypeScript.RoundTrip

/-!
# Generated modules can be read back

What could break a line of a generated module, and why it does not:

* texts are escaped, so whatever the metadata and the documents say stays inside its literal;
* opaque values are written on one line;
* the names of operations come from documents that were parsed, so they are names;
* the namespace, what names the documents, and the names of the declared types are used as
  they are. These have to be words, and nothing else is asked for: what is referred to is
  one of the declared types.

So the content of a generated module is read back from its text, and two modules with the same text
have the same content (`OperationCatalog.TypeScript.read_render_generate`).
-/

namespace OperationCatalog.TypeScript

open Metadata

/-! ### Code on lines -/

/-- A text without a line break. -/
def OneLine (s : String) : Prop := '\n' ∉ s.toList

instance (s : String) : Decidable (OneLine s) := inferInstanceAs (Decidable ('\n' ∉ s.toList))

section

variable {s t : String} {items : List Code} {members : List (String × Code)}

@[simp] theorem oneLine_append : OneLine (s ++ t) ↔ OneLine s ∧ OneLine t := by
  simp [OneLine]

theorem IsWord.oneLine (h : IsWord s) : OneLine s := h.notMem (by decide)

theorem oneLine_of_visible (h : Visible s.toList) : OneLine s := fun hmem =>
  absurd (h '\n' hmem) (by decide)

@[simp] theorem oneLine_textLiteral : OneLine (textLiteral s) := newline_notMem_textLiteral s

@[simp] theorem oneLine_boolLiteral {b : Bool} : OneLine (boolLiteral b) := by
  cases b <;> decide

@[simp] theorem oneLine_indented {columns : Nat} :
    OneLine (Code.indented columns s) ↔ OneLine s := by
  simp [OneLine, Code.indented]

namespace Code

mutual

/-- **Code that holds no line break.** -/
def Unbroken : Code → Prop
  | line text => OneLine text
  | array items => UnbrokenItems items
  | object members => UnbrokenMembers members

/-- Items that hold no line break. -/
def UnbrokenItems : List Code → Prop
  | [] => True
  | item :: rest => item.Unbroken ∧ UnbrokenItems rest

/-- Members that hold no line break. -/
def UnbrokenMembers : List (String × Code) → Prop
  | [] => True
  | (name, value) :: rest => OneLine name ∧ value.Unbroken ∧ UnbrokenMembers rest

end

@[simp] theorem unbroken_line : (line s).Unbroken ↔ OneLine s := Iff.rfl

@[simp] theorem unbroken_text : (text s).Unbroken := oneLine_textLiteral

@[simp] theorem unbroken_bool {b : Bool} : (bool b).Unbroken := oneLine_boolLiteral

@[simp] theorem unbroken_array : (array items).Unbroken ↔ ∀ item ∈ items, item.Unbroken := by
  change UnbrokenItems items ↔ _
  induction items with
  | nil => simp [UnbrokenItems]
  | cons item rest ih => simp [UnbrokenItems, ih]

@[simp] theorem unbroken_object :
    (object members).Unbroken ↔ ∀ m ∈ members, OneLine m.1 ∧ m.2.Unbroken := by
  change UnbrokenMembers members ↔ _
  induction members with
  | nil => simp [UnbrokenMembers]
  | cons m rest ih =>
    obtain ⟨name, value⟩ := m
    simp [UnbrokenMembers, ih, and_assoc]

mutual

/-- **The lines of unbroken code are lines.** -/
theorem oneLine_lines (columns : Nat) {before after : String} (hbefore : OneLine before)
    (hafter : OneLine after) :
    ∀ code : Code, code.Unbroken → ∀ line ∈ code.lines columns before after, OneLine line
  | .line text, h => by
    simpa [lines, hbefore, hafter] using h
  | .array items, h => by
    -- what stands around the array is on its first and last line, where only brackets are added
    have inner := oneLine_itemLines (columns + 2) items h
    have bracket : OneLine "[" ∧ OneLine "]" := by decide
    simpa [lines, or_imp, forall_and, hbefore, hafter, bracket] using inner
  | .object members, h => by
    have inner := oneLine_memberLines (columns + 2) members h
    have brace : OneLine "\x7b" ∧ OneLine "\x7d" := by decide
    simpa [lines, or_imp, forall_and, hbefore, hafter, brace] using inner

theorem oneLine_itemLines (columns : Nat) :
    ∀ items : List Code, UnbrokenItems items → ∀ line ∈ itemLines columns items, OneLine line
  | [], _ => by simp [itemLines]
  | item :: rest, h => by
    have around : OneLine "" ∧ OneLine "," := by decide
    have first := oneLine_lines columns around.1 around.2 item h.1
    exact List.forall_mem_append.mpr ⟨first, oneLine_itemLines columns rest h.2⟩

theorem oneLine_memberLines (columns : Nat) : ∀ members : List (String × Code),
    UnbrokenMembers members → ∀ line ∈ memberLines columns members, OneLine line
  | [], _ => by simp [memberLines]
  | (name, value) :: rest, h => by
    have label : OneLine (name ++ ": ") := oneLine_append.mpr ⟨h.1, by decide⟩
    have first := oneLine_lines columns label (show OneLine "," by decide) value h.2.1
    exact List.forall_mem_append.mpr ⟨first, oneLine_memberLines columns rest h.2.2⟩

end

end Code

end

/-! ### Constants on lines -/

section

variable {namespaceName : String}

/-- A member that may be left out is unbroken if what it may hold is. -/
theorem unbroken_memberOption {α : Type} {name : String} (hname : OneLine name) {value : Option α}
    {write : α → Code} (h : ∀ a ∈ value, (write a).Unbroken) :
    ∀ m ∈ memberOption name (value.map write), OneLine m.1 ∧ m.2.Unbroken := by
  intro m hm
  cases value with
  | none => simp [memberOption] at hm
  | some a =>
    obtain rfl := List.mem_singleton.mp hm
    exact ⟨hname, h a rfl⟩

/-- An array that is left out where it is empty is unbroken if its items are. -/
theorem unbroken_memberOption_array {α : Type} {name : String} (hname : OneLine name)
    {values : List α} {write : α → Code} (h : ∀ a ∈ values, (write a).Unbroken) :
    ∀ m ∈ memberOption name ((if values.isEmpty then none else some values).map fun values =>
      .array (values.map write)), OneLine m.1 ∧ m.2.Unbroken := by
  refine unbroken_memberOption hname fun given hgiven => ?_
  split at hgiven
  · simp at hgiven
  · obtain rfl := Option.some.inj hgiven
    rw [Code.unbroken_array, List.forall_mem_map]
    exact h

/-- The opaque values of a rule. -/
def RuleCode.values (r : RuleCode) : List String :=
  r.constraints ++ r.context.toList ++ r.options.toList

/-- **The code of a rule is unbroken** if its opaque values are on one line. -/
theorem unbroken_rule {r : RuleCode} (h : ∀ s ∈ r.values, OneLine s) : r.code.Unbroken := by
  simp only [RuleCode.values, List.forall_mem_append, Option.mem_toList] at h
  obtain ⟨⟨hconstraints, hcontext⟩, hoptions⟩ := h
  have members : ∀ m ∈ r.code.members, OneLine m.1 ∧ m.2.Unbroken := by
    rw [members_rule]
    simp only [List.forall_mem_append, List.forall_mem_cons]
    exact ⟨⟨⟨⟨⟨by decide, Code.unbroken_text⟩,
      unbroken_memberOption_array (by decide) hconstraints⟩,
      unbroken_memberOption (by decide) fun _ _ => Code.unbroken_bool⟩,
      unbroken_memberOption (by decide) hcontext⟩,
      unbroken_memberOption (by decide) hoptions⟩
  exact Code.unbroken_object.mpr members

theorem unbroken_reference (hnamespace : OneLine namespaceName) {kind : TypeKind} {type : String}
    (h : kind ≠ .scalar → OneLine type) : (Module.reference namespaceName kind type).Unbroken := by
  unfold Module.reference
  split
  · exact Code.unbroken_text
  · rename_i hkind
    have dot : OneLine "." := by decide
    simp [hnamespace, h hkind, dot]

/-- **The code of a field is unbroken** if the type it refers to and its opaque values are on one
line. Its name is a text and may be anything. -/
theorem unbroken_field (hnamespace : OneLine namespaceName) {f : FieldCode}
    (htype : f.shape.typeKind ≠ .scalar → OneLine f.type)
    (hvalues : ∀ r ∈ f.rules, ∀ s ∈ r.values, OneLine s) :
    (Module.fieldCode namespaceName f).Unbroken := by
  have reference := unbroken_reference hnamespace htype
  have members : ∀ m ∈ (Module.fieldCode namespaceName f).members,
      OneLine m.1 ∧ m.2.Unbroken := by
    rw [members_field]
    simp only [List.forall_mem_append, List.forall_mem_cons]
    exact ⟨⟨⟨⟨⟨⟨by decide, Code.unbroken_text⟩, ⟨by decide, Code.unbroken_text⟩, by simp⟩,
      unbroken_memberOption (by decide) fun _ _ => Code.unbroken_text⟩,
      ⟨by decide, reference⟩, ⟨by decide, Code.unbroken_bool⟩, by simp⟩,
      unbroken_memberOption (by decide) fun _ _ => Code.unbroken_bool⟩,
      unbroken_memberOption_array (by decide) fun r hr => unbroken_rule (hvalues r hr)⟩
  exact Code.unbroken_object.mpr members

theorem unbroken_parameter (hnamespace : OneLine namespaceName) {p : ParameterCode}
    (htype : p.shape.typeKind ≠ .scalar → OneLine p.type) :
    (Module.parameterCode namespaceName p).Unbroken := by
  have reference := unbroken_reference hnamespace htype
  have members : ∀ m ∈ (Module.parameterCode namespaceName p).members,
      OneLine m.1 ∧ m.2.Unbroken := by
    rw [members_parameter]
    simp only [List.forall_mem_append, List.forall_mem_cons]
    exact ⟨⟨⟨⟨⟨by decide, Code.unbroken_text⟩, ⟨by decide, Code.unbroken_bool⟩,
      ⟨by decide, Code.unbroken_text⟩, by simp⟩,
      unbroken_memberOption (by decide) fun _ _ => Code.unbroken_text⟩,
      ⟨by decide, reference⟩, by simp⟩,
      unbroken_memberOption (by decide) fun _ _ => Code.unbroken_bool⟩
  exact Code.unbroken_object.mpr members

/-- The opaque values of a declared type. -/
def Declaration.values (d : Declaration) : List String :=
  match d.body with
  | .enum _ => []
  | .object fields => fields.flatMap fun f => f.rules.flatMap RuleCode.values

/-- **The code of a declared type is unbroken** if the types it refers to and its opaque values
are on one line. -/
theorem unbroken_declaration (hnamespace : OneLine namespaceName) {d : Declaration}
    (hmentions : ∀ shape type, (shape, type) ∈ d.mentions → shape.typeKind ≠ .scalar → OneLine type)
    (hvalues : ∀ s ∈ d.values, OneLine s) : (Module.declarationCode namespaceName d).Unbroken := by
  have members : ∀ m ∈ (Module.declarationCode namespaceName d).members,
      OneLine m.1 ∧ m.2.Unbroken := by
    rw [members_declaration]
    refine List.forall_mem_append.mpr ⟨List.forall_mem_append.mpr ⟨?_, ?_⟩, ?_⟩
    · simp only [List.forall_mem_cons]
      exact ⟨⟨by decide, Code.unbroken_text⟩, ⟨by decide, Code.unbroken_text⟩, by simp⟩
    · exact unbroken_memberOption (by decide) fun _ _ => Code.unbroken_text
    · unfold Declaration.mentions Declaration.values at *
      cases hbody : d.body with
      | enum values =>
        refine List.forall_mem_singleton.mpr ⟨show OneLine "values" by decide, ?_⟩
        rw [Code.unbroken_array, List.forall_mem_map]
        exact fun _ _ => Code.unbroken_text
      | object fields =>
        rw [hbody] at hmentions hvalues
        refine List.forall_mem_singleton.mpr ⟨show OneLine "fields" by decide, ?_⟩
        rw [Code.unbroken_array, List.forall_mem_map]
        intro f hf
        have type : f.shape.typeKind ≠ .scalar → OneLine f.type :=
          hmentions f.shape f.type (List.mem_map.mpr ⟨f, hf, rfl⟩)
        exact unbroken_field hnamespace type fun r hr s hs =>
          hvalues s (List.mem_flatMap.mpr ⟨f, hf, List.mem_flatMap.mpr ⟨r, hr, hs⟩⟩)
  rw [Module.declarationCode_eq]
  exact Code.unbroken_object.mpr members

/-- **The code of an operation is unbroken** if its document and the types it refers to are on one
line. -/
theorem unbroken_operation (hnamespace : OneLine namespaceName) {o : OperationCode}
    (hdocument : OneLine o.document)
    (hmentions : ∀ shape type, (shape, type) ∈ o.mentions → shape.typeKind ≠ .scalar →
      OneLine type) :
    (Module.operationCode namespaceName o).Unbroken := by
  have codes : (Code.array (o.parameters.map (Module.parameterCode namespaceName))).Unbroken := by
    rw [Code.unbroken_array, List.forall_mem_map]
    intro p hp
    exact unbroken_parameter hnamespace
      (hmentions p.shape p.type (List.mem_map.mpr ⟨p, hp, rfl⟩))
  rw [Module.operationCode, Code.unbroken_object]
  simp only [List.forall_mem_cons]
  exact ⟨⟨by decide, Code.unbroken_text⟩, ⟨by decide, Code.unbroken_text⟩,
    ⟨by decide, hdocument⟩, ⟨by decide, codes⟩, by simp⟩

end

/-! ### Types of constants on lines -/

namespace TypeDeclaration

/-- The texts that a type is made of. -/
def texts : TypeDeclaration → List String
  | choice name alternatives => name :: alternatives
  | interface _ name base members =>
    name :: base.toList ++ members.flatMap fun m => [m.name, m.type]

theorem oneLine_alternativeLines {alternatives : List String}
    (h : ∀ s ∈ alternatives, OneLine s) : ∀ line ∈ alternativeLines alternatives, OneLine line := by
  have marks : OneLine "  " ∧ OneLine ";" ∧ OneLine " |" := by decide
  induction alternatives using alternativeLines.induct with
  | case1 => simp [alternativeLines]
  | case2 last =>
    have hlast := h last List.mem_cons_self
    exact List.forall_mem_singleton.mpr (by simp [hlast, marks])
  | case3 first rest hrest ih =>
    rw [alternativeLines.eq_3 _ _ hrest]
    obtain ⟨hfirst, hlater⟩ := List.forall_mem_cons.mp h
    exact List.forall_mem_cons.mpr ⟨by simp [hfirst, marks], ih hlater⟩

theorem oneLine_memberLine {m : Member} (hname : OneLine m.name) (htype : OneLine m.type) :
    OneLine m.line := by
  have marks : OneLine "  readonly " ∧ OneLine "?" ∧ OneLine "" ∧ OneLine ": " ∧ OneLine ";" := by
    decide
  change OneLine ("  readonly " ++ m.name ++ (if m.optional then "?" else "") ++ ": " ++ m.type ++
    ";")
  split <;> simp [hname, htype, marks]

theorem oneLine_lines {d : TypeDeclaration} (h : ∀ s ∈ d.texts, OneLine s) :
    ∀ line ∈ d.lines, OneLine line := by
  cases d with
  | choice name alternatives =>
    obtain ⟨hname, halternatives⟩ := List.forall_mem_cons.mp h
    have marks : OneLine "export type " ∧ OneLine " =" := by decide
    exact List.forall_mem_cons.mpr
      ⟨by simp [hname, marks], oneLine_alternativeLines halternatives⟩
  | interface exported name base members =>
    obtain ⟨hhead, hmembers⟩ := List.forall_mem_append.mp h
    obtain ⟨hname, hbase⟩ := List.forall_mem_cons.mp hhead
    have marks : OneLine "interface " ∧ OneLine " \x7b" ∧ OneLine "\x7d" := by decide
    have visibility : OneLine (if exported then "export " else "") := by
      cases exported <;> decide
    have extension : OneLine ((base.map (" extends " ++ ·)).getD "") := by
      cases base with
      | none => exact show OneLine "" by decide
      | some other =>
        have hother := hbase other (by simp)
        exact oneLine_append.mpr ⟨by decide, hother⟩
    refine List.forall_mem_append.mpr ⟨List.forall_mem_cons.mpr ⟨?_, ?_⟩, by simp [marks]⟩
    · simp [hname, marks, visibility, extension]
    · rw [List.forall_mem_map]
      intro m hm
      have both : ∀ s ∈ [m.name, m.type], OneLine s := fun s hs =>
        hmembers s (List.mem_flatMap.mpr ⟨m, hm, hs⟩)
      exact oneLine_memberLine (both _ (by simp)) (both _ (by simp))

end TypeDeclaration

theorem oneLine_declarationLines {ds : List TypeDeclaration}
    (h : ∀ d ∈ ds, ∀ s ∈ d.texts, OneLine s) : ∀ line ∈ declarationLines ds, OneLine line := by
  induction ds using declarationLines.induct with
  | case1 => simp [declarationLines]
  | case2 last => exact TypeDeclaration.oneLine_lines (h last List.mem_cons_self)
  | case3 first rest hrest ih =>
    rw [declarationLines.eq_3 _ _ hrest]
    obtain ⟨hfirst, hlater⟩ := List.forall_mem_cons.mp h
    have empty : OneLine "" := by decide
    exact List.forall_mem_append.mpr ⟨TypeDeclaration.oneLine_lines hfirst,
      List.forall_mem_cons.mpr ⟨empty, ih hlater⟩⟩

theorem oneLine_inputTypeInterfaces :
    ∀ line ∈ declarationLines inputTypeInterfaces, OneLine line :=
  oneLine_declarationLines (by decide +kernel)

theorem oneLine_operationInterfaces :
    ∀ line ∈ declarationLines operationInterfaces, OneLine line :=
  oneLine_declarationLines (by decide +kernel)

/-! ### Modules on lines -/

namespace Module

variable {m : Module}

theorem oneLine_importLine {documents : List String} (h : ∀ d ∈ documents, OneLine d)
    (source : String) : OneLine (importLine documents source) := by
  have parts : ∀ part ∈ documents.map String.toList, ∀ c ∈ part, (c != '\n') = true := by
    intro part hpart
    obtain ⟨d, hd, rfl⟩ := List.mem_map.mp hpart
    exact Text.ne_of_notMem (h d hd)
  have separator := Text.ne_of_notMem (show '\n' ∉ ", ".toList by decide)
  have names : OneLine (", ".intercalate documents) := by
    intro hmem
    rw [String.toList_intercalate] at hmem
    exact absurd (Text.forall_mem_intercalate separator parts _ hmem) (by decide)
  have start : OneLine "import \x7b " ∧ OneLine " \x7d from " ∧ OneLine ";" := by decide
  simp [importLine, names, start]

theorem oneLine_importLines (h : ∀ o ∈ m.operations, OneLine o.document) :
    ∀ line ∈ m.importLines, OneLine line := by
  have line (source : String) := oneLine_importLine (List.forall_mem_map.mpr h) source
  have empty : OneLine "" := by decide
  unfold importLines
  split
  · split
    · simp
    · simp [line, empty]
  · simp

theorem oneLine_declarationLines {namespaceName : String} {d : Declaration} (hname : OneLine d.name)
    (h : (declarationCode namespaceName d).Unbroken) :
    ∀ line ∈ Module.declarationLines namespaceName d, OneLine line := by
  have type : OneLine (interfaceOf d.body) := by
    cases d.body with
    | enum values => exact show OneLine "GraphQLInputEnumTypeMetadata" by decide
    | object fields => exact show OneLine "GraphQLInputObjectTypeMetadata" by decide
  have start : OneLine "export const " ∧ OneLine ": " ∧ OneLine " = " := by decide
  have before : OneLine ("export const " ++ d.name ++ ": " ++ interfaceOf d.body ++ " = ") := by
    simp [hname, type, start]
  rw [Module.declarationLines, Code.constantLines]
  have inner := Code.oneLine_lines 2 before (show OneLine ";" by decide) _ h
  exact List.forall_mem_cons.mpr ⟨by decide, inner⟩

theorem oneLine_operationLines {namespaceName : String} {o : OperationCode}
    (hname : OneLine o.name) (hdocument : OneLine o.document)
    (h : (operationCode namespaceName o).Unbroken) :
    ∀ line ∈ operationLines namespaceName o, OneLine line := by
  have type : OneLine (operationType o.document) := by
    have start : OneLine "GraphQLOperationMetadata<typeof " ∧ OneLine ">" := by decide
    exact oneLine_append.mpr ⟨oneLine_append.mpr ⟨start.1, hdocument⟩, start.2⟩
  have start : OneLine "export const " ∧ OneLine "Operation" ∧ OneLine ": " ∧ OneLine " = " := by
    decide
  have before : OneLine ("export const " ++ (o.name ++ "Operation") ++ ": " ++
      operationType o.document ++ " = ") := by
    simp [hname, type, start]
  rw [operationLines, Code.constantLines]
  have inner := Code.oneLine_lines 0 before (show OneLine ";" by decide) _ h
  exact List.forall_mem_cons.mpr ⟨by decide, inner⟩

/-- The opaque values of a module. -/
def values (m : Module) : List String := m.declarations.flatMap Declaration.values

/-- **What makes a module legible**: its opaque values are on one line, and all that stands in it
as it is – its namespace, its documents, and the names of its constants and of what it refers
to – is made of words. -/
theorem legible_of_words (hnamespace : IsWord m.namespaceName)
    (hdeclarations : ∀ d ∈ m.declarations, OneLine d.name)
    (hoperations : ∀ o ∈ m.operations, OneLine o.name ∧ IsWord o.document)
    (hmentions : ∀ shape type, (shape, type) ∈ m.mentions → shape.typeKind ≠ .scalar → OneLine type)
    (hvalues : ∀ s ∈ m.values, OneLine s) : m.Legible := by
  refine ⟨?_, hnamespace, fun o ho => (hoperations o ho).2⟩
  have imports := oneLine_importLines fun o ho => (hoperations o ho).2.oneLine
  have namespaceLines : ∀ line ∈ m.namespaceLines, OneLine line := by
    have start : OneLine "export namespace " ∧ OneLine " \x7b" ∧ OneLine "\x7d" := by decide
    have opening : OneLine ("export namespace " ++ m.namespaceName ++ " \x7b") := by
      simp [hnamespace.oneLine, start]
    refine List.forall_mem_append.mpr ⟨List.forall_mem_cons.mpr ⟨opening, ?_⟩, by simp [start]⟩
    intro line hline
    obtain ⟨d, hd, hline⟩ := List.mem_flatMap.mp hline
    refine oneLine_declarationLines (hdeclarations d hd) (unbroken_declaration
      hnamespace.oneLine (fun shape type hmention => ?_) fun s hs => ?_) line hline
    · exact hmentions shape type (List.mem_append_left _ (List.mem_flatMap.mpr ⟨d, hd, hmention⟩))
    · exact hvalues s (List.mem_flatMap.mpr ⟨d, hd, hs⟩)
  have operationLines : ∀ line ∈ m.operations.flatMap (operationLines m.namespaceName),
      OneLine line := by
    intro line hline
    obtain ⟨o, ho, hline⟩ := List.mem_flatMap.mp hline
    obtain ⟨hname, hdocument⟩ := hoperations o ho
    refine oneLine_operationLines hname hdocument.oneLine (unbroken_operation
      hnamespace.oneLine hdocument.oneLine fun shape type hmention => ?_) line hline
    exact hmentions shape type (List.mem_append_right _ (List.mem_flatMap.mpr ⟨o, ho, hmention⟩))
  have empty : ∀ line ∈ [""], OneLine line := by decide
  unfold lines
  simp only [List.forall_mem_append]
  exact ⟨⟨⟨⟨⟨⟨imports, oneLine_inputTypeInterfaces⟩, empty⟩, namespaceLines⟩, empty⟩,
    oneLine_operationInterfaces⟩, operationLines⟩

end Module

/-! ### Words -/

section

variable {s t : String}

theorem IsWord.append (hs : IsWord s) (ht : IsWord t) : IsWord (s ++ t) := by
  intro c hc
  rw [String.toList_append, List.mem_append] at hc
  exact hc.elim (hs c) (ht c)

/-- A text is a word if all of its characters have a property that no end of a word has. -/
theorem isWord_of_all {property : Char → Bool} (hends : wordEnds.any property = false)
    (h : s.toList.all property = true) : IsWord s := by
  intro c hc hend
  exact List.any_eq_false.mp hends c hend (List.all_eq_true.mp h c hc)

theorem isWord_of_isName (h : GraphQL.IsName s) : IsWord s := isWord_of_all (by decide) h.2

/-- A text that only has characters of identifiers is a word. -/
theorem isWord_of_isIdentifierChar (h : s.toList.all Config.isIdentifierChar = true) : IsWord s :=
  isWord_of_all (by decide) h

end

/-! ### Generated modules are legible -/

section

variable {config : Config} {table : Table} {documents : List GraphQL.Document} {m : Module}

/-- A literal of an opaque value is on one line. -/
theorem oneLine_of_valueLiteral {g : ValueGraph} {s : String} (h : valueLiteral g = .ok s) :
    OneLine s :=
  oneLine_of_visible (Json.visible_compactText h)

theorem oneLine_of_ruleCode {r : Rule} {code : RuleCode} (h : ruleCode r = .ok code) :
    ∀ s ∈ code.values, OneLine s := by
  obtain ⟨-, -, hconstraints, hcontext, hoptions⟩ := ruleCode_eq_ok h
  have optional {value : Option ValueGraph} {text : Option String}
      (h : optionalLiteral value = .ok text) : ∀ s ∈ text.toList, OneLine s := by
    intro s hs
    obtain ⟨g, -, hg⟩ := optionalLiteral_eq_ok h s (Option.mem_toList.mp hs)
    exact oneLine_of_valueLiteral hg
  simp only [RuleCode.values, List.forall_mem_append]
  -- the name of a rule is a text, so only its arguments, context and settings matter
  refine ⟨⟨fun s hs => ?_, optional hcontext⟩, optional hoptions⟩
  obtain ⟨g, -, hg⟩ := exists_of_forall₂_of_mem hconstraints hs
  exact oneLine_of_valueLiteral hg

/-- **The opaque values of a declared type** are on one line. -/
theorem oneLine_of_declarationOf {t : InputType} {d : Declaration}
    (h : declarationOf table t = .ok d) : ∀ s ∈ d.values, OneLine s := by
  intro s hs
  obtain ⟨-, -, ⟨values, -, hbody⟩ | ⟨fields, hbody, hfields⟩⟩ := declarationOf_eq_ok h
  · simp [Declaration.values, hbody] at hs
  · simp only [Declaration.values, hbody, List.mem_flatMap] at hs
    obtain ⟨code, hcode, c, hc, hs⟩ := hs
    obtain ⟨field, -, hfield⟩ := exists_of_forall₂_of_mem hfields hcode
    obtain ⟨-, -, -, -, hrules⟩ := fieldOf_eq_ok hfield
    obtain ⟨r, -, hr⟩ := exists_of_forall₂_of_mem hrules hc
    exact oneLine_of_ruleCode hr s hs

/-- An operation of a catalog is named by a name, if the documents were parsed, and its document by
that and the suffix. -/
theorem isName_of_build {entries : List Catalog.Entry}
    (h : (Catalog.build table config.documentSuffix documents).outcome = .ok entries)
    (parsed : ∀ d ∈ documents, d.Parsed) {e : Catalog.Entry} (he : e ∈ entries) :
    GraphQL.IsName e.name ∧ e.document = e.name ++ config.documentSuffix := by
  obtain ⟨d, hd, o, ho, hdescribed⟩ := Catalog.exists_operation_of_build h e he
  obtain ⟨hname, -, hdocument, -⟩ := Catalog.describeOperation_eq_some hdescribed
  exact ⟨(Catalog.lexical_of_mem_operationsOf (parsed d hd) ho).name _ hname, hdocument⟩

/-- **A run that a module comes from**, in which all that stands in the module as it is consists of
words: the namespace, what names the documents, and the names of the declared types. Texts of
identifier characters are words (`OperationCatalog.TypeScript.isWord_of_isIdentifierChar`), and so
are the names of the operations, as the documents were parsed. -/
structure Run (config : Config) (table : Table) (documents : List GraphQL.Document)
    (m : Module) : Prop where
  /-- The module is what is generated. -/
  outcome : (generate config table documents).outcome = .ok m
  /-- The documents were parsed. -/
  parsed : ∀ d ∈ documents, d.Parsed
  /-- The namespace is a word. -/
  namespaceName : IsWord config.namespaceName
  /-- What names the documents is a word. -/
  documentSuffix : IsWord config.documentSuffix
  /-- The names of the declared types are words. -/
  declarations : ∀ d ∈ m.declarations, IsWord d.name

/-- **A generated module is legible.** -/
theorem Run.legible (run : Run config table documents m) : m.Legible := by
  obtain ⟨entries, closure, hentries, -, hdeclarations, hoperations, -⟩ :=
    exists_closure_of_generate run.outcome
  have hnamespace : m.namespaceName = config.namespaceName := by
    obtain ⟨_, -, hm⟩ := generate_eq_ok_iff.mp run.outcome
    obtain ⟨_, -, _, -, rfl⟩ := moduleOf_eq_ok_iff.mp hm
    rfl
  refine Module.legible_of_words (hnamespace ▸ run.namespaceName)
    (fun d hd => (run.declarations d hd).oneLine) ?_ ?_ ?_
  · rw [hoperations, List.forall_mem_map]
    intro e he
    obtain ⟨hname, hdocument⟩ := isName_of_build hentries run.parsed he
    have word := isWord_of_isName hname
    have document : IsWord e.document := hdocument ▸ word.append run.documentSuffix
    exact ⟨word.oneLine, document⟩
  · -- what is referred to is declared, or has no name at all
    intro shape type hmention hkind
    by_cases hnamed : type = ""
    · exact hnamed ▸ show OneLine "" by decide
    · obtain ⟨-, hdeclared⟩ := declared_of_mem_mentions run.outcome hmention hkind
      obtain ⟨d, hd, rfl⟩ := List.mem_map.mp (hdeclared hnamed)
      exact (run.declarations d hd).oneLine
  · intro s hs
    obtain ⟨d, hd, hs⟩ := List.mem_flatMap.mp hs
    obtain ⟨t, -, ht⟩ := exists_of_forall₂_of_mem hdeclarations hd
    exact oneLine_of_declarationOf ht s hs

/-- **The content of a generated module is in its text.** It is read back from the text alone, so
two runs whose modules have the same text describe the same namespace, declared types and
operations, up to an import that is not due and descriptions that are empty. What the texts and
opaque values of the metadata hold does not matter. -/
theorem read_render_generate (run : Run config table documents m) :
    read m.render = some m.content ∧
      ∀ config' table' documents' m', Run config' table' documents' m' → m'.render = m.render →
        m'.content = m.content := by
  have recovered := read_render run.legible
  refine ⟨recovered, fun config' table' documents' m' run' hrender => ?_⟩
  have recovered' := read_render run'.legible
  rw [hrender, recovered] at recovered'
  exact (Option.some.inj recovered').symm

/-- An object and an enumeration whose texts and opaque values hold what code is made of: quotes,
backslashes, line breaks, brackets, and what could be lines of a constant. -/
def noteTable : Table := .ofTypes
  [⟨"Note", some "It's\n    values: [\\", .object
      [⟨"tags", "Tag", true, some [⟨"matches", some [.ofTree (.text "'\n\x7d,")], some true, none,
        some (.ofTree (.map [(.str "flags", .list [.text "\"\\"])]))⟩], .list none false⟩]⟩,
    ⟨"Tag", none, .enum ["ICE", "'];"]⟩]

/-- The document of an operation that takes such an object. -/
def noteDocument : GraphQL.Document :=
  (GraphQL.parse "query Add($note: Note!) \x7b a \x7d".toList).toOption.getD []

/-- Its module. -/
def noteModule : Module :=
  ⟨"GraphQLInputTypes", some "./it's",
    [⟨"Tag", none, .enum ["ICE", "'];"]⟩,
      ⟨"Note", some "It's\n    values: [\\", .object
        [⟨"tags", "Tag", true, .list .enum false, [⟨"matches", ["\"'\\n\x7d,\""], true, none,
          some "\x7b\"flags\":[\"\\\"\\\\\"]\x7d"⟩]⟩]⟩],
    [⟨"Add", .query, "AddDocument", [⟨"note", "Note", true, .one .object⟩]⟩]⟩

theorem read_render_noteModule :
    Run { documentsImport := some "./it's" } noteTable [noteDocument] noteModule ∧
      read noteModule.render =
        some ⟨some (["AddDocument"], "./it's"), "GraphQLInputTypes", noteModule.declarations,
          noteModule.operations⟩ ∧
      ∀ config table documents m, Run config table documents m →
        m.render = noteModule.render → m.content = noteModule.content := by
  have parsed : noteDocument.Parsed := GraphQL.Document.parsed_of_isSome (by decide +kernel)
  have names : ∀ d ∈ noteModule.declarations,
      d.name.toList.all Config.isIdentifierChar = true := by decide
  have run : Run { documentsImport := some "./it's" } noteTable [noteDocument] noteModule :=
    ⟨by decide +kernel, List.forall_mem_singleton.mpr parsed,
      isWord_of_isIdentifierChar (by decide), isWord_of_isIdentifierChar (by decide),
      fun d hd => isWord_of_isIdentifierChar (names d hd)⟩
  exact ⟨run, read_render_generate run⟩

end

end OperationCatalog.TypeScript
