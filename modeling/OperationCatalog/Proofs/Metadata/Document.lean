import OperationCatalog.Metadata.Dump
import OperationCatalog.Metadata.Shape
import OperationCatalog.Proofs.Metadata.Closed
import OperationCatalog.Proofs.Validation

/-!
# Documents of tables

The document of a table is read back as the table (`OperationCatalog.Metadata.document_document`),
part by part: what is left out is what its default stands for, and the kind that a type or a field
states chooses the shape that its other parts were written for. That takes a table which a document
can hold (`OperationCatalog.Metadata.Table.Documentable`): an enumeration has values, opaque values
share nothing, and a context or settings that are given are not null, since null counts as none.

The document is a tree exactly if the opaque values in the table are
(`OperationCatalog.Metadata.Dump.tree_document_iff`): no mapping in it has a key twice.
-/

namespace OperationCatalog.Metadata

/-! ### Tables that documents can hold -/

/-- A value that is held as a part of a document: it shares nothing, and it is not null. -/
def Stated (g : ValueGraph) : Prop := g.nodes = #[] ∧ g.isNull = false

/-- **A rule that a document can hold.** -/
structure Rule.Documentable (r : Rule) : Prop where
  /-- Its arguments share nothing. -/
  constraints : ∀ gs ∈ r.constraints, ∀ g ∈ gs, g.nodes = #[]
  /-- Its context is no null. -/
  context : ∀ g ∈ r.context, Stated g
  /-- Its settings are no null. -/
  options : ∀ g ∈ r.options, Stated g

/-- **A field that a document can hold**: its rules are. -/
def Field.Documentable (f : Field) : Prop := ∀ rules ∈ f.validation, ∀ r ∈ rules, r.Documentable

/-- **A type that a document can hold**: its fields are, and an enumeration has values. -/
structure InputType.Documentable (t : InputType) : Prop where
  /-- Its values, if it is an enumeration. -/
  values : ∀ values, t.shape = .enum values → values ≠ []
  /-- Its fields, if it is an object. -/
  fields : ∀ f ∈ t.fields, f.Documentable

/-- **A table that a document can hold.** -/
def Table.Documentable (table : Table) : Prop := ∀ t ∈ table.types, t.Documentable

/-! ### Entries -/

namespace Dump

variable {α : Type} {key k : String} {v : Value} {write : α → Value} {said : Option α}
  {rest : List (Scalar × Value)}

@[simp] theorem find?_entry :
    Value.find? key (entry k v :: rest) = if k = key then some v else Value.find? key rest :=
  Value.find?_cons key k v rest

@[simp] theorem find?_optionalEntry :
    Value.find? key (optionalEntry k write said ++ rest) =
      if k = key then (said.map write).or (Value.find? key rest) else Value.find? key rest := by
  cases said with
  | none => simp [optionalEntry]
  | some a => exact find?_entry

/-- The last of several entries. -/
@[simp] theorem find?_optionalEntry_last :
    Value.find? key (optionalEntry k write said) = if k = key then said.map write else none := by
  rw [← List.append_nil (optionalEntry k write said), find?_optionalEntry]
  simp [Value.find?_nil]

/-- What list fields say has names of its own. -/
theorem find?_listEntries {shape : FieldShape} (hkind : key ≠ "itemKind")
    (hempty : key ≠ "allowsEmpty") : Value.find? key (listEntries shape) = none := by
  cases shape with
  | one kind => rfl
  | list itemKind allowsEmpty =>
    simp [listEntries, hkind.symm, hempty.symm, Value.find?_nil]

/-- What types are made of has names of its own. -/
theorem find?_shapeEntries {shape : TypeShape} (hvalues : key ≠ "values")
    (hfields : key ≠ "fields") : Value.find? key (shapeEntries shape) = none := by
  cases shape with
  | scalar => rfl
  | enum values => simp [shapeEntries, hvalues.symm, Value.find?_nil]
  | object fields => simp [shapeEntries, hfields.symm, Value.find?_nil]

/-! ### Trees -/

variable {entries : List (Scalar × Value)} {keys : List String} {P Q : Scalar → Prop}

/-- Entries under some of these keys, in their order. -/
def HasKeys (keys : List String) (entries : List (Scalar × Value)) : Prop :=
  Value.HasTextKeys entries ∧ (entries.map Value.keyText).Sublist keys

theorem hasKeys_entry (key : String) (v : Value) : HasKeys [key] [entry key v] :=
  ⟨by simp [Value.HasTextKeys, entry], List.Sublist.refl _⟩

theorem hasKeys_optionalEntry (key : String) (write : α → Value) (said : Option α) :
    HasKeys [key] (optionalEntry key write said) := by
  cases said with
  | none => exact ⟨by simp [Value.HasTextKeys, optionalEntry], List.nil_sublist _⟩
  | some a => exact hasKeys_entry key (write a)

theorem HasKeys.append {more : List String} (h : HasKeys keys entries) (hmore : HasKeys more rest) :
    HasKeys (keys ++ more) (entries ++ rest) := by
  refine ⟨List.forall_mem_append.mpr ⟨h.1, hmore.1⟩, ?_⟩
  rw [List.map_append]
  exact h.2.append hmore.2

/-- **Entries under distinct keys** make a tree if their values are trees. -/
theorem HasKeys.tree_iff (h : HasKeys keys entries) (hkeys : keys.Nodup) :
    (Value.map entries).Tree P ↔ ∀ entry ∈ entries, entry.2.Tree P :=
  Value.tree_map_iff h.1 (h.2.nodup hkeys)

theorem forall_mem_optionalEntry :
    (∀ e ∈ optionalEntry key write said, e.2.Tree P) ↔ ∀ a ∈ said, (write a).Tree P := by
  cases said <;> simp [optionalEntry, entry]

theorem hasKeys_listEntries (shape : FieldShape) :
    HasKeys ["itemKind", "allowsEmpty"] (listEntries shape) := by
  cases shape with
  | one kind => exact ⟨by simp [listEntries, Value.HasTextKeys], List.nil_sublist _⟩
  | list itemKind allowsEmpty =>
    exact (hasKeys_optionalEntry "itemKind" _ itemKind).append (hasKeys_entry "allowsEmpty" _)

theorem hasKeys_shapeEntries (shape : TypeShape) :
    HasKeys ["values", "fields"] (shapeEntries shape) := by
  cases shape with
  | scalar => exact ⟨by simp [shapeEntries, Value.HasTextKeys], List.nil_sublist _⟩
  | enum values =>
    exact ⟨(hasKeys_entry "values" _).1, List.cons_sublist_cons.mpr (List.nil_sublist _)⟩
  | object fields => exact ⟨(hasKeys_entry "fields" _).1, List.sublist_cons_self _ _⟩

section

variable (hstr : ∀ s, P (.str s)) (hbool : ∀ b, P (.bool b))
include hstr hbool

/-- **The document of a rule** is a tree if the values in the rule are. -/
theorem tree_rule_iff {r : Rule} (h : r.IsTree Q) : (rule r).Tree P ↔ r.IsTree P := by
  have hkeys := hasKeys_entry "type" (.text r.type)
    |>.append (hasKeys_optionalEntry "constraints" (fun gs => .list (gs.map ValueGraph.root))
      r.constraints)
    |>.append (hasKeys_optionalEntry "each" bool r.each)
    |>.append (hasKeys_optionalEntry "context" ValueGraph.root r.context)
    |>.append (hasKeys_optionalEntry "options" ValueGraph.root r.options)
  have htype : (Value.text r.type).Tree P := .scalar (hstr _)
  have heach (b : Bool) : (bool b).Tree P := .scalar (hbool b)
  refine (hkeys.tree_iff (by decide)).trans ?_
  simp only [List.forall_mem_append, List.forall_mem_singleton, forall_mem_optionalEntry, entry,
    htype, heach, Value.tree_list_iff, List.forall_mem_map, true_and, and_assoc, implies_true]
  rw [Rule.isTree_iff]
  refine and_congr ?_ (and_congr ?_ ?_)
  · exact forall₂_congr fun gs hgs => forall₂_congr fun g hg =>
      (h.constraints gs hgs g hg).iff_root.symm
  · exact forall₂_congr fun g hg => (h.context g hg).iff_root.symm
  · exact forall₂_congr fun g hg => (h.options g hg).iff_root.symm

theorem tree_listEntries (shape : FieldShape) : ∀ e ∈ listEntries shape, e.2.Tree P := by
  cases shape with
  | one kind => simp [listEntries]
  | list itemKind allowsEmpty =>
    simp only [listEntries, List.forall_mem_append, forall_mem_optionalEntry,
      List.forall_mem_singleton]
    exact ⟨fun _ _ => .scalar (hstr _), .scalar (hbool _)⟩

/-- **The document of a field** is a tree if its rules are. -/
theorem tree_field_iff {f : Field} (h : ∀ rules ∈ f.validation, ∀ r ∈ rules, r.IsTree Q) :
    (field f).Tree P ↔ ∀ rules ∈ f.validation, ∀ r ∈ rules, r.IsTree P := by
  have hkeys := hasKeys_entry "name" (.text f.name)
    |>.append (hasKeys_entry "required" (bool f.required))
    |>.append (hasKeys_optionalEntry "validation" (fun rules => .list (rules.map rule)) f.validation)
    |>.append (hasKeys_entry "kind" (.text f.shape.word)
      |>.append (hasKeys_entry "type" (.text f.type)))
    |>.append (hasKeys_listEntries f.shape)
  have htext (s : String) : (Value.text s).Tree P := .scalar (hstr s)
  have hrequired (b : Bool) : (bool b).Tree P := .scalar (hbool b)
  have hlist := tree_listEntries hstr hbool f.shape
  refine (hkeys.tree_iff (by decide)).trans ?_
  simp only [List.forall_mem_append, List.forall_mem_singleton, forall_mem_optionalEntry, entry,
    htext, hrequired, Value.tree_list_iff, List.forall_mem_map, true_and, and_true]
  rw [and_iff_left hlist]
  exact forall₂_congr fun rules hrules => forall₂_congr fun r hr =>
    tree_rule_iff hstr hbool (h rules hrules r hr)

/-- **The document of a type** is a tree if the rules of its fields are. -/
theorem tree_inputType_iff {t : InputType}
    (h : ∀ f ∈ t.fields, ∀ rules ∈ f.validation, ∀ r ∈ rules, r.IsTree Q) :
    (inputType t).Tree P ↔ ∀ f ∈ t.fields, ∀ rules ∈ f.validation, ∀ r ∈ rules, r.IsTree P := by
  have hkeys := hasKeys_entry "type" (.text t.name)
    |>.append (hasKeys_optionalEntry "description" .text t.description)
    |>.append (hasKeys_entry "kind" (.text t.kind.word) |>.append (hasKeys_shapeEntries t.shape))
  have htext (s : String) : (Value.text s).Tree P := .scalar (hstr s)
  refine (hkeys.tree_iff (by decide)).trans ?_
  simp only [List.forall_mem_append, List.forall_mem_singleton, forall_mem_optionalEntry, entry,
    htext, implies_true, true_and]
  unfold InputType.fields at h ⊢
  rcases hshape : t.shape with _ | values | fields
  · simp [shapeEntries]
  · simp only [shapeEntries, List.forall_mem_singleton, entry, Value.tree_list_iff,
      List.forall_mem_map, htext, implies_true, List.not_mem_nil, false_implies]
  · rw [hshape] at h
    simp only [shapeEntries, List.forall_mem_singleton, entry, Value.tree_list_iff,
      List.forall_mem_map]
    exact forall₂_congr fun f hf => tree_field_iff hstr hbool (h f hf)

/-- **The document of a table** is a tree if the table is one of trees. -/
theorem tree_document_iff {table : Table} (h : table.IsTree Q) :
    (document table).Tree P ↔ table.IsTree P := by
  have htypes : (Value.map (table.types.map fun t => entry t.name (inputType t))).Tree P ↔
      table.IsTree P := by
    have hkeys : Value.HasTextKeys (table.types.map fun t => entry t.name (inputType t)) := by
      simp [Value.HasTextKeys, entry]
    have hnodup :
        ((table.types.map fun t => entry t.name (inputType t)).map Value.keyText).Nodup := by
      rw [List.map_map]
      exact table.distinct
    rw [Value.tree_map_iff hkeys hnodup, List.forall_mem_map]
    exact forall₂_congr fun t ht => tree_inputType_iff hstr hbool (h t ht)
  rw [document, (hasKeys_entry "types" _).tree_iff (by decide), List.forall_mem_singleton, entry,
    (hasKeys_entry "input" _).tree_iff (by decide), List.forall_mem_singleton]
  exact htypes

end

end Dump

namespace Shape

open Validation

/-! ### Rules -/

theorem ofTree_root {g : ValueGraph} (h : g.nodes = #[]) : ValueGraph.ofTree g.root = g := by
  obtain ⟨nodes, root⟩ := g
  obtain rfl : nodes = #[] := h
  rfl

theorem nullable_ofTree {α : Type} {check : ValueGraph → Checked α} {v : Value} {a : α}
    (hv : (ValueGraph.ofTree v).isNull = false) (h : check (.ofTree v) = .ok a) :
    nullable check (.ofTree v) = .ok (some a) := by
  rw [nullable, hv, h]
  rfl

theorem opaqueValue_ofTree {g : ValueGraph} (h : Stated g) :
    opaqueValue (.ofTree g.root) = .ok (some g) := by
  rw [opaqueValue, ofTree_root h.1, h.2]
  rfl

/-- A part that is nothing by default is what was said. -/
theorem getD_map_some {α : Type} (said : Option α) : (said.map some).getD none = said := by
  cases said <;> rfl

/-- **A rule is read back** from its document. -/
theorem rule_rule {r : Rule} (h : r.Documentable) : rule (.ofTree (Dump.rule r)) = .ok r := by
  have hitems : ∀ gs ∈ r.constraints,
      listOf .ok (.ofTree (.list (gs.map ValueGraph.root))) = .ok gs := fun gs hgs =>
    listOf_map fun g hg => congrArg Except.ok (ofTree_root (h.constraints gs hgs g hg))
  rw [Dump.rule, rule, entries_ofTree]
  change Checked.map5 Rule.mk _ _ _ _ _ = _
  rw [required_of_find? (v := .text r.type) (a := r.type) (by simp) rfl,
    optional_of_find? r.constraints (fun gs => .list (gs.map ValueGraph.root)) some (by simp)
      (by simp) fun gs hgs => nullable_ofTree rfl (hitems gs hgs),
    optional_of_find? r.each Dump.bool some (by simp) (by simp) fun b _ => rfl,
    optional_of_find? r.context ValueGraph.root some (by simp) (by simp)
      fun g hg => opaqueValue_ofTree (h.context g hg),
    optional_of_find? r.options ValueGraph.root some (by simp) (by simp)
      fun g hg => opaqueValue_ofTree (h.options g hg)]
  simp only [getD_map_some]
  rfl

/-! ### Fields -/

variable {α : Type} {entries : List (Scalar × Value)}
  {shapes : List (String × (Entries → Checked α))}

/-- **One of several shapes** is the one that the kind in the document chooses. -/
theorem tagged_ofTree {tag : String} {check : Entries → Checked α}
    (hkind : Value.find? "kind" entries = some (.text tag))
    (hshape : shapes.lookup tag = some check) {a : α} (hcheck : check (.ofTree entries) = .ok a) :
    tagged shapes (.ofTree (.map entries)) = .ok a := by
  have htop : (ValueGraph.ofTree (.map entries)).top = .map entries := rfl
  have hstated : (Entries.ofTree entries).get? "kind" = some (.ofTree (.text tag)) := by
    rw [get?_ofTree, hkind]
    rfl
  have htag : (ValueGraph.ofTree (.text tag)).top = .scalar (.str tag) := rfl
  unfold tagged
  rw [htop]
  dsimp only
  rw [show Entries.get? ⟨_, entries⟩ "kind" = _ from hstated]
  dsimp only
  rw [htag]
  dsimp only
  rw [hshape]
  dsimp only
  rw [show check ⟨_, entries⟩ = _ from hcheck, Checked.under_ok]

/-- The parts of a field are read back, if what it holds is. -/
theorem fieldParts_field {f : Field} (h : f.Documentable) {shape : Checked FieldShape}
    (hshape : shape = .ok f.shape) (hentries : Dump.field f = .map entries) :
    fieldParts shape (.ofTree entries) = .ok f := by
  have hrules : ∀ rules ∈ f.validation,
      listOf rule (.ofTree (.list (rules.map Dump.rule))) = .ok rules := fun rules hrules =>
    listOf_map fun r hr => rule_rule (h rules hrules r hr)
  obtain rfl := Value.map.inj hentries
  rw [fieldParts, hshape,
    required_of_find? (v := .text f.name) (a := f.name) (by simp) rfl,
    optional_of_find? (some f.required) Dump.bool id (by simp) (by simp) fun b _ => rfl,
    optional_of_find? f.validation (fun rules => .list (rules.map Dump.rule)) some
      (by simp [Dump.find?_listEntries]) (by simp)
      fun rules hmem => nullable_ofTree rfl (hrules rules hmem),
    required_of_find? (v := .text f.type) (a := f.type) (by simp) rfl, getD_map_some]
  rfl

/-- What a list field says about its items is read back. -/
theorem listShape_field {f : Field} {itemKind : Option TypeKind} {allowsEmpty : Bool}
    (hshape : f.shape = .list itemKind allowsEmpty) (hentries : Dump.field f = .map entries) :
    listShape (.ofTree entries) = .ok f.shape := by
  obtain rfl := Value.map.inj hentries
  rw [listShape, hshape,
    optional_of_find? itemKind (fun kind => .text kind.word) some
      (by simp [Dump.listEntries, Value.find?_nil])
      (by simp [Dump.listEntries, Value.find?_nil])
      fun kind _ => by cases kind <;> rfl,
    optional_of_find? (some allowsEmpty) Dump.bool id (by simp [Dump.listEntries])
      (by simp [Dump.listEntries, Value.find?_nil]) fun b _ => rfl, getD_map_some]
  rfl

/-- **A field is read back** from its document. -/
theorem field_field {f : Field} (h : f.Documentable) : field (.ofTree (Dump.field f)) = .ok f := by
  obtain ⟨entries, hentries⟩ : ∃ entries, Dump.field f = .map entries := ⟨_, rfl⟩
  have hkind : Value.find? "kind" entries = some (.text f.shape.word) := by
    obtain rfl := Value.map.inj hentries
    simp
  rw [hentries, field]
  rcases hshape : f.shape with kind | ⟨itemKind, allowsEmpty⟩
  · rw [hshape] at hkind
    -- the word for the kind chooses the shape that says no more than the kind
    cases kind with
    | scalar => exact tagged_ofTree hkind rfl (fieldParts_field h (by rw [hshape]) hentries)
    | enum => exact tagged_ofTree hkind rfl (fieldParts_field h (by rw [hshape]) hentries)
    | object => exact tagged_ofTree hkind rfl (fieldParts_field h (by rw [hshape]) hentries)
  · rw [hshape] at hkind
    have hlist : listField (.ofTree entries) = .ok f :=
      fieldParts_field h (listShape_field hshape hentries) hentries
    exact tagged_ofTree hkind rfl hlist

/-! ### Types -/

/-- The parts of a type are read back, if what it is made of is. -/
theorem typeParts_inputType {t : InputType} {shape : Entries → Checked TypeShape}
    (hshape : shape (.ofTree entries) = .ok t.shape) (hentries : Dump.inputType t = .map entries) :
    typeParts shape (.ofTree entries) = .ok t := by
  rw [typeParts, hshape]
  obtain rfl := Value.map.inj hentries
  rw [required_of_find? (v := .text t.name) (a := t.name) (by simp) rfl,
    optional_of_find? t.description .text some (by simp [Dump.find?_shapeEntries]) (by simp)
      fun _ _ => rfl, getD_map_some]
  rfl

/-- The values of an enumeration are read back, if it has some. -/
theorem enumValues_ofTree {values : List String} (h : values ≠ []) :
    enumValues (.ofTree (.list (values.map .text))) = .ok values := by
  rw [enumValues, listOf_map fun _ _ => rfl]
  change (if values.isEmpty then _ else _) = _
  rw [if_neg (by simpa using h)]

/-- **A type is read back** from its document. -/
theorem inputType_inputType {t : InputType} (h : t.Documentable) :
    inputType (.ofTree (Dump.inputType t)) = .ok t := by
  obtain ⟨entries, hentries⟩ : ∃ entries, Dump.inputType t = .map entries := ⟨_, rfl⟩
  have hkind : Value.find? "kind" entries = some (.text t.shape.kind.word) := by
    obtain rfl := Value.map.inj hentries
    simp [InputType.kind]
  rw [hentries, inputType]
  rcases hshape : t.shape with _ | values | fields
  · rw [hshape] at hkind
    exact tagged_ofTree hkind rfl (typeParts_inputType (by rw [hshape]) hentries)
  · rw [hshape] at hkind
    refine tagged_ofTree hkind rfl (typeParts_inputType ?_ hentries)
    have hvalues : Value.find? "values" entries = some (.list (values.map .text)) := by
      obtain rfl := Value.map.inj hentries
      simp [hshape, Dump.shapeEntries]
    rw [required_of_find? hvalues (enumValues_ofTree (h.values values hshape)), hshape]
    rfl
  · rw [hshape] at hkind
    refine tagged_ofTree hkind rfl (typeParts_inputType ?_ hentries)
    have hfound : Value.find? "fields" entries = some (.list (fields.map Dump.field)) := by
      obtain rfl := Value.map.inj hentries
      simp [hshape, Dump.shapeEntries]
    have hfields : listOf field (.ofTree (.list (fields.map Dump.field))) = .ok fields := by
      refine listOf_map fun f hf => field_field (h.fields f ?_)
      rwa [InputType.fields, hshape]
    rw [optional_of_find? (some fields) (fun fields => .list (fields.map Dump.field)) id hfound
      (by simp) (by simpa using hfields), hshape]
    rfl

end Shape

/-! ### Tables -/

open Shape Validation

/-- Putting a pair is putting it by its name. -/
theorem putPair_eq (key : String) (t : InputType) (pairs : List (String × InputType)) :
    putPair key t pairs = GraphQL.putNamed Prod.fst (key, t) pairs := by
  induction pairs with
  | nil => rfl
  | cons pair rest ih =>
    rw [putPair, GraphQL.putNamed, ih]
    by_cases hkey : pair.1 = key <;> simp [hkey]

/-- **Pairs with distinct keys** declare their types, if each key is the name of its type. -/
theorem declarations_eq_ok {g : ValueGraph} {e : Entries} {pairs : List (String × InputType)}
    (hentries : entries .notRecord g = .ok e)
    (hpairs : e.optional "input" [] [] (mappingOf inputType) = .ok pairs)
    (hdistinct : (pairs.map Prod.fst).Nodup) (hnamed : misnamed? pairs = none) :
    declarations g = .ok (.ofTypes (pairs.map (·.2))) := by
  have hput : pairs.foldl (fun acc pair => putPair pair.1 pair.2 acc) [] = pairs := by
    simp only [putPair_eq]
    exact GraphQL.byName_of_nodup hdistinct
  unfold declarations
  rw [hentries]
  dsimp only [Except.bind]
  rw [hpairs]
  dsimp only
  split
  · rename_i hmisnamed
    have hnone := (congrArg misnamed? hput).symm.trans hmisnamed
    simp [hnamed] at hnone
  · exact congrArg (fun declared => Except.ok (Table.ofTypes (declared.map (·.2)))) hput

/-- **The types of a table** are declared by the mapping from their names. -/
theorem declarations_table {table : Table} (h : table.Documentable) :
    declarations (.ofTree (.map [Dump.entry "input"
      (.map (table.types.map fun t => Dump.entry t.name (Dump.inputType t)))])) = .ok table := by
  have hmapping : mappingOf inputType (.ofTree (.map
      (table.types.map fun t => Dump.entry t.name (Dump.inputType t)))) =
      .ok (table.types.map fun t => (t.name, t)) := by
    refine mappingOf_ofTree (List.forall₂_map_left_iff.mpr (List.forall₂_map_right_iff.mpr ?_))
    exact List.forall₂_same.mpr fun t ht => ⟨rfl, inputType_inputType (h t ht)⟩
  have hpairs : (Entries.ofTree [Dump.entry "input" (.map (table.types.map fun t =>
      Dump.entry t.name (Dump.inputType t)))]).optional "input" [] [] (mappingOf inputType) =
      .ok (table.types.map fun t => (t.name, t)) :=
    optional_of_find? (some table)
      (fun table => .map (table.types.map fun t => Dump.entry t.name (Dump.inputType t)))
      (fun table => table.types.map fun t => (t.name, t)) (by simp) (by simp)
      (by simpa using hmapping)
  have hdistinct : ((table.types.map fun t => (t.name, t)).map Prod.fst).Nodup := by
    rw [List.map_map]
    exact table.distinct
  have hback : (table.types.map fun t => (t.name, t)).map (·.2) = table.types := by
    rw [List.map_map]
    exact List.map_id _
  rw [declarations_eq_ok (entries_ofTree _) hpairs hdistinct (by simp [misnamed?]), hback]
  exact congrArg Except.ok (Table.eq_of_types (Table.types_ofTypes table.distinct))

/-- **A table is read back** from its document. -/
theorem document_document {table : Table} (h : table.Documentable) :
    document (.ofTree (Dump.document table)) = .ok table := by
  rw [document, Dump.document, entries_ofTree]
  dsimp only [Except.bind]
  rw [optional_of_find? (some table) (fun table => .map [Dump.entry "input"
    (.map (table.types.map fun t => Dump.entry t.name (Dump.inputType t)))]) id (by simp) (by simp)
    (by simpa using declarations_table h)]
  rfl

end OperationCatalog.Metadata
