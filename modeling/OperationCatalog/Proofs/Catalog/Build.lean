import Mathlib.Data.List.Perm.Basic
import OperationCatalog.Catalog.Build
import OperationCatalog.Proofs.GraphQL.Parser

/-!
# What the entries of a catalog are

Each entry of a catalog is that of an operation of the documents
(`OperationCatalog.Catalog.exists_operation_of_build`), and each of its parameters that of a
variable. A parameter says of which kind its type is, and it is right: the kind was looked up
(`OperationCatalog.Catalog.describeVariable_kind`).

No other kind is looked up. The type of a variable names one type, if it can be described at all
(`OperationCatalog.GraphQL.TypeRef.describedName?`), and the entry of that name in the table decides
(`OperationCatalog.Catalog.build_congr`).

There is a catalog exactly if every operation by itself can be described and no two of those with
variables share a name (`OperationCatalog.Catalog.build_eq_ok_iff`). Nothing in that depends on the
order of the operations, but the order of the entries
(`OperationCatalog.Catalog.build_of_perm`).
-/

namespace OperationCatalog.GraphQL

/-- **The name that a type is described by**: its own, or that of the items of a list. A list of
lists is described by none. -/
def TypeRef.describedName? (ref : TypeRef) : Option String :=
  match ref.nullable with
  | .named name => some name
  | .list item =>
    match item.nullable with
    | .named name => some name
    | _ => none
  | .nonNull _ => none

end OperationCatalog.GraphQL

namespace OperationCatalog.Catalog

open GraphQL Metadata

variable {table other : Table} {suffix : String}

/-- The operations of a document that was parsed are lexical. -/
theorem lexical_of_mem_operationsOf {d : Document} (parsed : d.Parsed) {o : Operation}
    (ho : o ∈ operationsOf d) : o.Lexical := by
  obtain ⟨definition, hdefinition, ho⟩ := List.mem_filterMap.mp ho
  cases definition with
  | operation o' =>
    obtain rfl := Option.some.inj ho
    exact parsed.lexical _ hdefinition
  | _ => simp at ho

/-! ### Parameters -/

theorem kindOf_eq_ok_iff {name : String} {kind : TypeKind} :
    kindOf table name = .ok kind ↔ ∃ t, table.find? name = some t ∧ t.kind = kind := by
  unfold kindOf
  rcases table.find? name with _ | t <;> simp

/-- **A type is described by the kind it has in the table.** -/
theorem describeType_kind {ref : TypeRef} {type : String} {shape : ParameterShape}
    (h : describeType table ref = .ok (type, shape)) :
    ∃ t, table.find? type = some t ∧ t.kind = shape.typeKind := by
  cases ref with
  | named name =>
    obtain ⟨kind, hkind, h⟩ := bind_eq_ok_iff.mp h
    obtain ⟨rfl, rfl⟩ := Prod.mk.inj (pure_eq_ok_iff.mp h)
    exact kindOf_eq_ok_iff.mp hkind
  | list item =>
    rw [describeType] at h
    split at h
    · obtain ⟨kind, hkind, h⟩ := bind_eq_ok_iff.mp h
      obtain ⟨rfl, rfl⟩ := Prod.mk.inj (pure_eq_ok_iff.mp h)
      exact kindOf_eq_ok_iff.mp hkind
    · simp at h
  | nonNull inner => simp [describeType] at h

theorem describeVariable_kind {v : Variable} {p : Parameter}
    (h : describeVariable table v = .ok p) :
    ∃ t, table.find? p.type = some t ∧ t.kind = p.shape.typeKind := by
  obtain ⟨⟨type, shape⟩, hdescribed, h⟩ := bind_eq_ok_iff.mp h
  obtain rfl := pure_eq_ok_iff.mp h
  exact describeType_kind hdescribed

/-- What is described is described by its name. -/
theorem describedName?_of_describeType {ref : TypeRef} {type : String} {shape : ParameterShape}
    (h : describeType table ref.nullable = .ok (type, shape)) : ref.describedName? = some type := by
  unfold TypeRef.describedName?
  rcases hnullable : ref.nullable with name | item | inner
  · rw [hnullable] at h
    obtain ⟨kind, -, h⟩ := bind_eq_ok_iff.mp h
    obtain ⟨rfl, -⟩ := Prod.mk.inj (pure_eq_ok_iff.mp h)
    rfl
  · rw [hnullable, describeType] at h
    rcases hitem : item.nullable with name | inner | inner
    · rw [hitem] at h
      obtain ⟨kind, -, h⟩ := bind_eq_ok_iff.mp h
      obtain ⟨rfl, -⟩ := Prod.mk.inj (pure_eq_ok_iff.mp h)
      simp only [hitem]
    · simp [hitem] at h
    · simp [hitem] at h
  · simp [hnullable, describeType] at h

theorem describedName?_of_describeVariable {v : Variable} {p : Parameter}
    (h : describeVariable table v = .ok p) : v.type.describedName? = some p.type := by
  obtain ⟨⟨type, shape⟩, hdescribed, h⟩ := bind_eq_ok_iff.mp h
  obtain rfl := pure_eq_ok_iff.mp h
  exact describedName?_of_describeType hdescribed

/-- **A type is described alike** by two tables with the same entry of its name. -/
theorem describeType_congr {ref : TypeRef}
    (h : ∀ name ∈ ref.describedName?, other.find? name = table.find? name) :
    describeType other ref.nullable = describeType table ref.nullable := by
  unfold TypeRef.describedName? at h
  rcases hnullable : ref.nullable with name | item | inner
  · rw [hnullable] at h
    simp only [describeType, kindOf, h name rfl]
  · rw [hnullable] at h
    rcases hitem : item.nullable with name | inner | inner
    · have hname : other.find? name = table.find? name := h name (by simp only [hitem]; rfl)
      simp only [describeType, hitem, kindOf, hname]
    · simp only [describeType, hitem]
    · simp only [describeType, hitem]
  · rfl

/-! ### Entries -/

/-- **An operation that makes an entry** has a name, and each parameter is that of a variable. -/
theorem describeOperation_eq_some {o : Operation} {entry : Entry}
    (h : describeOperation table suffix o = .ok (some entry)) :
    o.name = some entry.name ∧ entry.kind = o.kind ∧ entry.document = entry.name ++ suffix ∧
      List.Forall₂ (fun v p => describeVariable table v = .ok p) o.vars entry.parameters := by
  unfold describeOperation at h
  split at h
  · simp at h
  · split at h
    · simp at h
    · rename_i name hname
      obtain ⟨parameters, hparameters, h⟩ := bind_eq_ok_iff.mp h
      obtain rfl := Option.some.inj (pure_eq_ok_iff.mp h)
      exact ⟨hname, rfl, rfl, mapM_eq_ok_iff.mp hparameters⟩

/-- **An operation makes no entry, an entry under a taken name, or one before the others.** -/
theorem outcome_entriesAfter_cons (table : Table) (suffix : String) (taken : List String)
    (o : Operation) (rest : List Operation) :
    (entriesAfter table suffix taken (o :: rest)).outcome =
      describeOperation table suffix o >>= fun made =>
        match made with
        | none => (entriesAfter table suffix taken rest).outcome
        | some entry =>
          if entry.name ∈ taken then .error (.duplicate entry.name)
          else (entriesAfter table suffix (entry.name :: taken) rest).outcome >>= fun more =>
            pure (entry :: more) := by
  rw [entriesAfter, Logged.outcome_bind_do, Logged.outcome_lift]
  congr 1
  funext made
  cases made with
  | none => rw [Logged.outcome_bind_do, Logged.outcome_record, ok_bind]
  | some entry =>
    simp only [List.contains_iff_mem]
    split
    · rfl
    · simp only [Logged.outcome_bind_do, Logged.outcome_pure_do]

/-- **The entries of some operations** after others are those that the operations make, if they have
names of their own. -/
theorem entriesAfter_eq_ok_iff {taken : List String} {operations : List Operation}
    {entries : List Entry} :
    (entriesAfter table suffix taken operations).outcome = .ok entries ↔
      ∃ made, List.Forall₂ (fun o e => describeOperation table suffix o = .ok e) operations made ∧
        made.filterMap id = entries ∧ (entries.map (·.name)).Nodup ∧
          ∀ e ∈ entries, e.name ∉ taken := by
  induction operations generalizing taken entries with
  | nil =>
    simp only [entriesAfter, Logged.outcome_pure, Except.ok.injEq, List.forall₂_nil_left_iff]
    constructor
    · rintro rfl
      exact ⟨[], rfl, rfl, by simp⟩
    · rintro ⟨made, rfl, rfl, -⟩
      rfl
  | cons o rest ih =>
    rw [outcome_entriesAfter_cons, bind_eq_ok_iff]
    simp only [List.forall₂_cons_left_iff]
    constructor
    · rintro ⟨e, he, h⟩
      cases e with
      | none =>
        obtain ⟨made, hmade, hentries, hnames⟩ := ih.mp h
        exact ⟨none :: made, ⟨none, made, he, hmade, rfl⟩, hentries, hnames⟩
      | some entry =>
        dsimp only at h
        split at h
        · simp at h
        · rename_i hfree
          obtain ⟨more, hmore, h⟩ := bind_eq_ok_iff.mp h
          obtain rfl := pure_eq_ok_iff.mp h
          obtain ⟨made, hmade, rfl, hnodup, hnew⟩ := ih.mp hmore
          refine ⟨some entry :: made, ⟨some entry, made, he, hmade, rfl⟩, rfl, ?_, ?_⟩
          · refine List.nodup_cons.mpr ⟨fun hmem => ?_, hnodup⟩
            obtain ⟨e, hemem, hname⟩ := List.mem_map.mp hmem
            exact hnew e hemem (hname ▸ List.mem_cons_self)
          · refine List.forall_mem_cons.mpr ⟨hfree, fun e hemem => ?_⟩
            exact fun htaken => hnew e hemem (List.mem_cons_of_mem _ htaken)
    · rintro ⟨_, ⟨e, made, he, hmade, rfl⟩, rfl, hnodup, hnew⟩
      refine ⟨e, he, ?_⟩
      cases e with
      | none => exact ih.mpr ⟨made, hmade, rfl, hnodup, hnew⟩
      | some entry =>
        obtain ⟨hfree, hnew⟩ := List.forall_mem_cons.mp hnew
        obtain ⟨hother, hnodup⟩ := List.nodup_cons.mp hnodup
        dsimp only
        rw [if_neg hfree, bind_eq_ok_iff]
        refine ⟨made.filterMap id, ih.mpr ⟨made, hmade, rfl, hnodup, fun e hemem htaken => ?_⟩, rfl⟩
        rcases List.mem_cons.mp htaken with hname | htaken
        · exact hother (List.mem_map.mpr ⟨e, hemem, hname⟩)
        · exact hnew e hemem htaken

/-- The entries of some operations are each that of an operation. -/
theorem exists_operation_of_entriesAfter {taken : List String} {operations : List Operation}
    {entries : List Entry}
    (h : (entriesAfter table suffix taken operations).outcome = .ok entries) :
    ∀ e ∈ entries, ∃ o ∈ operations, describeOperation table suffix o = .ok (some e) := by
  obtain ⟨made, hmade, rfl, -⟩ := entriesAfter_eq_ok_iff.mp h
  intro e he
  obtain ⟨e', he', rfl⟩ := List.mem_filterMap.mp he
  exact exists_of_forall₂_of_mem hmade he'

/-- **The entries of a catalog** are each that of an operation of the documents. -/
theorem exists_operation_of_build {documents : List Document} {entries : List Entry}
    (h : (build table suffix documents).outcome = .ok entries) :
    ∀ e ∈ entries, ∃ d ∈ documents, ∃ o ∈ operationsOf d,
      describeOperation table suffix o = .ok (some e) := by
  rw [build, Logged.outcome_bind_do, bind_eq_ok_iff] at h
  obtain ⟨found, hfound, h⟩ := h
  rw [Logged.outcome_bind_do, bind_eq_ok_iff] at h
  obtain ⟨-, -, h⟩ := h
  obtain rfl := Except.ok.inj h
  intro e he
  obtain ⟨o, ho, hd⟩ := exists_operation_of_entriesAfter hfound e he
  obtain ⟨d, hd', ho⟩ := List.mem_flatMap.mp ho
  exact ⟨d, hd', o, ho, hd⟩

/-- Each parameter of a catalog refers to a type of the table, and says of which kind it is. -/
theorem parameter_kind_of_build {documents : List Document} {entries : List Entry}
    (h : (build table suffix documents).outcome = .ok entries) {e : Entry} (he : e ∈ entries)
    {p : Parameter} (hp : p ∈ e.parameters) :
    ∃ t, table.find? p.type = some t ∧ t.kind = p.shape.typeKind := by
  obtain ⟨d, -, o, -, hd⟩ := exists_operation_of_build h e he
  obtain ⟨-, -, -, hparameters⟩ := describeOperation_eq_some hd
  obtain ⟨v, -, hv⟩ := exists_of_forall₂_of_mem hparameters hp
  exact describeVariable_kind hv

/-! ### Why there is no catalog -/

/-- Whether a fault is that a type cannot be described. -/
def Fault.IsUnsupported : Fault → Prop
  | .unsupported _ | .unsupportedItem _ => True
  | _ => False

/-- **A variable is refused** for a name that is not in the table, or for a type that is described
by no name. -/
theorem describeVariable_eq_error {v : Variable} {fault : Fault}
    (h : describeVariable table v = .error fault) :
    (∃ name, v.type.describedName? = some name ∧ table.find? name = none) ∨
      (v.type.describedName? = none ∧ fault.IsUnsupported) := by
  have unknown {name : String} {f : TypeKind → String × ParameterShape}
      (h : (do let kind ← kindOf table name; return f kind) = .error fault) :
      table.find? name = none := by
    rcases hfind : table.find? name with _ | t
    · rfl
    · rw [kindOf, hfind] at h
      simp [bind, Except.bind, pure, Except.pure] at h
  replace h : describeType table v.type.nullable = .error fault := bind_pure_eq_error_iff.mp h
  unfold TypeRef.describedName?
  rcases hnullable : v.type.nullable with name | item | inner
  · rw [hnullable] at h
    exact Or.inl ⟨name, rfl, unknown h⟩
  · rw [hnullable, describeType] at h
    rcases hitem : item.nullable with name | inner | inner
    · rw [hitem] at h
      exact Or.inl ⟨name, by simp only [hitem], unknown h⟩
    · rw [hitem] at h
      cases h
      exact Or.inr ⟨by simp only [hitem], trivial⟩
    · rw [hitem] at h
      cases h
      exact Or.inr ⟨by simp only [hitem], trivial⟩
  · rw [hnullable] at h
    cases h
    exact Or.inr ⟨rfl, trivial⟩

/-- **Some operations have no entries** since one is refused, has no name, or has a taken one. -/
theorem entriesAfter_eq_error {taken : List String} {operations : List Operation} {fault : Fault}
    (h : (entriesAfter table suffix taken operations).outcome = .error fault) :
    fault = .anonymous ∨ (∃ name, fault = .duplicate name) ∨
      ∃ o ∈ operations, ∃ v ∈ o.vars, describeVariable table v = .error fault := by
  induction operations generalizing taken with
  | nil => simp [entriesAfter, Logged.outcome_pure] at h
  | cons o rest ih =>
    have later {taken : List String}
        (h : (entriesAfter table suffix taken rest).outcome = .error fault) : fault = .anonymous ∨
          (∃ name, fault = .duplicate name) ∨
            ∃ o' ∈ o :: rest, ∃ v ∈ o'.vars, describeVariable table v = .error fault :=
      (ih h).imp_right (Or.imp_right fun ⟨o', ho', hv⟩ => ⟨o', List.mem_cons_of_mem _ ho', hv⟩)
    rw [outcome_entriesAfter_cons] at h
    rcases bind_eq_error_iff.mp h with h | ⟨made, -, h⟩
    · unfold describeOperation at h
      split at h
      · simp at h
      · split at h
        · cases h
          exact Or.inl rfl
        · replace h := bind_pure_eq_error_iff.mp h
          obtain ⟨v, hv, h⟩ := exists_of_mapM_eq_error h
          exact Or.inr (Or.inr ⟨o, List.mem_cons_self, v, hv, h⟩)
    · cases made with
      | none => exact later h
      | some entry =>
        dsimp only at h
        split at h
        · cases h
          exact Or.inr (Or.inl ⟨_, rfl⟩)
        · exact later (bind_pure_eq_error_iff.mp h)

/-- The variables that the operations of some documents declare. -/
def Declares (documents : List Document) (v : Variable) : Prop :=
  ∃ d ∈ documents, ∃ o ∈ operationsOf d, v ∈ o.vars

/-- **Some documents have no catalog** since an operation has no name or a taken one, or since a
variable is refused. -/
theorem build_eq_error {documents : List Document} {fault : Fault}
    (h : (build table suffix documents).outcome = .error fault) :
    fault = .anonymous ∨ (∃ name, fault = .duplicate name) ∨
      ∃ v, Declares documents v ∧ describeVariable table v = .error fault := by
  rw [build, Logged.outcome_bind_do] at h
  rcases bind_eq_error_iff.mp h with h | ⟨entries, -, h⟩
  · refine (entriesAfter_eq_error h).imp_right (Or.imp_right fun ⟨o, ho, v, hv, h⟩ => ?_)
    obtain ⟨d, hd, ho⟩ := List.mem_flatMap.mp ho
    exact ⟨v, ⟨d, hd, o, ho, hv⟩, h⟩
  · cases h

/-! ### Catalogs of two tables -/

/-- The types that variables are described by in some documents. -/
def Describes (documents : List Document) (name : String) : Prop :=
  ∃ d ∈ documents, ∃ o ∈ operationsOf d, ∃ v ∈ o.vars, v.type.describedName? = some name

/-- The type of a parameter is one that a variable is described by. -/
theorem describes_of_build {documents : List Document} {entries : List Entry}
    (h : (build table suffix documents).outcome = .ok entries) {e : Entry} (he : e ∈ entries)
    {p : Parameter} (hp : p ∈ e.parameters) : Describes documents p.type := by
  obtain ⟨d, hmem, o, ho, hd⟩ := exists_operation_of_build h e he
  obtain ⟨-, -, -, hparameters⟩ := describeOperation_eq_some hd
  obtain ⟨v, hv, hdescribed⟩ := exists_of_forall₂_of_mem hparameters hp
  exact ⟨d, hmem, o, ho, v, hv, describedName?_of_describeVariable hdescribed⟩

theorem describeOperation_congr {o : Operation}
    (h : ∀ v ∈ o.vars, ∀ name ∈ v.type.describedName?, other.find? name = table.find? name) :
    describeOperation other suffix o = describeOperation table suffix o := by
  have hvars : o.vars.mapM (describeVariable other) = o.vars.mapM (describeVariable table) :=
    mapM_congr fun v hv => by rw [describeVariable, describeVariable, describeType_congr (h v hv)]
  unfold describeOperation
  rw [hvars]

theorem entriesAfter_congr {operations : List Operation} (taken : List String)
    (h : ∀ o ∈ operations, ∀ v ∈ o.vars, ∀ name ∈ v.type.describedName?,
      other.find? name = table.find? name) :
    entriesAfter other suffix taken operations = entriesAfter table suffix taken operations := by
  induction operations generalizing taken with
  | nil => rfl
  | cons o rest ih =>
    obtain ⟨ho, hrest⟩ := List.forall_mem_cons.mp h
    rw [entriesAfter, entriesAfter, describeOperation_congr ho]
    simp only [fun taken => ih taken hrest]

/-- **The catalog is the same** for two tables with the same entries of the types that variables are
described by. -/
theorem build_congr {documents : List Document}
    (h : ∀ name, Describes documents name → other.find? name = table.find? name) :
    build other suffix documents = build table suffix documents := by
  unfold build
  rw [entriesAfter_congr]
  intro o ho v hv name hname
  obtain ⟨d, hd, ho⟩ := List.mem_flatMap.mp ho
  exact h name ⟨d, hd, o, ho, v, hv, hname⟩

/-! ### The order of operations -/

/-- **There is a catalog** exactly if each operation can be described, and no two of those with
variables share a name. -/
theorem build_eq_ok_iff {documents : List Document} {entries : List Entry} :
    (build table suffix documents).outcome = .ok entries ↔
      ∃ made, List.Forall₂ (fun o e => describeOperation table suffix o = .ok e)
          (documents.flatMap operationsOf) made ∧
        made.filterMap id = entries ∧ (entries.map (·.name)).Nodup := by
  simp only [build, Logged.outcome_bind_do, Logged.outcome_record, Logged.outcome_pure_do, ok_bind,
    bind_eq_ok_iff, pure_eq_ok_iff, exists_eq_right, entriesAfter_eq_ok_iff]
  simp

/-- **The catalog of the same operations in another order** has the same entries in another
order. -/
theorem build_of_perm {documents documents' : List Document} {entries : List Entry}
    (hperm : (documents'.flatMap operationsOf).Perm (documents.flatMap operationsOf))
    (h : (build table suffix documents).outcome = .ok entries) :
    ∃ entries', (build table suffix documents').outcome = .ok entries' ∧
      entries'.Perm entries := by
  obtain ⟨made, hmade, rfl, hnodup⟩ := build_eq_ok_iff.mp h
  obtain ⟨made', hmade', hmadeperm⟩ := List.perm_comp_forall₂ hperm hmade
  have hentries := hmadeperm.filterMap id
  exact ⟨made'.filterMap id,
    build_eq_ok_iff.mpr ⟨made', hmade', rfl, (hentries.map _).nodup_iff.mpr hnodup⟩, hentries⟩

end OperationCatalog.Catalog
