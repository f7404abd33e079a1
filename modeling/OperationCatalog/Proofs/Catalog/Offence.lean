import Mathlib.Data.List.Induction
import Mathlib.Data.Option.Basic
import OperationCatalog.Proofs.Catalog.Classification

/-!
# What stops a catalog

Only the operations that declare variables matter for a catalog
(`OperationCatalog.Catalog.declaring`); fragments, other definitions and operations without
variables may stand anywhere between them. There is a catalog exactly if all of these operations are
in order: each has a name, of its own, and each of its variables is supported
(`OperationCatalog.Catalog.InOrder`). A variable is supported if its type is a name of the table, or
a list of one, wherever null is excluded. The catalog then says the same as the operations: one
entry for each, one parameter for each variable, and the type of the variable can be read off its
parameter (`OperationCatalog.Catalog.MakesEntry`).

If they are not in order, one operation is the first that offends
(`OperationCatalog.Catalog.Offends`), and the fault is its own: it has no name, or a variable of it
is refused, or else its name is that of an operation before it. What comes after is never looked at.

That is shown from both ends. An operation that offends after others in order stops the catalog, by
going through those before it; and operations are in order or one of them offends first, by adding
one at the end. As a catalog has one outcome, nothing else can stop it
(`OperationCatalog.Catalog.build_of_parsed`).
-/

namespace OperationCatalog.GraphQL

/-- A type, with null excluded or not. -/
def TypeRef.marked (required : Bool) (ref : TypeRef) : TypeRef :=
  if required then .nonNull ref else ref

/-- **A type over a name**: the name or a list of it. -/
def TypeRef.IsOver (ref : TypeRef) (name : String) : Prop :=
  ∃ required, ref = .marked required (.named name) ∨
    ∃ itemsRequired, ref = .marked required (.list (.marked itemsRequired (.named name)))

/-- Whether a definition is an operation that declares variables. -/
def Definition.declaresVariables : Definition → Bool
  | .operation o => !o.vars.isEmpty
  | _ => false

namespace TypeRef

variable {ref : TypeRef} {required : Bool}

theorem marked_nullable (ref : TypeRef) : ref.nullable.marked ref.isNonNull = ref := by
  cases ref <;> rfl

theorem nullable_marked (h : ref.isNonNull = false) : (marked required ref).nullable = ref := by
  cases required with
  | true => rfl
  | false => cases ref <;> first | rfl | simp [isNonNull] at h

theorem isNonNull_marked (h : ref.isNonNull = false) :
    (marked required ref).isNonNull = required := by
  cases required with
  | true => rfl
  | false => exact h

end TypeRef

end OperationCatalog.GraphQL

namespace OperationCatalog.Catalog

open GraphQL Metadata

variable {table : Table} {suffix : String}

/-! ### What a catalog says -/

/-- The type expression that a parameter stands for. -/
def Parameter.expression (p : Parameter) : TypeRef :=
  match p.shape with
  | .one _ => .marked p.required (.named p.type)
  | .list _ itemsRequired => .marked p.required (.list (.marked itemsRequired (.named p.type)))

/-- **The parameter that a variable makes** says all of it, and the kind of its type besides. -/
structure MakesParameter (table : Table) (v : Variable) (p : Parameter) : Prop where
  /-- It is called like the variable. -/
  name : p.name = v.name
  /-- It tells the directives on the variable. -/
  directives : p.directives = v.directives.map (·.name)
  /-- It stands for the type of the variable, exclusions of null included. -/
  expression : p.expression = v.type
  /-- The kind is that in the table. -/
  kind : ∃ t, table.find? p.type = some t ∧ t.kind = p.shape.typeKind

/-- **The entry that an operation makes**, with one parameter for each variable. -/
structure MakesEntry (table : Table) (suffix : String) (o : Operation) (e : Entry) : Prop where
  /-- It is called like the operation. -/
  name : o.name = some e.name
  /-- It is of the kind of the operation. -/
  kind : e.kind = o.kind
  /-- The document is called like the operation, but for the suffix. -/
  document : e.document = e.name ++ suffix
  /-- Its parameters are those that the variables make, in order. -/
  parameters : List.Forall₂ (MakesParameter table) o.vars e.parameters

/-- The operations of some documents that declare variables, in order. -/
def declaring (documents : List Document) : List Operation :=
  operationsOf (documents.flatten.filter (·.declaresVariables))

/-! ### What can be wrong -/

/-- **A variable is supported** if its type is over a name of the table. -/
def Supported (table : Table) (v : Variable) : Prop := ∃ name ∈ table.names, v.type.IsOver name

/-- **Why a variable is refused.** -/
inductive Refused (table : Table) (v : Variable) : Fault → Prop
  /-- Its type is over a name that is not in the table. -/
  | missing {name} : v.type.IsOver name → name ∉ table.names → Refused table v (.missing name)
  /-- Its type is a list of lists, wherever null is excluded. -/
  | nested {item inner} : v.type.nullable = .list item → item.nullable = .list inner →
      Refused table v (.unsupportedItem (.list inner))

/-- **Some operations are in order**, so that there is a catalog of them. -/
structure InOrder (table : Table) (operations : List Operation) : Prop where
  /-- Each has a name. -/
  named : ∀ o ∈ operations, ∃ name, o.name = some name
  /-- The variables are supported. -/
  supported : ∀ o ∈ operations, ∀ v ∈ o.vars, Supported table v
  /-- No two share a name. -/
  distinct : (operations.map (·.name)).Nodup

/-- **How an operation offends** after others with these names. What comes first here hides what
comes later: of an operation without a name no variable is looked at, and a name that is taken only
matters if all variables are supported. -/
inductive Offends (table : Table) (taken : List String) (o : Operation) : Fault → Prop
  /-- It has no name. -/
  | anonymous : o.name = none → Offends table taken o .anonymous
  /-- A variable is refused; those before it are supported. -/
  | refused {name fault} : o.name = some name →
      First (Supported table) (Refused table · fault) o.vars → Offends table taken o fault
  /-- It shares its name. -/
  | duplicate {name} : o.name = some name → (∀ v ∈ o.vars, Supported table v) → name ∈ taken →
      Offends table taken o (.duplicate name)

/-! ### Variables -/

theorem describeType_eq_ok_iff {ref : TypeRef} {name : String} {shape : ParameterShape} :
    describeType table ref = .ok (name, shape) ↔ kindOf table name = .ok shape.typeKind ∧
      (ref = .named name ∧ shape = .one shape.typeKind ∨
        ∃ item, ref = .list item ∧ item.nullable = .named name ∧
          shape = .list shape.typeKind item.isNonNull) := by
  cases ref with
  | named name' =>
    simp only [describeType, bind_eq_ok_iff, pure_eq_ok_iff, Prod.mk.injEq]
    constructor
    · rintro ⟨kind, hkind, rfl, rfl⟩
      exact ⟨hkind, Or.inl ⟨rfl, rfl⟩⟩
    · rintro ⟨hkind, ⟨hname, hshape⟩ | ⟨item, hitem, -⟩⟩
      · obtain rfl := TypeRef.named.inj hname
        exact ⟨_, hkind, rfl, hshape.symm⟩
      · simp at hitem
  | list item =>
    rw [describeType]
    split
    · rename_i name' hitem
      simp only [bind_eq_ok_iff, pure_eq_ok_iff, Prod.mk.injEq]
      constructor
      · rintro ⟨kind, hkind, rfl, rfl⟩
        exact ⟨hkind, Or.inr ⟨item, rfl, hitem, rfl⟩⟩
      · rintro ⟨hkind, ⟨hname, -⟩ | ⟨item', hlist, hname, hshape⟩⟩
        · simp at hname
        · obtain rfl := TypeRef.list.inj hlist
          obtain rfl := TypeRef.named.inj (hitem.symm.trans hname)
          exact ⟨_, hkind, rfl, hshape.symm⟩
    · rename_i hother
      constructor
      · simp
      · rintro ⟨-, ⟨hname, -⟩ | ⟨item', hlist, hname, -⟩⟩
        · simp at hname
        · obtain rfl := TypeRef.list.inj hlist
          exact absurd hname (hother name)
  | nonNull inner => simp [describeType]

/-- **A variable is described** by a parameter that stands for it. -/
theorem describeVariable_eq_ok_iff {v : Variable} {p : Parameter} :
    describeVariable table v = .ok p ↔ MakesParameter table v p := by
  obtain ⟨pname, type, required, directives, shape⟩ := p
  simp only [describeVariable, bind_eq_ok_iff, pure_eq_ok_iff, Prod.exists, Parameter.mk.injEq]
  constructor
  · rintro ⟨type', shape', h, hname, rfl, hrequired, hdirectives, rfl⟩
    obtain ⟨hkind, ⟨hnamed, hshape⟩ | ⟨item, hlist, hitem, hshape⟩⟩ := describeType_eq_ok_iff.mp h
    · refine ⟨hname.symm, hdirectives.symm, ?_, kindOf_eq_ok_iff.mp hkind⟩
      rw [Parameter.expression, hshape, ← hrequired, ← hnamed, TypeRef.marked_nullable]
    · refine ⟨hname.symm, hdirectives.symm, ?_, kindOf_eq_ok_iff.mp hkind⟩
      rw [Parameter.expression, hshape, ← hrequired, ← hitem]
      dsimp only
      rw [TypeRef.marked_nullable, ← hlist, TypeRef.marked_nullable]
  · rintro ⟨hname, hdirectives, hexpression, hkind⟩
    refine ⟨type, shape, describeType_eq_ok_iff.mpr ⟨kindOf_eq_ok_iff.mpr hkind, ?_⟩, hname.symm,
      rfl, ?_, hdirectives.symm, rfl⟩
    · rw [← hexpression]
      cases shape with
      | one kind => exact Or.inl ⟨TypeRef.nullable_marked rfl, rfl⟩
      | list kind itemsRequired =>
        refine Or.inr ⟨.marked itemsRequired (.named type), TypeRef.nullable_marked rfl,
          TypeRef.nullable_marked rfl, ?_⟩
        rw [TypeRef.isNonNull_marked rfl]
        rfl
    · rw [← hexpression]
      cases shape with
      | one kind => exact TypeRef.isNonNull_marked rfl
      | list kind itemsRequired => exact TypeRef.isNonNull_marked rfl

/-- **A variable can be described** exactly if it is supported. -/
theorem exists_describeVariable_iff {v : Variable} :
    (∃ p, describeVariable table v = .ok p) ↔ Supported table v := by
  simp only [describeVariable_eq_ok_iff]
  constructor
  · rintro ⟨⟨name, type, required, directives, shape⟩, hmakes⟩
    obtain ⟨t, hfind, -⟩ := hmakes.kind
    refine ⟨type, Table.mem_names_of_find? hfind, required, ?_⟩
    rw [← hmakes.expression]
    cases shape with
    | one kind => exact Or.inl rfl
    | list kind itemsRequired => exact Or.inr ⟨itemsRequired, rfl⟩
  · rintro ⟨name, hname, required, htype | ⟨itemsRequired, htype⟩⟩
    all_goals obtain ⟨t, hfind⟩ := Table.find?_of_mem_names hname
    · exact ⟨⟨v.name, name, required, v.directives.map (·.name), .one t.kind⟩, rfl, rfl, htype.symm,
        t, hfind, rfl⟩
    · exact ⟨⟨v.name, name, required, v.directives.map (·.name), .list t.kind itemsRequired⟩, rfl,
        rfl, htype.symm, t, hfind, rfl⟩

theorem describeVariable_of_refused {v : Variable} {fault : Fault} (h : Refused table v fault) :
    describeVariable table v = .error fault := by
  cases h with
  | @missing name hover hname =>
    have hfind : kindOf table name = .error (.missing name) := by
      rcases hfound : table.find? name with _ | t
      · simp [kindOf, hfound]
      · exact absurd (Table.mem_names_of_find? hfound) hname
    obtain ⟨required, htype | ⟨itemsRequired, htype⟩⟩ := hover
    · rw [describeVariable, htype, TypeRef.nullable_marked rfl, describeType, hfind]
      rfl
    · rw [describeVariable, htype, TypeRef.nullable_marked rfl, describeType,
        TypeRef.nullable_marked rfl]
      dsimp only
      rw [hfind]
      rfl
  | nested hlist hitem =>
    rw [describeVariable, hlist, describeType, hitem]
    rfl

/-- A type expression is over a name unless it is a list of lists. -/
theorem isOver_or_isNested {ref : TypeRef} (h : ref.isExpression = true) :
    ref.IsOver ref.baseName ∨ ref.IsNested := by
  rcases TypeRef.nullable_cases h with hname | ⟨item, hlist, hitem⟩ | hnested
  · refine Or.inl ⟨ref.isNonNull, Or.inl ?_⟩
    rw [← hname, TypeRef.marked_nullable]
  · refine Or.inl ⟨ref.isNonNull, Or.inr ⟨item.isNonNull, ?_⟩⟩
    rw [← hitem, TypeRef.marked_nullable, ← hlist, TypeRef.marked_nullable]
  · exact Or.inr hnested

/-- **A variable is refused**, if its type is an expression, for a missing name or for a list of
lists. -/
theorem describeVariable_eq_error_iff {v : Variable} {fault : Fault}
    (h : v.type.isExpression = true) :
    describeVariable table v = .error fault ↔ Refused table v fault := by
  refine ⟨fun herror => ?_, describeVariable_of_refused⟩
  have hunsupported : ¬Supported table v := fun hsupported => by
    obtain ⟨p, hp⟩ := exists_describeVariable_iff.mpr hsupported
    simp [herror] at hp
  have hrefused : ∃ fault', Refused table v fault' := by
    rcases isOver_or_isNested h with hover | ⟨item, inner, hlist, hitem⟩
    · exact ⟨_, .missing hover fun hname => hunsupported ⟨_, hname, hover⟩⟩
    · exact ⟨_, .nested hlist hitem⟩
  obtain ⟨fault', hrefused⟩ := hrefused
  obtain rfl := Except.error.inj (herror.symm.trans (describeVariable_of_refused hrefused))
  exact hrefused

/-! ### Operations -/

/-- **An operation with variables makes an entry** that says the same. -/
theorem describeOperation_eq_some_iff {o : Operation} (hvars : o.vars ≠ []) {e : Entry} :
    describeOperation table suffix o = .ok (some e) ↔ MakesEntry table suffix o e := by
  constructor
  · intro h
    obtain ⟨hname, hkind, hdocument, hparameters⟩ := describeOperation_eq_some h
    exact ⟨hname, hkind, hdocument, hparameters.imp fun _ _ => describeVariable_eq_ok_iff.mp⟩
  · rintro ⟨hname, hkind, hdocument, hparameters⟩
    have hmap : o.vars.mapM (describeVariable table) = .ok e.parameters :=
      mapM_eq_ok_iff.mpr (hparameters.imp fun _ _ => describeVariable_eq_ok_iff.mpr)
    rw [describeOperation, if_neg (by simpa using hvars), hname]
    dsimp only
    rw [hmap, ← hkind, ← hdocument]
    rfl

variable (suffix) in
/-- An operation with variables that has a name and whose variables are supported makes an entry
under its name. -/
theorem exists_describeOperation {o : Operation} (hvars : o.vars ≠ []) {name : String}
    (hname : o.name = some name) (hsupported : ∀ v ∈ o.vars, Supported table v) :
    ∃ e, describeOperation table suffix o = .ok (some e) ∧ e.name = name := by
  obtain ⟨parameters, hmap⟩ := exists_mapM fun v hv =>
    exists_describeVariable_iff.mpr (hsupported v hv)
  refine ⟨⟨name, o.kind, name ++ suffix, parameters⟩, ?_, rfl⟩
  rw [describeOperation, if_neg (by simpa using hvars), hname]
  dsimp only
  rw [hmap]
  rfl

/-- **An operation that offends** stops the catalog, whatever comes after it. -/
theorem outcome_entriesAfter_of_offends {taken : List String} {o : Operation} (hvars : o.vars ≠ [])
    {fault : Fault} (h : Offends table taken o fault) (rest : List Operation) :
    (entriesAfter table suffix taken (o :: rest)).outcome = .error fault := by
  rw [outcome_entriesAfter_cons]
  cases h with
  | anonymous hname =>
    rw [describeOperation, if_neg (by simpa using hvars), hname]
    rfl
  | refused hname hfirst =>
    have hmap : o.vars.mapM (describeVariable table) = .error fault :=
      mapM_eq_error_iff.mpr (hfirst.imp (fun _ _ => exists_describeVariable_iff.mpr)
        fun _ _ => describeVariable_of_refused)
    rw [describeOperation, if_neg (by simpa using hvars), hname]
    dsimp only
    rw [hmap]
    rfl
  | @duplicate name hname hsupported htaken =>
    obtain ⟨e, he, rfl⟩ := exists_describeOperation suffix hvars hname hsupported
    rw [he, ok_bind]
    dsimp only
    rw [if_pos htaken]

variable (table) in
/-- **An operation is in order after others or it offends.** -/
theorem new_or_offends {o : Operation} (lexical : o.Lexical) (taken : List String) :
    (∃ name, o.name = some name ∧ name ∉ taken ∧ ∀ v ∈ o.vars, Supported table v) ∨
      ∃ fault, Offends table taken o fault := by
  rcases hname : o.name with _ | name
  · exact Or.inr ⟨_, .anonymous hname⟩
  rcases hmap : o.vars.mapM (describeVariable table) with fault | parameters
  · have hfirst : First (Supported table) (Refused table · fault) o.vars :=
      (mapM_eq_error_iff.mp hmap).imp (fun _ _ => exists_describeVariable_iff.mp)
        fun v hv => (describeVariable_eq_error_iff (lexical.types v hv).expression).mp
    exact Or.inr ⟨fault, .refused hname hfirst⟩
  · have hsupported : ∀ v ∈ o.vars, Supported table v := fun v hv =>
      exists_describeVariable_iff.mp (exists_mapM_iff.mp ⟨parameters, hmap⟩ v hv)
    by_cases htaken : name ∈ taken
    · exact Or.inr ⟨_, .duplicate hname hsupported htaken⟩
    · exact Or.inl ⟨name, rfl, htaken, hsupported⟩

/-! ### Operations one after the other -/

/-- The names of some operations. -/
def namesOf (operations : List Operation) : List String := operations.filterMap (·.name)

theorem InOrder.concat {operations : List Operation} (h : InOrder table operations) {o : Operation}
    {name : String} (hname : o.name = some name) (hnew : name ∉ namesOf operations)
    (hsupported : ∀ v ∈ o.vars, Supported table v) : InOrder table (operations ++ [o]) where
  named := List.forall_mem_append.mpr ⟨h.named, List.forall_mem_singleton.mpr ⟨name, hname⟩⟩
  supported := List.forall_mem_append.mpr ⟨h.supported, List.forall_mem_singleton.mpr hsupported⟩
  distinct := by
    rw [List.map_append, List.nodup_append]
    refine ⟨h.distinct, List.nodup_singleton _, ?_⟩
    rintro _ hmem _ hlast rfl
    obtain ⟨o', ho', rfl⟩ := List.mem_map.mp hmem
    have hsame : o'.name = some name := (List.mem_singleton.mp hlast).trans hname
    exact hnew (List.mem_filterMap.mpr ⟨o', ho', hsame⟩)

/-- **The first operation that offends**: those before it are in order, so that their names are
taken. -/
def FirstOffence (table : Table) (operations : List Operation) (fault : Fault) : Prop :=
  ∃ before o after, operations = before ++ o :: after ∧ InOrder table before ∧
    Offends table (namesOf before) o fault

variable (table) in
/-- **Operations are in order or one of them offends first.** -/
theorem inOrder_or_firstOffence {operations : List Operation}
    (lexical : ∀ o ∈ operations, o.Lexical) :
    InOrder table operations ∨ ∃ fault, FirstOffence table operations fault := by
  induction operations using List.reverseRecOn with
  | nil => exact Or.inl ⟨by simp, by simp, by simp⟩
  | append_singleton operations o ih =>
    obtain ⟨hbefore, ho⟩ := List.forall_mem_append.mp lexical
    rcases ih hbefore with horder | ⟨fault, before, o', after, rfl, hbefore, hoffends⟩
    · rcases new_or_offends table (List.forall_mem_singleton.mp ho) (namesOf operations) with
        ⟨name, hname, hnew, hsupported⟩ | ⟨fault, hoffends⟩
      · exact Or.inl (horder.concat hname hnew hsupported)
      · exact Or.inr ⟨fault, operations, o, [], rfl, horder, hoffends⟩
    · exact Or.inr ⟨fault, before, o', after ++ [o], by simp, hbefore, hoffends⟩

/-- An operation without variables makes no entry, and only such a one does not. -/
theorem describeOperation_eq_none_iff {o : Operation} :
    describeOperation table suffix o = .ok none ↔ o.vars = [] := by
  rw [describeOperation, ← List.isEmpty_iff]
  split
  · rename_i hvars
    simp [hvars]
  · rename_i hvars
    simp only [hvars, Bool.false_eq_true, iff_false]
    split
    · simp
    · intro h
      obtain ⟨_, -, h⟩ := bind_eq_ok_iff.mp h
      simp [pure, Except.pure] at h

/-- What operations with variables make are entries throughout. -/
theorem makesEntry_of_forall₂ {operations : List Operation} (hvars : ∀ o ∈ operations, o.vars ≠ [])
    {made : List (Option Entry)}
    (h : List.Forall₂ (fun o e => describeOperation table suffix o = .ok e) operations made) :
    List.Forall₂ (MakesEntry table suffix) operations (made.filterMap id) := by
  have hsome (o : Operation) (e : Option Entry) (he : describeOperation table suffix o = .ok e) :
      e.isSome = !o.vars.isEmpty := by
    cases e with
    | none => simp [describeOperation_eq_none_iff.mp he]
    | some e =>
      have hne : o.vars ≠ [] := fun hnil => by
        simp [describeOperation_eq_none_iff.mpr hnil] at he
      simp [hne]
  have hkept := forall₂_filterMap_id h hsome
  rw [List.filter_eq_self.mpr fun o ho => by simp [hvars o ho]] at hkept
  exact forall₂_imp_of_mem hkept fun o ho e => (describeOperation_eq_some_iff (hvars o ho)).mp

/-- **Operations with variables have entries** exactly if each makes one and no two share a name. -/
theorem entriesAfter_nil_eq_ok_iff {operations : List Operation}
    (hvars : ∀ o ∈ operations, o.vars ≠ []) {entries : List Entry} :
    (entriesAfter table suffix [] operations).outcome = .ok entries ↔
      List.Forall₂ (MakesEntry table suffix) operations entries ∧
        (operations.map (·.name)).Nodup := by
  have hnames {entries : List Entry}
      (hmakes : List.Forall₂ (MakesEntry table suffix) operations entries) :
      (operations.map (·.name)).Nodup ↔ (entries.map (·.name)).Nodup := by
    rw [map_eq_map_of_forall₂ (g := fun e => some e.name) hmakes fun _ _ h => h.name,
      ← List.nodup_map_iff (Option.some_injective String), List.map_map]
    rfl
  rw [entriesAfter_eq_ok_iff]
  constructor
  · rintro ⟨made, hmade, rfl, hnodup, -⟩
    have hmakes := makesEntry_of_forall₂ hvars hmade
    exact ⟨hmakes, (hnames hmakes).mpr hnodup⟩
  · rintro ⟨hmakes, hnodup⟩
    refine ⟨entries.map some, ?_, by simp, (hnames hmakes).mp hnodup, by simp⟩
    rw [List.forall₂_map_right_iff]
    exact forall₂_imp_of_mem hmakes fun o ho e => (describeOperation_eq_some_iff (hvars o ho)).mpr

variable (suffix) in
/-- **Operations with variables have entries** exactly if they are in order. -/
theorem exists_entriesAfter_iff {operations : List Operation}
    (hvars : ∀ o ∈ operations, o.vars ≠ []) :
    (∃ entries, (entriesAfter table suffix [] operations).outcome = .ok entries) ↔
      InOrder table operations := by
  simp only [entriesAfter_nil_eq_ok_iff hvars]
  constructor
  · rintro ⟨entries, hmakes, hnodup⟩
    have made (o : Operation) (ho : o ∈ operations) : ∃ e, MakesEntry table suffix o e := by
      obtain ⟨e, -, he⟩ := exists_of_forall₂_of_mem hmakes.flip ho
      exact ⟨e, he⟩
    refine ⟨fun o ho => ?_, fun o ho v hv => ?_, hnodup⟩
    · obtain ⟨e, he⟩ := made o ho
      exact ⟨e.name, he.name⟩
    · obtain ⟨e, he⟩ := made o ho
      obtain ⟨p, -, hp⟩ := exists_of_forall₂_of_mem he.parameters.flip hv
      exact exists_describeVariable_iff.mp ⟨p, describeVariable_eq_ok_iff.mpr hp⟩
  · intro h
    have hmap : ∃ made, operations.mapM (describeOperation table suffix) = .ok made := by
      refine exists_mapM fun o ho => ?_
      obtain ⟨name, hname⟩ := h.named o ho
      obtain ⟨e, he, -⟩ := exists_describeOperation suffix (hvars o ho) hname (h.supported o ho)
      exact ⟨some e, he⟩
    obtain ⟨made, hmade⟩ := hmap
    exact ⟨_, makesEntry_of_forall₂ hvars (mapM_eq_ok_iff.mp hmade), h.distinct⟩

/-- **The entries of operations after others** follow the entries of those, and the names of those
are taken. -/
theorem outcome_entriesAfter_append {taken : List String} {before rest : List Operation}
    {entries : List Entry} (h : (entriesAfter table suffix taken before).outcome = .ok entries) :
    (entriesAfter table suffix taken (before ++ rest)).outcome =
      (entriesAfter table suffix ((entries.map (·.name)).reverse ++ taken) rest).outcome.map
        (entries ++ ·) := by
  induction before generalizing taken entries with
  | nil =>
    obtain rfl := Except.ok.inj h
    simp only [List.map_nil, List.reverse_nil, List.nil_append]
    cases (entriesAfter table suffix taken rest).outcome <;> rfl
  | cons o before ih =>
    rw [outcome_entriesAfter_cons] at h
    obtain ⟨made, hmade, h⟩ := bind_eq_ok_iff.mp h
    rw [List.cons_append, outcome_entriesAfter_cons, hmade, ok_bind]
    cases made with
    | none => exact ih h
    | some entry =>
      dsimp only at h ⊢
      split at h
      · simp at h
      · rename_i hfree
        obtain ⟨more, hmore, h⟩ := bind_eq_ok_iff.mp h
        obtain rfl := pure_eq_ok_iff.mp h
        rw [if_neg hfree, ih hmore, List.map_cons, List.reverse_cons, List.append_assoc,
          List.singleton_append]
        cases (entriesAfter table suffix _ rest).outcome <;> rfl

/-- The entries of some operations are called like these. -/
theorem namesOf_of_forall₂ {operations : List Operation} {entries : List Entry}
    (h : List.Forall₂ (MakesEntry table suffix) operations entries) :
    namesOf operations = entries.map (·.name) := by
  induction h with
  | nil => rfl
  | @cons o e operations entries he _ ih =>
    rw [namesOf, List.filterMap_cons_some he.name, List.map_cons, ← ih, namesOf]

/-- An operation that offends does so after others with the same names. -/
theorem Offends.of_mem {taken taken' : List String} {o : Operation} {fault : Fault}
    (h : Offends table taken o fault) (hmem : ∀ name ∈ taken, name ∈ taken') :
    Offends table taken' o fault := by
  cases h with
  | anonymous hname => exact .anonymous hname
  | refused hname hfirst => exact .refused hname hfirst
  | duplicate hname hsupported htaken => exact .duplicate hname hsupported (hmem _ htaken)

/-- The first operation that offends stops the catalog. -/
theorem entriesAfter_of_firstOffence {operations : List Operation}
    (hvars : ∀ o ∈ operations, o.vars ≠ []) {fault : Fault}
    (h : FirstOffence table operations fault) :
    (entriesAfter table suffix [] operations).outcome = .error fault := by
  obtain ⟨before, o, after, rfl, hbefore, hoffends⟩ := h
  obtain ⟨hvarsBefore, hvarsRest⟩ := List.forall_mem_append.mp hvars
  obtain ⟨entries, hentries⟩ := (exists_entriesAfter_iff suffix hvarsBefore).mpr hbefore
  obtain ⟨hmakes, -⟩ := (entriesAfter_nil_eq_ok_iff hvarsBefore).mp hentries
  have htaken : Offends table ((entries.map (·.name)).reverse ++ []) o fault := by
    refine hoffends.of_mem fun name hname => ?_
    rw [namesOf_of_forall₂ hmakes] at hname
    simpa using hname
  rw [outcome_entriesAfter_append hentries,
    outcome_entriesAfter_of_offends (hvarsRest o List.mem_cons_self) htaken]
  rfl

/-- **Operations stop a catalog** exactly if one of them offends first, and then with its fault. -/
theorem entriesAfter_nil_eq_error_iff {operations : List Operation}
    (hvars : ∀ o ∈ operations, o.vars ≠ []) (lexical : ∀ o ∈ operations, o.Lexical)
    {fault : Fault} :
    (entriesAfter table suffix [] operations).outcome = .error fault ↔
      FirstOffence table operations fault := by
  refine ⟨fun h => ?_, entriesAfter_of_firstOffence hvars⟩
  rcases inOrder_or_firstOffence table lexical with horder | ⟨fault', hfirst⟩
  · obtain ⟨entries, hentries⟩ := (exists_entriesAfter_iff suffix hvars).mpr horder
    simp [h] at hentries
  · have hstops : (entriesAfter table suffix [] operations).outcome = .error fault' :=
      entriesAfter_of_firstOffence hvars hfirst
    obtain rfl := Except.error.inj (h.symm.trans hstops)
    exact hfirst

/-! ### Documents -/

/-- Operations without variables may stand anywhere. -/
theorem outcome_entriesAfter_filter (taken : List String) (operations : List Operation) :
    (entriesAfter table suffix taken (operations.filter fun o => !o.vars.isEmpty)).outcome =
      (entriesAfter table suffix taken operations).outcome := by
  induction operations generalizing taken with
  | nil => rfl
  | cons o operations ih =>
    rcases hvars : o.vars with _ | ⟨v, vars⟩
    · have hnone : describeOperation table suffix o = .ok none :=
        describeOperation_eq_none_iff.mpr hvars
      rw [List.filter_cons_of_neg (by simp [hvars]), ih, outcome_entriesAfter_cons, hnone, ok_bind]
    · rw [List.filter_cons_of_pos (by simp [hvars])]
      simp only [outcome_entriesAfter_cons, ih]

/-- The operations that declare variables are found document by document. -/
theorem declaring_eq (documents : List Document) :
    declaring documents = (documents.flatMap operationsOf).filter fun o => !o.vars.isEmpty := by
  have hoperations : documents.flatMap operationsOf = operationsOf documents.flatten := by
    rw [operationsOf, List.filterMap_flatten]
    rfl
  rw [hoperations, declaring, operationsOf, operationsOf, List.filterMap_filter,
    List.filter_filterMap]
  congr 1
  funext definition
  cases definition with
  | operation o => cases hvars : o.vars <;> simp [Definition.declaresVariables, hvars, Option.filter]
  | _ => rfl

theorem vars_ne_nil_of_mem_declaring {documents : List Document} {o : Operation}
    (h : o ∈ declaring documents) : o.vars ≠ [] := by
  rw [declaring_eq] at h
  simpa using (List.mem_filter.mp h).2

theorem lexical_of_mem_declaring {documents : List Document} (parsed : ∀ d ∈ documents, d.Parsed)
    {o : Operation} (h : o ∈ declaring documents) : o.Lexical := by
  rw [declaring_eq] at h
  obtain ⟨d, hd, ho⟩ := List.mem_flatMap.mp (List.mem_filter.mp h).1
  exact lexical_of_mem_operationsOf (parsed d hd) ho

/-- **The outcome depends on the operations that declare variables alone.** -/
theorem outcome_build (documents : List Document) :
    (build table suffix documents).outcome =
      (entriesAfter table suffix [] (declaring documents)).outcome := by
  rw [declaring_eq, outcome_entriesAfter_filter, build]
  simp only [Logged.outcome_bind_do, Logged.outcome_record, ok_bind, Logged.outcome_pure_do]
  exact bind_pure _

/-- **What becomes of parsed documents.** There is a catalog exactly if the operations that declare
variables are in order. It has one entry for each of them, which says the same, and none besides. If
there is none, the fault is that of the first operation that offends, and it is never that the type
of a variable is neither a name nor a list. Nothing depends on what else is in the documents:
operations without variables, fragments and other definitions. -/
theorem build_of_parsed {documents : List Document} (parsed : ∀ d ∈ documents, d.Parsed) :
    ((∃ entries, (build table suffix documents).outcome = .ok entries) ↔
      InOrder table (declaring documents)) ∧
    (∀ entries, (build table suffix documents).outcome = .ok entries →
      List.Forall₂ (MakesEntry table suffix) (declaring documents) entries) ∧
    (∀ fault, (build table suffix documents).outcome = .error fault ↔
      FirstOffence table (declaring documents) fault) ∧
    (∀ type, (build table suffix documents).outcome ≠ .error (.unsupported type)) ∧
    ∀ documents' : List Document, documents'.flatten.filter (·.declaresVariables) =
        documents.flatten.filter (·.declaresVariables) →
      (build table suffix documents').outcome = (build table suffix documents).outcome := by
  have hvars : ∀ o ∈ declaring documents, o.vars ≠ [] := fun _ => vars_ne_nil_of_mem_declaring
  have lexical : ∀ o ∈ declaring documents, o.Lexical := fun _ => lexical_of_mem_declaring parsed
  rw [outcome_build]
  refine ⟨exists_entriesAfter_iff suffix hvars, fun entries h => ?_,
    fun fault => entriesAfter_nil_eq_error_iff hvars lexical, fun type h => ?_, ?_⟩
  · exact ((entriesAfter_nil_eq_ok_iff hvars).mp h).1
  · obtain ⟨before, o, after, -, -, hoffends⟩ := (entriesAfter_nil_eq_error_iff hvars lexical).mp h
    cases hoffends with
    | refused hname hfirst =>
      obtain ⟨_, v, _, -, -, hrefused⟩ := hfirst
      cases hrefused
  · intro documents' hsame
    rw [outcome_build, declaring, declaring, hsame]

/-- A table with one type. -/
def countTable : Table := .ofTypes [⟨"Int", none, .scalar⟩]

/-- The texts of two documents. The second has a fragment and an operation that shares its name
with that in the first; its second variable is of a type that cannot be described, and its third of
one that is missing. -/
def countTexts : List String :=
  ["query Count($from: Int!) \x7b a \x7d",
    "fragment F on T \x7b a \x7d query Count($to: [Int!], $in: [[Place]!], $at: Time) \x7b a \x7d"]

/-- The documents. -/
def countDocuments : List Document :=
  countTexts.map fun text => (parse text.toList).toOption.getD []

/-- Of a name that is taken and two variables that are refused, the first variable is reported. -/
theorem build_of_parsed_countDocuments :
    (∀ d ∈ countDocuments, d.Parsed) ∧
      (build countTable "Document" countDocuments).outcome =
        .error (.unsupportedItem (.list (.named "Place"))) ∧
      FirstOffence countTable (declaring countDocuments)
        (.unsupportedItem (.list (.named "Place"))) := by
  have parses : ∀ text ∈ countTexts, (parse text.toList).toOption.isSome = true := by
    decide +kernel
  have parsed : ∀ d ∈ countDocuments, d.Parsed := by
    intro d hd
    obtain ⟨text, htext, rfl⟩ := List.mem_map.mp hd
    exact Document.parsed_of_isSome (parses text htext)
  have houtcome : (build countTable "Document" countDocuments).outcome =
      .error (.unsupportedItem (.list (.named "Place"))) := by decide +kernel
  exact ⟨parsed, houtcome, ((build_of_parsed parsed).2.2.1 _).mp houtcome⟩

end OperationCatalog.Catalog
