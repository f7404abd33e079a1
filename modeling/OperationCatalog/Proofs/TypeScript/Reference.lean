import OperationCatalog.Proofs.TypeScript.Generate

/-!
# References of a generated module

Fields and parameters refer to a scalar by its name and to every other type by its constant. A
constant that is referred to has to be there, and there once. This file proves that it is
(`OperationCatalog.TypeScript.references_declared_once`).

Three places decide about it, and each looks at something else: the catalog takes the kind of a
parameter's type from the table, the closure checks the kind that a field states, and the module
looks up the kind of the items of a list. What makes them agree is that a closure without a fault
is settled: all that its types need is registered, and what is registered and no scalar is
declared.
-/

namespace OperationCatalog.TypeScript

open Metadata

/-! ### Mentioned types -/

/-- The types that a declaration mentions, field by field, each with the shape of the field. -/
def Declaration.mentions (d : Declaration) : List (Shape × String) :=
  match d.body with
  | .enum _ => []
  | .object fields => fields.map fun f => (f.shape, f.type)

/-- The types that an operation mentions, parameter by parameter, each with the shape of the
parameter. -/
def OperationCode.mentions (o : OperationCode) : List (Shape × String) :=
  o.parameters.map fun p => (p.shape, p.type)

/-- **The types that a module mentions**, those of its declarations before those of its
operations. -/
def Module.mentions (m : Module) : List (Shape × String) :=
  m.declarations.flatMap Declaration.mentions ++ m.operations.flatMap OperationCode.mentions

/-- Every type that is no scalar is referred to by its constant. -/
theorem reference_of_ne_scalar (namespaceName type : String) {kind : TypeKind}
    (h : kind ≠ .scalar) :
    Module.reference namespaceName kind type = .line (namespaceName ++ "." ++ type) :=
  if_neg h

variable {config : Config} {table : Table} {documents : List GraphQL.Document}
  {entries : List Catalog.Entry} {closure : Closure} {shape : Shape} {name : String}

/-! ### What is referred to is declared -/

/-- What is registered and no scalar is declared. -/
theorem mem_declared_names (hc : Closure.Settled table closure) (hreg : name ∈ closure.registered)
    {t : InputType} (ht : table.find? name = some t) (hkind : t.kind ≠ .scalar) :
    name ∈ closure.declared.map (·.name) := by
  obtain rfl := Table.name_of_find? ht
  exact List.mem_map.mpr ⟨t, hc.mem_declared_iff.mpr ⟨hreg, ht, hkind⟩, rfl⟩

/-- **A field of a declared type** mentions a scalar or refers to a type of the table, of the kind
that it mentions: the closure has compared the two. -/
theorem refers_of_mem_declaration (hc : Closure.Settled table closure) {t : InputType}
    (ht : t ∈ closure.declared) {d : Declaration} (hd : declarationOf table t = .ok d)
    (hmention : (shape, name) ∈ d.mentions) (hkind : shape.typeKind ≠ .scalar) :
    table.Refers t.name name ∧ ∃ u, table.find? name = some u ∧ u.kind = shape.typeKind := by
  obtain ⟨-, hfind, -⟩ := hc.declared t ht
  unfold Declaration.mentions at hmention
  obtain ⟨-, -, ⟨values, -, hbody⟩ | ⟨fields, hbody, hfields⟩⟩ := declarationOf_eq_ok hd
  · simp [hbody] at hmention
  · rw [hbody] at hmention
    obtain ⟨code, hcode, hpair⟩ := List.mem_map.mp hmention
    obtain ⟨rfl, rfl⟩ := Prod.mk.inj hpair
    obtain ⟨field, hfield, hof⟩ := exists_of_forall₂_of_mem hfields hcode
    obtain ⟨-, htype, -, hshape, -⟩ := fieldOf_eq_ok hof
    have hclaimed := shapeOf_eq_ok hshape
    obtain ⟨_ | needed, hneed⟩ := hc.exists_needed ht hfield
    · rw [Closure.needed_eq_none_iff, hclaimed] at hneed
      exact absurd (Option.some.inj hneed) hkind
    · have hrefers := Table.refers_of_needed hfind hfield hneed
      obtain ⟨rfl, kind, hkind', -, u, hu, rfl⟩ := Closure.needed_eq_some_iff.mp hneed
      rw [htype]
      exact ⟨hrefers, u, hu, Option.some.inj (hkind'.symm.trans hclaimed)⟩

/-- **A field of a declared type** mentions a scalar or a type of the table, which is declared if it
has a name. -/
theorem declared_of_mem_declaration (hc : Closure.Settled table closure) {t : InputType}
    (ht : t ∈ closure.declared) {d : Declaration} (hd : declarationOf table t = .ok d)
    (hmention : (shape, name) ∈ d.mentions) (hkind : shape.typeKind ≠ .scalar) :
    name ∈ table.names ∧ (name ≠ "" → name ∈ closure.declared.map (·.name)) := by
  obtain ⟨hreg, -, -⟩ := hc.declared t ht
  obtain ⟨hrefers, u, hu, hukind⟩ := refers_of_mem_declaration hc ht hd hmention hkind
  obtain ⟨hmem, hregistered⟩ := hc.refers hreg hrefers
  exact ⟨hmem, fun hnamed => mem_declared_names hc (hregistered hnamed) hu (hukind ▸ hkind)⟩

/-- **A parameter** mentions a scalar or a declared type. -/
theorem declared_of_mem_operation (hclosure : (closureOf table entries).outcome = .ok closure)
    (hkinds : ∀ e ∈ entries, ∀ p ∈ e.parameters,
      ∃ t, table.find? p.type = some t ∧ t.kind = p.shape.typeKind)
    {e : Catalog.Entry} (he : e ∈ entries) (hmention : (shape, name) ∈ (operationOf e).mentions)
    (hkind : shape.typeKind ≠ .scalar) :
    name ∈ table.names ∧ name ∈ closure.declared.map (·.name) := by
  obtain ⟨code, hcode, hpair⟩ := List.mem_map.mp hmention
  obtain ⟨rfl, rfl⟩ := Prod.mk.inj hpair
  obtain ⟨p, hp, rfl⟩ := List.mem_map.mp hcode
  obtain ⟨t, ht, htkind⟩ := hkinds e he p hp
  have hreg := mem_registered_of_closureOf hclosure he hp
  refine ⟨Table.mem_names_of_find? ht,
    mem_declared_names (settled_of_closureOf hclosure) hreg ht ?_⟩
  rw [htkind]
  rcases p with ⟨_, _, _, _, _ | _⟩ <;> exact hkind

/-! ### Generated modules -/

/-- The constants of a generated module are those of a settled closure, name by name. -/
theorem exists_closure_of_generate {m : Module}
    (hm : (generate config table documents).outcome = .ok m) :
    ∃ entries closure, (Catalog.build table config.documentSuffix documents).outcome = .ok entries ∧
      (closureOf table entries).outcome = .ok closure ∧
      List.Forall₂ (fun t d => declarationOf table t = .ok d) closure.declared m.declarations ∧
      m.operations = entries.map operationOf ∧
      closure.declared.map (·.name) = m.declarations.map (·.name) := by
  obtain ⟨entries, hentries, hm⟩ := generate_eq_ok_iff.mp hm
  obtain ⟨closure, hclosure, declarations, hdeclarations, rfl⟩ := moduleOf_eq_ok_iff.mp hm
  exact ⟨entries, closure, hentries, hclosure, hdeclarations, rfl,
    map_eq_map_of_forall₂ hdeclarations fun t d hd => (declarationOf_eq_ok hd).1.symm⟩

theorem nodup_declarations {m : Module} (hm : (generate config table documents).outcome = .ok m) :
    (m.declarations.map (·.name)).Nodup := by
  obtain ⟨entries, closure, -, hclosure, -, -, hnames⟩ := exists_closure_of_generate hm
  exact hnames ▸ (settled_of_closureOf hclosure).distinct

/-- **What a generated module mentions** and is no scalar is in the table, and is declared if it has
a name. -/
theorem declared_of_mem_mentions {m : Module}
    (hm : (generate config table documents).outcome = .ok m)
    (hmention : (shape, name) ∈ m.mentions) (hkind : shape.typeKind ≠ .scalar) :
    name ∈ table.names ∧ (name ≠ "" → name ∈ m.declarations.map (·.name)) := by
  obtain ⟨entries, closure, hentries, hclosure, hdeclarations, hoperations, hnames⟩ :=
    exists_closure_of_generate hm
  rw [← hnames]
  rcases List.mem_append.mp hmention with hmention | hmention
  · obtain ⟨d, hd, hmention⟩ := List.mem_flatMap.mp hmention
    obtain ⟨t, ht, hof⟩ := exists_of_forall₂_of_mem hdeclarations hd
    exact declared_of_mem_declaration (settled_of_closureOf hclosure) ht hof hmention hkind
  · rw [hoperations] at hmention
    obtain ⟨o, ho, hmention⟩ := List.mem_flatMap.mp hmention
    obtain ⟨e, he, rfl⟩ := List.mem_map.mp ho
    have hkinds := fun e he p hp => @Catalog.parameter_kind_of_build _ _ _ _ hentries e he p hp
    obtain ⟨hmem, hdeclared⟩ := declared_of_mem_operation hclosure hkinds he hmention hkind
    exact ⟨hmem, fun _ => hdeclared⟩

/-- Once everything is collected, a module is only refused for a value without a text. -/
theorem exists_value_of_moduleOf (hclosure : (closureOf table entries).outcome = .ok closure)
    {fault : Fault} (h : (moduleOf config table entries).outcome = .error fault) :
    ∃ cause, fault = .value cause := by
  have hc := settled_of_closureOf hclosure
  simp only [moduleOf, Logged.outcome_bind_do, Logged.outcome_record, Logged.outcome_lift,
    Logged.outcome_pure_do, hclosure] at h
  rcases bind_eq_error_iff.mp h with h | ⟨c, hok, h⟩
  · simp at h
  obtain rfl := Except.ok.inj hok
  rcases bind_eq_error_iff.mp h with h | ⟨-, -, h⟩
  · simp at h
  replace h := bind_pure_eq_error_iff.mp h
  -- a type is refused for one of its fields, and a field for a rule or for its shape
  obtain ⟨t, ht, h⟩ := exists_of_mapM_eq_error h
  unfold declarationOf at h
  split at h
  · simp at h
  rcases bind_eq_error_iff.mp h with h | ⟨fields, -, h⟩
  · obtain ⟨field, hfield, h⟩ := exists_of_mapM_eq_error h
    rcases bind_eq_error_iff.mp h with h | ⟨rules, -, h⟩
    · obtain ⟨cause, -, rfl⟩ := mapError_eq_error_iff.mp h
      exact ⟨cause, rfl⟩
    · obtain ⟨need, hneed⟩ := hc.exists_needed ht hfield
      obtain ⟨shape, hshape⟩ := exists_shapeOf hneed
      rw [hshape] at h
      simp [bind, Except.bind, pure, Except.pure] at h
  · simp [pure, Except.pure] at h

/-- **Every constant that is referred to is declared, once.** In a module that is generated from a
table in which every type has a name,

* each field of a declared object and each parameter of an operation that does not mention a scalar
  refers to the constant of the type in the namespace, and that constant is declared exactly once;
* no constant is declared twice;
* once everything that some entries refer to is collected, the kind of every field of a declared
  type is known, so the module of these entries is only refused for an opaque value without a
  text. -/
theorem references_declared_once (unnamed : "" ∉ table.names) :
    (∀ m, (generate config table documents).outcome = .ok m →
      (∀ shape type, (shape, type) ∈ m.mentions → shape.typeKind ≠ .scalar →
        Module.reference m.namespaceName shape.typeKind type =
            .line (m.namespaceName ++ "." ++ type) ∧
          (m.declarations.map (·.name)).count type = 1) ∧
        (m.declarations.map (·.name)).Nodup) ∧
    ∀ entries closure, (closureOf table entries).outcome = .ok closure →
      (∀ t ∈ closure.declared, ∀ field ∈ t.fields, ∃ shape, shapeOf table field = .ok shape) ∧
        ∀ fault, (moduleOf config table entries).outcome = .error fault →
          ∃ cause, fault = .value cause := by
  refine ⟨fun m hm => ?_, fun entries closure hclosure => ⟨fun t ht field hfield => ?_, ?_⟩⟩
  · have hnodup := nodup_declarations hm
    refine ⟨fun shape type hmention hkind => ⟨reference_of_ne_scalar _ _ hkind, ?_⟩, hnodup⟩
    obtain ⟨hmem, hdeclared⟩ := declared_of_mem_mentions hm hmention hkind
    exact List.count_eq_one_of_mem hnodup (hdeclared fun he => unnamed (he ▸ hmem))
  · obtain ⟨need, hneed⟩ := (settled_of_closureOf hclosure).exists_needed ht hfield
    exact exists_shapeOf hneed
  · exact fun fault h => exists_value_of_moduleOf hclosure h

/-- An operation that takes a list of objects, which refer to themselves, and a scalar. -/
def ordersDocument : GraphQL.Document :=
  [.operation ⟨.query, some "Orders", [⟨"orders", .nonNull (.list (.named "Order")), none, []⟩,
    ⟨"limit", .named "Int", none, []⟩], [], []⟩]

theorem references_declared_once_ordersDocument :
    "" ∉ Closure.loopedTable.names ∧ ∃ m,
      (generate {} Closure.loopedTable [ordersDocument]).outcome = .ok m ∧
      m.declarations.map (·.name) = ["Direction", "Filter", "Order"] ∧
      m.mentions.map (·.2) = ["Filter", "Order", "Direction", "Filter", "Int", "Order", "Int"] ∧
      ∀ shape type, (shape, type) ∈ m.mentions → shape.typeKind ≠ .scalar →
        (m.declarations.map (·.name)).count type = 1 := by
  have unnamed : "" ∉ Closure.loopedTable.names := by decide
  refine ⟨unnamed, _, rfl, rfl, rfl, fun shape type hmention hkind => ?_⟩
  have declared := @references_declared_once {} Closure.loopedTable [ordersDocument] unnamed
  exact ((declared.1 _ rfl).1 shape type hmention hkind).2

end OperationCatalog.TypeScript
