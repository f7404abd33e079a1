import OperationCatalog.Proofs.Catalog.Build
import OperationCatalog.Proofs.Metadata.Reach
import OperationCatalog.TypeScript.Generate

/-!
# What is generated

A module is generated for the entries of a catalog, and what it declares are the types of the
closure of these entries, one declaration for each
(`OperationCatalog.TypeScript.generate_eq_ok_iff`). A declaration keeps the name of its type, and a
field its type and – where it states one – its kind.

`OperationCatalog.TypeScript.settled_of_closureOf` is the link to closures: where everything that
some entries refer to is collected, the closure is settled, and all that is known of settled
closures may be used.
-/

namespace OperationCatalog.TypeScript

open Metadata

variable {config : Config} {table : Table} {documents : List GraphQL.Document}
  {entries : List Catalog.Entry} {closure : Closure} {m : Module}

/-! ### Closures of entries -/

/-- The closure of some entries is what visiting their types collects. -/
theorem closureOf_eq_ok_iff : (closureOf table entries).outcome = .ok closure ↔
    Closure.empty.resolveAll table (entries.flatMap Catalog.Entry.types) = (closure, none) := by
  unfold closureOf
  rcases Closure.empty.resolveAll table (entries.flatMap Catalog.Entry.types) with
    ⟨c, _ | fault⟩ <;> simp

theorem settled_of_closureOf (h : (closureOf table entries).outcome = .ok closure) :
    Closure.Settled table closure :=
  Closure.settled_empty.resolveAll (closureOf_eq_ok_iff.mp h)

/-- The types of the parameters of some entries are registered in their closure. -/
theorem mem_registered_of_closureOf (h : (closureOf table entries).outcome = .ok closure)
    {e : Catalog.Entry} (he : e ∈ entries) {p : Catalog.Parameter} (hp : p ∈ e.parameters) :
    p.type ∈ closure.registered := by
  refine Closure.mem_registered_of_resolveAll (closureOf_eq_ok_iff.mp h) (Or.inr ?_)
  exact List.mem_flatMap.mpr ⟨e, he, List.mem_map.mpr ⟨p, hp, rfl⟩⟩

/-! ### Fields and declarations -/

/-- The shape of a field is known exactly if the kind it takes its type to be of is known. -/
theorem shapeOf_eq_ok {field : Field} {shape : Shape} (h : shapeOf table field = .ok shape) :
    table.claimedKind? field = some shape.typeKind := by
  unfold shapeOf at h
  unfold Table.claimedKind?
  obtain ⟨_, type, _, _, kind | ⟨stated, allowsEmpty⟩⟩ := field
  · obtain rfl := Except.ok.inj h
    rfl
  · dsimp only at h ⊢
    rcases hitem : table.itemKind? type stated with _ | itemKind
    · simp [hitem] at h
    · rw [hitem] at h
      obtain rfl := Except.ok.inj h
      rfl

/-- A field that is right about its type has a shape. -/
theorem exists_shapeOf {owner : String} {field : Field} {need : Option String}
    (h : Closure.needed table owner field = .ok need) :
    ∃ shape, shapeOf table field = .ok shape := by
  have hkind : ∃ kind, table.claimedKind? field = some kind := by
    rcases need with _ | name
    · exact ⟨_, Closure.needed_eq_none_iff.mp h⟩
    · obtain ⟨-, kind, hkind, -⟩ := Closure.needed_eq_some_iff.mp h
      exact ⟨kind, hkind⟩
  obtain ⟨kind, hkind⟩ := hkind
  unfold Table.claimedKind? at hkind
  unfold shapeOf
  obtain ⟨_, type, _, _, stated | ⟨stated, allowsEmpty⟩⟩ := field
  · exact ⟨.one stated, rfl⟩
  · dsimp only at hkind ⊢
    rw [hkind]
    exact ⟨.list kind allowsEmpty, rfl⟩

theorem optionalLiteral_eq_ok {value : Option ValueGraph} {code : Option String}
    (h : optionalLiteral value = .ok code) : ∀ s ∈ code, ∃ g ∈ value, valueLiteral g = .ok s := by
  intro s hs
  cases value with
  | none =>
    obtain rfl := Except.ok.inj h
    simp at hs
  | some g =>
    obtain ⟨text, htext, rfl⟩ := map_eq_ok_iff.mp h
    obtain rfl := Option.some.inj hs
    exact ⟨g, rfl, htext⟩

/-- **A rule** keeps its name, and each of its opaque values becomes the literal of one. -/
theorem ruleCode_eq_ok {r : Rule} {code : RuleCode} (h : ruleCode r = .ok code) :
    code.type = r.type ∧ code.each = r.each.getD false ∧
      List.Forall₂ (fun g s => valueLiteral g = .ok s) (r.constraints.getD []) code.constraints ∧
      optionalLiteral r.context = .ok code.context ∧
      optionalLiteral r.options = .ok code.options := by
  obtain ⟨constraints, hconstraints, h⟩ := bind_eq_ok_iff.mp h
  obtain ⟨context, hcontext, h⟩ := bind_eq_ok_iff.mp h
  obtain ⟨options, hoptions, h⟩ := bind_eq_ok_iff.mp h
  obtain rfl := pure_eq_ok_iff.mp h
  exact ⟨rfl, rfl, mapM_eq_ok_iff.mp hconstraints, hcontext, hoptions⟩

theorem fieldOf_eq_ok {field : Field} {code : FieldCode} (h : fieldOf table field = .ok code) :
    code.name = field.name ∧ code.type = field.type ∧ code.required = field.required ∧
      shapeOf table field = .ok code.shape ∧
      List.Forall₂ (fun r c => ruleCode r = .ok c) (field.validation.getD []) code.rules := by
  obtain ⟨rules, hrules, h⟩ := bind_eq_ok_iff.mp h
  obtain ⟨shape, hshape, h⟩ := bind_eq_ok_iff.mp h
  obtain rfl := pure_eq_ok_iff.mp h
  exact ⟨rfl, rfl, rfl, hshape, mapM_eq_ok_iff.mp (mapError_eq_ok_iff.mp hrules)⟩

/-- **A declaration** keeps the name and the description of its type, and has its values or its
fields. -/
theorem declarationOf_eq_ok {t : InputType} {d : Declaration}
    (h : declarationOf table t = .ok d) :
    d.name = t.name ∧ d.description = t.description ∧
      ((∃ values, t.shape = .enum values ∧ d.body = .enum values) ∨
        ∃ fields, d.body = .object fields ∧
          List.Forall₂ (fun f c => fieldOf table f = .ok c) t.fields fields) := by
  unfold declarationOf at h
  split at h
  · rename_i values hshape
    obtain rfl := Except.ok.inj h
    exact ⟨rfl, rfl, Or.inl ⟨values, hshape, rfl⟩⟩
  · obtain ⟨fields, hfields, h⟩ := bind_eq_ok_iff.mp h
    obtain rfl := pure_eq_ok_iff.mp h
    exact ⟨rfl, rfl, Or.inr ⟨fields, rfl, mapM_eq_ok_iff.mp hfields⟩⟩

/-! ### Modules -/

theorem moduleOf_eq_ok_iff : (moduleOf config table entries).outcome = .ok m ↔
    ∃ closure, (closureOf table entries).outcome = .ok closure ∧ ∃ declarations,
      List.Forall₂ (fun t d => declarationOf table t = .ok d) closure.declared declarations ∧
        ⟨config.namespaceName, config.documentsImport, declarations,
          entries.map operationOf⟩ = m := by
  rw [moduleOf, Logged.outcome_bind_do, bind_eq_ok_iff]
  refine exists_congr fun closure => and_congr_right fun _ => ?_
  simp only [Logged.outcome_bind_do, Logged.outcome_record, Logged.outcome_lift,
    Logged.outcome_pure_do, ok_bind, bind_eq_ok_iff, mapM_eq_ok_iff, pure_eq_ok_iff]

/-- **What is generated**: the module of the entries of a catalog. -/
theorem generate_eq_ok_iff : (generate config table documents).outcome = .ok m ↔
    ∃ entries, (Catalog.build table config.documentSuffix documents).outcome = .ok entries ∧
      (moduleOf config table entries).outcome = .ok m := by
  simp only [generate, Logged.outcome_bind_do, Logged.outcome_record, Logged.outcome_mapError,
    Logged.outcome_pure_do, ok_bind, bind_eq_ok_iff, mapError_eq_ok_iff, pure_eq_ok_iff,
    exists_eq_right]

end OperationCatalog.TypeScript
