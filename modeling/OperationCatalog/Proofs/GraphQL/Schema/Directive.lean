import OperationCatalog.Proofs.GraphQL.Schema.Build

/-!
# The directives of a schema

A document that keeps the rules defines a directive once, with arguments that have different names.
So the arguments that the schema has for it are those of the definition, in their order
(`OperationCatalog.GraphQL.exists_directive_of_buildSchema`). And where a directive is used on an
input field, no argument is given twice (`OperationCatalog.GraphQL.exists_definition_of_hasField`).
-/

namespace OperationCatalog.GraphQL

variable {d : Document} {s : Scope} {schema : Schema} {t e u : TypeDefinition} {v : InputValue}

/-! ### What is said of input fields -/

theorem mem_inputValuesOf_extendedByOne (h : t.extendedByOne e = .ok u)
    (hv : v ∈ Scope.inputValuesOf u) : v ∈ Scope.inputValuesOf t ∨ v ∈ Scope.inputValuesOf e := by
  unfold TypeDefinition.extendedByOne at h
  split at h
  · obtain ⟨-, -, h⟩ := bind_eq_ok_iff.mp h
    obtain rfl := pure_eq_ok_iff.mp h
    simp [Scope.inputValuesOf] at hv
  · simp at h
  · split at h
    · rename_i body hbody
      cases h
      unfold TypeBody.extended? at hbody
      split at hbody <;> cases hbody
      all_goals simp_all [Scope.inputValuesOf]
    · simp at h

/-- **The input fields of a type** are those of its definition and those that are added to it. -/
theorem mem_inputValuesOf_extendedBy {additions : List TypeDefinition}
    (h : t.extendedBy additions = .ok u) (hv : v ∈ Scope.inputValuesOf u) :
    v ∈ Scope.inputValuesOf t ∨ ∃ e ∈ additions, v ∈ Scope.inputValuesOf e := by
  obtain ⟨-, -, h⟩ := bind_eq_ok_iff.mp h
  refine foldlM_keeps (P := fun u => v ∈ Scope.inputValuesOf u →
    v ∈ Scope.inputValuesOf t ∨ ∃ e ∈ additions, v ∈ Scope.inputValuesOf e)
    (fun e he before after hone hbefore hv => ?_) h .inl hv
  rcases mem_inputValuesOf_extendedByOne hone hv with hv | hv
  · exact hbefore hv
  · exact .inr ⟨e, he, hv⟩

/-- An input field of a definition is a place with directives. -/
theorem exists_site_of_mem_inputValuesOf (location : String) (hv : v ∈ Scope.inputValuesOf t) :
    ∃ site ∈ t.sites location, site.directives = v.directives := by
  unfold Scope.inputValuesOf at hv
  split at hv
  · rename_i fields hbody
    refine ⟨v.site location, List.mem_cons_of_mem _ ?_, rfl⟩
    rw [hbody]
    exact List.mem_map_of_mem hv
  · simp at hv

/-- **What is said of an input field** is a place with directives in the document. -/
theorem exists_site_of_ofDocument (hs : Scope.ofDocument d = .ok s) (ht : t ∈ s.types)
    (hv : v ∈ Scope.inputValuesOf t) :
    ∃ definition ∈ d, ∃ site ∈ definition.sites, site.directives = v.directives := by
  obtain ⟨original, horiginal, -, hof⟩ := Scope.exists_of_mem_types hs ht
  obtain hv | ⟨e, he, hv⟩ := mem_inputValuesOf_extendedBy hof hv
  · obtain ⟨definition, hmem, hof⟩ := List.mem_filterMap.mp horiginal
    cases definition <;> cases hof
    exact ⟨_, hmem, exists_site_of_mem_inputValuesOf _ hv⟩
  · obtain ⟨definition, hmem, hof⟩ := List.mem_filterMap.mp (List.mem_of_mem_filter he)
    cases definition <;> cases hof
    exact ⟨_, hmem, exists_site_of_mem_inputValuesOf _ hv⟩

/-- **The rules that the document of a schema keeps**, so far as they say that something is defined
or occurs once. -/
theorem rules_of_buildSchema (h : buildSchema false d = .ok schema) :
    d.hasDistinctParameters = true ∧ d.hasDistinctDirectives = true ∧
      d.hasPlacedDirectives = true ∧ d.hasDistinctArguments = true ∧
      d.hasDistinctLiteralFields = true := by
  unfold buildSchema at h
  rcases hrules : d.isSchema
  · simp [hrules, error_bind] at h
  · simp_all [Document.isSchema]

/-- **A directive on an input field** has a definition, and no argument of it is given twice. -/
theorem exists_definition_of_hasField (h : buildSchema false d = .ok schema) {f : InputField}
    (hf : schema.HasField f) {use : Directive} (huse : use ∈ f.directives) :
    (∃ definition, d.directive? use.name = some definition) ∧ (use.arguments.map (·.1)).Nodup := by
  obtain ⟨s, roots, types, hs, -, htypes, hschema⟩ := buildSchema_eq_ok h
  obtain ⟨t, fields, ht, hfields, hf⟩ := exists_of_hasField htypes hschema hf
  obtain ⟨v, hv, hmakes⟩ := Scope.exists_of_mem_fieldsWithin hfields hf
  rw [← hmakes.directives] at huse
  obtain ⟨definition, hmem, site, hsite, hdirectives⟩ :=
    exists_site_of_ofDocument hs (List.mem_of_find?_eq_some ht) hv
  rw [← hdirectives] at huse
  obtain ⟨-, -, hplaced, hdistinct, -⟩ := rules_of_buildSchema h
  constructor
  · have hplaced := List.all_eq_true.mp (List.all_eq_true.mp hplaced site
      (List.mem_flatMap.mpr ⟨definition, hmem, hsite⟩)) use huse
    split at hplaced
    · rename_i found hfound
      exact ⟨found, hfound⟩
    · simp at hplaced
  · refine of_decide_eq_true (List.all_eq_true.mp hdistinct use.arguments
      (List.mem_flatMap.mpr ⟨definition, hmem, List.mem_append_right _ ?_⟩))
    exact List.mem_map_of_mem (List.mem_flatMap.mpr ⟨site, hsite, huse⟩)

/-! ### The arguments of directives -/

/-- **An argument that a directive is said to have**, and the one it has in a schema. -/
structure Scope.MakesArgument (s : Scope) (v : InputValue) (a : String × Option Value) : Prop where
  /-- They have the same name. -/
  name : v.name = a.1
  /-- The value where none is given is what the type makes of the literal, if there is one. -/
  default : (v.default = none ∧ a.2 = none) ∨
    ∃ l, v.default = some l ∧ coerce s s.fieldsOf l v.type = .ok a.2

/-- A directive has the arguments that it is said to have, each name once. -/
theorem Scope.schemaDirective_eq_ok {definition : DirectiveDefinition} {made : SchemaDirective}
    (h : s.schemaDirective definition = .ok made) :
    made.name = definition.name ∧ ∃ arguments,
      List.Forall₂ s.MakesArgument definition.arguments arguments ∧
        made.arguments = byName (·.1) arguments := by
  obtain ⟨arguments, harguments, h⟩ := bind_eq_ok_iff.mp h
  obtain rfl := pure_eq_ok_iff.mp h
  refine ⟨rfl, arguments, (mapM_eq_ok_iff.mp harguments).imp fun v a ha => ?_, rfl⟩
  obtain ⟨default, hdefault, ha⟩ := bind_eq_ok_iff.mp ha
  obtain rfl := pure_eq_ok_iff.mp ha
  exact ⟨rfl, (Scope.defaultOf_cases hdefault).2⟩

/-- Where no two directives of a document have one name, it does not matter which of them counts. -/
theorem find?_directivesOf (h : d.hasDistinctDirectives = true) (name : String) :
    (Scope.directivesOf d).find? (·.name == name) = d.directive? name := by
  have hreverse : d.directiveDefinitions.reverse.find? (·.name == name) =
      d.directiveDefinitions.find? (·.name == name) := by
    have hdistinct : (d.directiveDefinitions.map (·.name)).Nodup := of_decide_eq_true h
    ext definition
    rw [find?_named_eq_some_iff hdistinct, find?_named_eq_some_iff (by simpa using hdistinct),
      List.mem_reverse]
  rw [Scope.directivesOf, Document.directive?, List.find?_append, List.find?_append, hreverse]
  rcases hown : d.directiveDefinitions.find? (·.name == name) with _ | definition
  · rw [List.find?_filter]
    congr 2
    funext standard
    by_cases hname : standard.name = name
    · simpa [hname] using hown
    · simp [hname]
  · rw [hown, Option.some_or, Option.some_or]

/-- **A directive that a document defines** is the one of its name. -/
theorem directive?_of_mem (h : d.hasDistinctDirectives = true) {definition : DirectiveDefinition}
    (hd : definition ∈ d.directiveDefinitions) :
    d.directive? definition.name = some definition := by
  have hdistinct : (d.directiveDefinitions.reverse.map (·.name)).Nodup := by
    simpa using (of_decide_eq_true h : (d.directiveDefinitions.map (·.name)).Nodup)
  rw [Document.directive?, List.find?_append,
    (find?_named_eq_some_iff hdistinct).mpr ⟨List.mem_reverse.mpr hd, rfl⟩, Option.some_or]

/-- The arguments of a directive have different names, be it one of the document or one that every
schema has. -/
theorem nodup_of_directive? (h : d.hasDistinctParameters = true) {name : String}
    {definition : DirectiveDefinition} (hd : d.directive? name = some definition) :
    (definition.arguments.map (·.name)).Nodup := by
  rcases List.mem_append.mp (List.mem_of_find?_eq_some hd) with hown | hstandard
  · obtain ⟨_, hmem, hof⟩ := List.mem_filterMap.mp (List.mem_reverse.mp hown)
    split at hof <;> cases hof
    exact of_decide_eq_true (List.all_eq_true.mp h _
      (List.mem_flatMap.mpr ⟨_, hmem, List.mem_singleton_self _⟩))
  · have hall : ∀ standard ∈ Standard.directives, (standard.arguments.map (·.name)).Nodup := by
      decide
    exact hall definition hstandard

/-- **The directives of a schema** are those of its document, with the arguments that they are said
to have, in their order. -/
theorem exists_directive_of_buildSchema (h : buildSchema false d = .ok schema)
    (hs : Scope.ofDocument d = .ok s) {name : String} {definition : DirectiveDefinition}
    (hd : d.directive? name = some definition) :
    ∃ made, schema.directive? name = some made ∧
      List.Forall₂ s.MakesArgument definition.arguments made.arguments := by
  obtain ⟨s', roots, types, hs', hdirectives, -⟩ := buildSchema_eq_ok h
  obtain rfl := Except.ok.inj (hs.symm.trans hs')
  obtain ⟨hparameters, hdistinct, -⟩ := rules_of_buildSchema h
  rw [← find?_directivesOf hdistinct] at hd
  obtain ⟨made, hmade, hof⟩ := find?_of_forall₂ hdirectives (q := (·.name == name))
    (fun definition made h => by rw [(Scope.schemaDirective_eq_ok h).1]) hd
  obtain ⟨-, arguments, harguments, hkept⟩ := Scope.schemaDirective_eq_ok hof
  rw [find?_directivesOf hdistinct] at hd
  refine ⟨made, hmade, ?_⟩
  have hnames : definition.arguments.map (·.name) = arguments.map (·.1) :=
    map_eq_map_of_forall₂ harguments fun v a ha => ha.name
  rwa [hkept, byName_of_nodup (hnames ▸ nodup_of_directive? hparameters hd)]

end OperationCatalog.GraphQL
