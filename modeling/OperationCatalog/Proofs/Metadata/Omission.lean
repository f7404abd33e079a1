import OperationCatalog.Proofs.GraphQL.Schema.Reshaping
import OperationCatalog.Proofs.Metadata.Rules

/-!
# Arguments that are not given

An argument of a directive that is not given has a value then, which is written as a literal where
the directive is defined. To give the argument this very literal should make no difference; but
what is given is taken for what it looks like, and what is not given is what the type of the
argument makes of the literal.

So the two are the same exactly if the type reshapes no part of the literal
(`OperationCatalog.Metadata.omitted_eq_given_iff`).
-/

namespace OperationCatalog.Metadata

open GraphQL

variable {schema : Schema} {use : Directive} {d : Document} {i : Nat}

/-- **The constraint in a place** of the rule that a directive is. -/
def constraintAt (schema : Schema) (use : Directive) (i : Nat) : Option ValueGraph :=
  ((ruleOf schema use).constraints.getD [])[i]?

theorem constraintAt_eq (schema : Schema) (use : Directive) (i : Nat) :
    constraintAt schema use i = (ruleArguments schema use)[i]?.map ValueGraph.ofTree := by
  rw [constraintAt, ← List.getElem?_map, ruleOf]
  dsimp only
  split
  · rename_i hempty
    rw [List.isEmpty_iff.mp hempty]
    rfl
  · rfl

/-- **The constraint of an argument** that a directive declares. -/
theorem constraintAt_of_getElem? {made : SchemaDirective}
    (h : schema.directive? use.name = some made) {a : String × Option Value}
    (ha : made.arguments[i]? = some a) :
    constraintAt schema use i = some (.ofTree (argumentValue use a)) := by
  rw [constraintAt_eq, ruleArguments_eq h, List.getElem?_map, ha, Option.map_some, Option.map_some]

/-- A literal that stands for an argument which is not given has no field twice. -/
theorem hasDistinctFields_of_mem (h : d.hasDistinctLiteralFields = true)
    {definition : DirectiveDefinition} (hd : definition ∈ d.directiveDefinitions) {v : InputValue}
    (hv : v ∈ definition.arguments) {l : Literal} (hl : v.default = some l) :
    l.HasDistinctFields := by
  intro names hnames
  obtain ⟨_, hmem, hof⟩ := List.mem_filterMap.mp hd
  split at hof <;> cases hof
  refine of_decide_eq_true (List.all_eq_true.mp h names (List.mem_flatMap.mpr ⟨l, ?_, hnames⟩))
  refine List.mem_flatMap.mpr ⟨_, hmem, List.mem_append_right _ ?_⟩
  exact List.mem_filterMap.mpr ⟨v, hv, hl⟩

/-- **To give an argument the literal that it has where none is given** makes no difference exactly
if the type of the argument does not reshape the literal: if it is not given, the constraint is
what the type makes of the literal, and if it is given, what the literal looks like. -/
theorem omitted_eq_given_iff {text : String} (h : schemaOfText false text = .ok schema) :
    ∃ d s, parse text.toList = .ok d ∧ Scope.ofDocument d = .ok s ∧
      ∀ definition ∈ d.directiveDefinitions, ∀ (i : Nat) (v : InputValue) (l : Literal)
        (value : Value), definition.arguments[i]? = some v → v.default = some l →
        coerce s s.fieldsOf l v.type = .ok (some value) →
        ∀ omitting giving : Directive, omitting.name = definition.name →
          giving.name = definition.name → omitting.argument? v.name = none →
          giving.argument? v.name = some l →
          constraintAt schema omitting i = some (.ofTree value) ∧
          constraintAt schema giving i = some (.ofTree l.value) ∧
          (constraintAt schema omitting i = constraintAt schema giving i ↔
            ¬Reshapes s s.fieldsOf v.type l) := by
  obtain ⟨d, hd, hbuild⟩ := schemaOfText_eq_ok h
  obtain ⟨s, -, -, hs, -⟩ := buildSchema_eq_ok hbuild
  obtain ⟨-, hdistinct, -, -, hfields⟩ := rules_of_buildSchema hbuild
  refine ⟨d, s, hd, hs, fun definition hdefinition i v l value hv hl hvalue omitting giving
    homitting hgiving hnone hsome => ?_⟩
  obtain ⟨made, hmade, harguments⟩ :=
    exists_directive_of_buildSchema hbuild hs (directive?_of_mem hdistinct hdefinition)
  obtain ⟨⟨name, default⟩, ha, hmakes⟩ := exists_getElem?_of_forall₂ harguments hv
  obtain rfl : v.name = name := hmakes.name
  obtain rfl : default = some value := by
    obtain ⟨hno, -⟩ | ⟨l', hl', hmade⟩ := hmakes.default
    · simp [hl] at hno
    · obtain rfl := Option.some.inj (hl.symm.trans hl')
      exact Except.ok.inj (hmade.symm.trans hvalue)
  have homitted : constraintAt schema omitting i = some (.ofTree value) := by
    rw [constraintAt_of_getElem? (homitting ▸ hmade) ha, argumentValue, hnone]
    rfl
  have hgiven : constraintAt schema giving i = some (.ofTree l.value) := by
    rw [constraintAt_of_getElem? (hgiving ▸ hmade) ha, argumentValue, hsome]
    rfl
  have hmem := List.mem_of_getElem? hv
  have hlexical : l.Lexical :=
    (Scope.lexical_of_mem_directivesOf (Document.Parsed.lexical ⟨_, hd⟩) definition
      (List.mem_append_left _ hdefinition) v hmem).default l hl
  refine ⟨homitted, hgiven, ?_⟩
  rw [homitted, hgiven, ← eq_value_iff_of_coerce hlexical
    (hasDistinctFields_of_mem hfields hdefinition hmem hl) hvalue]
  simp [ValueGraph.ofTree]

/-! ### A number that is a name -/

/-- A directive with an identifier that is written as a number: not given, and given. -/
def numberedText : String :=
  "directive @d(k: ID = 5) on INPUT_FIELD_DEFINITION  input A \x7b x: Int @d  y: Int @d(k: 5) \x7d"

/-- The schema that the text defines. -/
def numberedSchema : Schema := (schemaOfText false numberedText).toOption.getD .empty

/-- The document that the text is. -/
def numberedDocument : Document := (parse numberedText.toList).toOption.getD []

/-- The table that is extracted from the schema. -/
def numberedTable : Table := (extract numberedSchema).outcome.toOption.getD .empty

/-- The digits of an integer that is written. -/
def digits? : Literal → Option String
  | .int text => some text
  | _ => none

/-- The scalars in the constraints of a field, constraint by constraint. -/
def constraintScalars (field : Field) : List (List Scalar) :=
  (field.validation.getD []).flatMap fun rule =>
    (rule.constraints.getD []).map fun constraint => constraint.root.scalars

/-- **It makes a difference whether the number is given.** -/
theorem numberedText_differs :
    schemaOfText false numberedText = .ok numberedSchema ∧
      (extract numberedSchema).outcome = .ok numberedTable ∧
      ∃ u x y, numberedTable.find? "A" = some u ∧ u.fields = [x, y] ∧ x.name = "x" ∧
        y.name = "y" ∧ constraintScalars x = [[.str "5"]] ∧ constraintScalars y = [[.int 5]] ∧
        x.validation ≠ y.validation := by
  obtain ⟨hschema, htable, hfields⟩ :
      (schemaOfText false numberedText).toOption.isSome = true ∧
        (extract numberedSchema).outcome.toOption.isSome = true ∧
        ((numberedTable.find? "A").map fun u =>
            u.fields.map fun field => (field.name, constraintScalars field)) =
          some [("x", [[.str "5"]]), ("y", [[.int 5]])] := by decide +kernel
  obtain ⟨u, hu, hpairs⟩ := Option.map_eq_some_iff.mp hfields
  refine ⟨eq_ok_getD hschema _, eq_ok_getD htable _, u, ?_⟩
  rcases hlist : u.fields with _ | ⟨x, _ | ⟨y, _ | ⟨z, rest⟩⟩⟩
  all_goals simp only [hlist, List.map_cons, List.map_nil, List.cons.injEq, Prod.mk.injEq,
    reduceCtorEq, and_false] at hpairs
  obtain ⟨⟨hx, hxs⟩, ⟨hy, hys⟩, -⟩ := hpairs
  refine ⟨x, y, hu, rfl, hx, hy, hxs, hys, fun hsame => ?_⟩
  rw [constraintScalars, hsame] at hxs
  exact absurd (hxs.symm.trans hys) (by decide)

theorem omitted_eq_given_iff_numberedText :
    schemaOfText false numberedText = .ok numberedSchema ∧
      ∃ s definition v, Scope.ofDocument numberedDocument = .ok s ∧
        definition ∈ numberedDocument.directiveDefinitions ∧ definition.name = "d" ∧
        definition.arguments[0]? = some v ∧ v.name = "k" ∧ v.default = some (.int "5") ∧
        coerce s s.fieldsOf (.int "5") v.type = .ok (some (.text "5")) ∧
        Reshapes s s.fieldsOf v.type (.int "5") ∧
        constraintAt numberedSchema ⟨"d", []⟩ 0 = some (.ofTree (.text "5")) ∧
        constraintAt numberedSchema ⟨"d", []⟩ 0 ≠
          constraintAt numberedSchema ⟨"d", [("k", .int "5")]⟩ 0 := by
  obtain ⟨hschema, hdocument, hdirectives⟩ :
      (schemaOfText false numberedText).toOption.isSome = true ∧
        (parse numberedText.toList).toOption.isSome = true ∧
        (numberedDocument.directiveDefinitions.map fun definition =>
            (definition.name, definition.arguments.map fun v =>
              (v.name, v.type, v.default.bind digits?))) =
          [("d", [("k", .named "ID", some "5")])] := by decide +kernel
  replace hschema : schemaOfText false numberedText = .ok numberedSchema := eq_ok_getD hschema _
  replace hdocument : parse numberedText.toList = .ok numberedDocument := eq_ok_getD hdocument _
  obtain ⟨d, s, hd, hs, hconstraints⟩ := omitted_eq_given_iff hschema
  obtain rfl := Except.ok.inj (hdocument.symm.trans hd)
  obtain ⟨definition, hdefinition, hpair⟩ := List.mem_map.mp
    (hdirectives ▸ List.mem_singleton_self _ : ("d", [("k", TypeRef.named "ID", some "5")]) ∈ _)
  obtain ⟨hname, harguments⟩ := Prod.mk.inj hpair
  obtain ⟨v, hv, hargument⟩ : ∃ v, definition.arguments[0]? = some v ∧
      (v.name, v.type, v.default.bind digits?) = ("k", TypeRef.named "ID", some "5") := by
    have hfirst := congrArg (·[0]?) harguments
    rw [List.getElem?_map] at hfirst
    exact Option.map_eq_some_iff.mp hfirst
  simp only [Prod.mk.injEq] at hargument
  obtain ⟨hk, htype, hdigits⟩ := hargument
  obtain ⟨l, hl, hint⟩ := Option.bind_eq_some_iff.mp hdigits
  obtain rfl : l = .int "5" := by
    cases l <;> simp_all [digits?]
  have hvalue : coerce s s.fieldsOf (.int "5") v.type = .ok (some (.text "5")) := by
    rw [htype]
    rfl
  have hreshapes : Reshapes s s.fieldsOf v.type (.int "5") := by
    rw [htype]
    exact .named (.int (.inr rfl))
  obtain ⟨homitted, -, hiff⟩ := hconstraints definition hdefinition 0 v _ _ hv hl hvalue
    ⟨"d", []⟩ ⟨"d", [("k", .int "5")]⟩ hname.symm hname.symm rfl (by rw [hk]; rfl)
  exact ⟨hschema, s, definition, v, hs, hdefinition, hname, hv, hk, hl, hvalue, hreshapes, homitted,
    fun hsame => hiff.mp hsame hreshapes⟩

end OperationCatalog.Metadata
