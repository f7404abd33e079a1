import OperationCatalog.Proofs.GraphQL.Schema.Directive
import OperationCatalog.Proofs.Metadata.Refusal

/-!
# The rules on a field

Who reads the arguments of a rule knows them by their places, and these are the places that the
directive gives them. So there is one argument for each that it declares, whether it is given, has a
value where none is given, or is null (`OperationCatalog.Metadata.ArgumentValue`); and the order in
which arguments are given does not matter (`OperationCatalog.Metadata.ruleOf_perm`).

`OperationCatalog.Metadata.rules_in_order` says so of every field that is extracted from a schema.
-/

namespace OperationCatalog.Metadata

open GraphQL

variable {schema : Schema} {use use' : Directive} {d : SchemaDirective} {name : String}

/-! ### The arguments of a rule -/

/-- **What is given for an argument** is the value of the last literal under its name. -/
theorem lookup_givenArguments (use : Directive) (name : String) :
    (givenArguments use).lookup name = (use.argument? name).map Literal.value := by
  rw [lookup_eq_map_find?, givenArguments, find?_byName, ← List.map_reverse, List.find?_map,
    Directive.argument?, lastNamed?, lookup_eq_map_find?, Option.map_map, Option.map_map]
  rfl

/-- The value of an argument that a directive declares: what is given, or else the value that it has
then, or else null. -/
def argumentValue (use : Directive) (a : String × Option Value) : Value :=
  (((use.argument? a.1).map Literal.value).orElse fun _ => a.2).getD .null

/-- The arguments of a rule, one for each that the directive declares. -/
theorem ruleArguments_eq (h : schema.directive? use.name = some d) :
    ruleArguments schema use = d.arguments.map (argumentValue use) := by
  simp only [ruleArguments, h, lookup_givenArguments]
  rfl

/-- **The value of an argument** that a directive declares, where the directive is used. -/
inductive ArgumentValue (use : Directive) : String × Option Value → Value → Prop where
  /-- It is what is given, be it null. -/
  | given {name : String} {default : Option Value} {l : Literal}
    (h : use.argument? name = some l) : ArgumentValue use (name, default) l.value
  /-- If nothing is given, it is the value that the argument has then. -/
  | default {name : String} {value : Value} (h : use.argument? name = none) :
    ArgumentValue use (name, some value) value
  /-- If it has none then, it is null. -/
  | null {name : String} (h : use.argument? name = none) : ArgumentValue use (name, none) .null

/-- **Each argument that is declared has its value in its place.** -/
theorem forall₂_ruleArguments (h : schema.directive? use.name = some d) :
    List.Forall₂ (ArgumentValue use) d.arguments (ruleArguments schema use) := by
  rw [ruleArguments_eq h, List.forall₂_map_right_iff, List.forall₂_same]
  rintro ⟨name, default⟩ -
  rcases hgiven : use.argument? name with _ | l
  · cases default with
    | none =>
      rw [argumentValue, hgiven]
      exact .null hgiven
    | some value =>
      rw [argumentValue, hgiven]
      exact .default hgiven
  · rw [argumentValue, hgiven]
    exact .given hgiven

/-- The value of an argument is told by what is given for it. -/
theorem getElem?_ruleArguments (h : schema.directive? use.name = some d)
    (hname : use'.name = use.name) {i : Nat} {a : String × Option Value}
    (ha : d.arguments[i]? = some a) (hgiven : use.argument? a.1 = use'.argument? a.1) :
    (ruleArguments schema use)[i]? = (ruleArguments schema use')[i]? := by
  rw [ruleArguments_eq h, ruleArguments_eq (hname ▸ h), List.getElem?_map, List.getElem?_map, ha,
    Option.map_some, Option.map_some, argumentValue, argumentValue, hgiven]

/-- **The order in which arguments are given** does not matter. -/
theorem ruleOf_perm (h : schema.directive? use.name = some d) (hname : use'.name = use.name)
    (hperm : use.arguments.Perm use'.arguments) (hdistinct : (use.arguments.map (·.1)).Nodup) :
    ruleOf schema use = ruleOf schema use' := by
  have hgiven : ∀ name, use.argument? name = use'.argument? name := fun name =>
    lastNamed?_perm hperm hdistinct
  rw [ruleOf, ruleOf, ruleArguments_eq h, ruleArguments_eq (hname ▸ h), hname]
  have hvalue : argumentValue use = argumentValue use' := by
    funext a
    rw [argumentValue, argumentValue, hgiven]
  rw [hvalue]

/-! ### Rules -/

/-- **What a directive on a field means as a rule.** -/
structure IsRule (schema : Schema) (use : Directive) (rule : Rule) : Prop where
  /-- The rule has the name of the directive. -/
  type : rule.type = use.name
  /-- It has the values of the arguments that the directive declares, if it declares some. -/
  constraints : ∀ d, schema.directive? use.name = some d → ∃ values,
    List.Forall₂ (ArgumentValue use) d.arguments values ∧
      rule.constraints = if d.arguments = [] then none else some (values.map ValueGraph.ofTree)

theorem isRule_ruleOf (schema : Schema) (use : Directive) :
    IsRule schema use (ruleOf schema use) where
  type := rfl
  constraints d h := by
    have hvalues := forall₂_ruleArguments h
    refine ⟨ruleArguments schema use, hvalues, ?_⟩
    have hempty : ((ruleArguments schema use).map ValueGraph.ofTree).isEmpty = true ↔
        d.arguments = [] := by
      rw [List.isEmpty_iff, List.map_eq_nil_iff, ← List.length_eq_zero_iff, ← hvalues.length_eq,
        List.length_eq_zero_iff]
    simp only [ruleOf, hempty]

/-- **The rules on a field**: one for each directive on its input, in order. -/
def AreRules (schema : Schema) (directives : List Directive) (validation : Option (List Rule)) :
    Prop :=
  ∃ rules, List.Forall₂ (IsRule schema)
      (directives.filter fun use => use.name ∉ ["deprecated", "specifiedBy", "oneOf"]) rules ∧
    validation = if rules = [] then none else some rules

theorem areRules_rulesOf (schema : Schema) (directives : List Directive) :
    AreRules schema directives (rulesOf schema directives) := by
  have hfilter : (directives.filter fun use => isValidationDirective use.name) =
      directives.filter fun use => use.name ∉ ["deprecated", "specifiedBy", "oneOf"] :=
    List.filter_congr fun use _ => by simp [isValidationDirective, descriptiveDirectives]
  refine ⟨(directives.filter fun use => use.name ∉ ["deprecated", "specifiedBy", "oneOf"]).map
    (ruleOf schema), ?_, ?_⟩
  · rw [List.forall₂_map_right_iff, List.forall₂_same]
    exact fun use _ => isRule_ruleOf schema use
  · simp only [rulesOf, hfilter, List.isEmpty_iff]

/-! ### Extracted fields -/

/-- **The fields of an extracted object** are those of the input object, each with its rules. -/
theorem exists_fields_of_extract {table : Table} (h : (extract schema).outcome = .ok table)
    {t : SchemaType} (ht : t ∈ describedTypes schema) {fields : List InputField}
    (hform : t.form = .input fields) :
    ∃ u, table.find? t.name = some u ∧ List.Forall₂ (fun f field => field.name = f.name ∧
      AreRules schema f.directives field.validation) fields u.fields := by
  have hinput : t ∈ inputTypes schema :=
    List.mem_filter.mpr ⟨ht, by rw [SchemaType.isInput, hform]⟩
  obtain ⟨u, hu, hmakes⟩ := exists_of_forall₂_of_mem (makesType_of_extract h).flip hinput
  refine ⟨u, Table.find?_eq_some_iff.mpr ⟨hu, hmakes.name⟩, ?_⟩
  have hshape := hmakes.shape
  rw [hform] at hshape
  obtain ⟨found, hfound, hu⟩ : ∃ found, List.Forall₂ (MakesField schema) fields found ∧
      u.shape = .object found := by
    generalize u.shape = shape at hshape
    cases hshape with
    | input hfound => exact ⟨_, hfound, rfl⟩
  rw [InputType.fields, hu]
  refine hfound.imp fun f field hfield => ⟨hfield.name, ?_⟩
  rw [hfield.validation]
  exact areRules_rulesOf schema f.directives

/-! ### Main result -/

/-- **The rules on a field stand in the order of its directives**, and the arguments of a rule in
the order in which the directive declares them. Each has the value that is given, be it null, or
else the value that it has where none is given, or else null. So the order in which arguments are
given does not matter, and no argument moves if another is not given. In the schema of a document
that keeps the rules, a directive on a field has a definition, whose arguments the schema has, and
no argument is given twice. -/
theorem rules_in_order :
    (∀ (schema : Schema) (table : Table), (extract schema).outcome = .ok table →
      ∀ t ∈ describedTypes schema, ∀ fields, t.form = .input fields →
        ∃ u, table.find? t.name = some u ∧ List.Forall₂ (fun f field => field.name = f.name ∧
          AreRules schema f.directives field.validation) fields u.fields) ∧
    (∀ (schema : Schema) (use use' : Directive) (made : SchemaDirective),
      schema.directive? use.name = some made → use'.name = use.name →
      (use.arguments.Perm use'.arguments → (use.arguments.map (·.1)).Nodup →
        ruleOf schema use = ruleOf schema use') ∧
      ∀ (i : Nat) (a : String × Option Value), made.arguments[i]? = some a →
        use.argument? a.1 = use'.argument? a.1 →
        (ruleArguments schema use)[i]? = (ruleArguments schema use')[i]?) ∧
    ∀ (d : Document) (schema : Schema), buildSchema false d = .ok schema →
      ∃ s, Scope.ofDocument d = .ok s ∧
        ∀ f, schema.HasField f → ∀ use ∈ f.directives, (use.arguments.map (·.1)).Nodup ∧
          ∃ definition made, d.directive? use.name = some definition ∧
            schema.directive? use.name = some made ∧
            List.Forall₂ s.MakesArgument definition.arguments made.arguments := by
  refine ⟨fun schema table h t ht fields => exists_fields_of_extract h ht,
    fun schema use use' made hmade hname => ⟨ruleOf_perm hmade hname,
      fun i a ha => getElem?_ruleArguments hmade hname ha⟩, fun d schema h => ?_⟩
  obtain ⟨s, -, -, hs, -⟩ := buildSchema_eq_ok h
  refine ⟨s, hs, fun f hf use huse => ?_⟩
  obtain ⟨⟨definition, hdefinition⟩, hdistinct⟩ := exists_definition_of_hasField h hf huse
  obtain ⟨made, hmade, harguments⟩ := exists_directive_of_buildSchema h hs hdefinition
  exact ⟨hdistinct, definition, made, hdefinition, hmade, harguments⟩

/-! ### One directive, used three times -/

/-- A field with a directive, twice with the same arguments in another order and once with none. -/
def spanText : String :=
  "directive @range(min: Int = 1, max: Int, step: Int = 2) repeatable on INPUT_FIELD_DEFINITION " ++
    "input Span \x7b size: Int @range(max: 9, min: null) @deprecated " ++
    "@range(min: null, max: 9) @range \x7d"

/-- The document that the text is. -/
def spanDocument : Document := (parse spanText.toList).toOption.getD []

/-- The schema that the document defines. -/
def spanSchema : Schema := (buildSchema false spanDocument).toOption.getD .empty

/-- The table that is extracted from the schema. -/
def spanTable : Table := (extract spanSchema).outcome.toOption.getD .empty

/-- The directive with the arguments in the order of its definition. -/
def inOrder : Directive := ⟨"range", [("min", .null), ("max", .int "9")]⟩

/-- The directive with the arguments in another order. -/
def outOfOrder : Directive := ⟨"range", [("max", .int "9"), ("min", .null)]⟩

theorem rules_in_order_spanText :
    buildSchema false spanDocument = .ok spanSchema ∧
      (extract spanSchema).outcome = .ok spanTable ∧
      (∃ fields u, fields.map InputField.name = ["size"] ∧ spanTable.find? "Span" = some u ∧
        List.Forall₂ (fun f field => field.name = f.name ∧
          AreRules spanSchema f.directives field.validation) fields u.fields) ∧
      (∃ made, spanSchema.directive? "range" = some made ∧
        (made.arguments.map fun a => (a.1, a.2.isSome)) =
          [("min", true), ("max", false), ("step", true)]) ∧
      ruleOf spanSchema inOrder = ruleOf spanSchema outOfOrder ∧
      (ruleArguments spanSchema inOrder)[2]? = (ruleArguments spanSchema ⟨"range", []⟩)[2]? ∧
      ∀ f, spanSchema.HasField f → ∀ use ∈ f.directives, (use.arguments.map (·.1)).Nodup := by
  obtain ⟨hschema, htable, hspan, hrange, hdescribed⟩ :
      (buildSchema false spanDocument).toOption.isSome = true ∧
        (extract spanSchema).outcome.toOption.isSome = true ∧
        (spanSchema.type? "Span").map (·.form.fields.map InputField.name) = some ["size"] ∧
        ((spanSchema.directive? "range").map fun made =>
            made.arguments.map fun a => (a.1, a.2.isSome)) =
          some [("min", true), ("max", false), ("step", true)] ∧
        isIntrospectionName "Span" = false := by decide +kernel
  replace hschema : buildSchema false spanDocument = .ok spanSchema := eq_ok_getD hschema _
  replace htable : (extract spanSchema).outcome = .ok spanTable := eq_ok_getD htable _
  obtain ⟨hfields, huses, hdocument⟩ := rules_in_order
  obtain ⟨t, ht, hnames⟩ := Option.map_eq_some_iff.mp hspan
  obtain ⟨made, hmade, harguments⟩ := Option.map_eq_some_iff.mp hrange
  obtain ⟨hmem, hname⟩ := Schema.type?_eq_some_iff.mp ht
  have hform : t.form = .input t.form.fields := by
    rcases hform : t.form with _ | _ | fields | _
    case input => rfl
    all_goals simp [hform, TypeForm.fields] at hnames
  obtain ⟨u, hu, hrules⟩ := hfields _ _ htable t
    (List.mem_filter.mpr ⟨hmem, by rw [hname, hdescribed, Bool.not_false]⟩) _ hform
  obtain ⟨a, hstep, hname'⟩ : ∃ a, made.arguments[2]? = some a ∧ a.1 = "step" := by
    have hthird := congrArg (·[2]?) harguments
    rw [List.getElem?_map] at hthird
    obtain ⟨a, ha, hpair⟩ := Option.map_eq_some_iff.mp hthird
    exact ⟨a, ha, (Prod.mk.inj hpair).1⟩
  obtain ⟨s, -, hgiven⟩ := hdocument _ _ hschema
  refine ⟨hschema, htable, ⟨_, u, hnames, hname ▸ hu, hrules⟩, ⟨made, hmade, harguments⟩,
    (huses spanSchema inOrder outOfOrder made hmade rfl).1 (.swap _ _ _) (by decide),
    (huses spanSchema inOrder ⟨"range", []⟩ made hmade rfl).2 2 a hstep (by rw [hname']; rfl),
    fun f hf use huse => (hgiven f hf use huse).1⟩

end OperationCatalog.Metadata
