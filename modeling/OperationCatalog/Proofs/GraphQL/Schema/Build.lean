import OperationCatalog.GraphQL.Schema.Load
import OperationCatalog.Proofs.GraphQL.Schema.Coercion

/-!
# What a schema is built from

A schema that a text defines has two properties that a schema as such need not have.

* **Its values are plain** (`OperationCatalog.GraphQL.Schema.Plain`): the arguments of its
  directives have trees of plain scalars where none is given, and the directives on its input fields
  are lexical. All of them come from literals of the text.
* **It is closed** (`OperationCatalog.GraphQL.Schema.Closed`): the name in the type of an input
  field is that of a type of the schema which values can be given for. A name stands for something
  while the schema is built (`OperationCatalog.GraphQL.Scope.meaning`), and the order of the types
  then has to list it – be it a name of the document or one that every schema has and that is
  referred to.

`OperationCatalog.GraphQL.plain_of_schemaOfText` and
`OperationCatalog.GraphQL.closed_of_schemaOfText` are the two main results. Beside them, its types
are called by names (`OperationCatalog.GraphQL.isName_of_schemaOfText`).
-/

namespace OperationCatalog.GraphQL

/-! ### Types with all that is added to them -/

theorem TypeBody.Lexical.extended? {a b c : TypeBody} (ha : a.Lexical) (hb : b.Lexical)
    (h : a.extended? b = some c) : c.Lexical := by
  unfold TypeBody.extended? at h
  split at h <;> cases h
  all_goals first
    | trivial
    | exact List.forall_mem_append.mpr ⟨ha, hb⟩

theorem extendedByOne_eq_ok {t e u : TypeDefinition} (h : t.extendedByOne e = .ok u) :
    u.name = t.name ∧ (t.body.Lexical → e.body.Lexical → u.body.Lexical) := by
  unfold TypeDefinition.extendedByOne at h
  split at h
  · obtain ⟨-, -, h⟩ := bind_eq_ok_iff.mp h
    obtain rfl := pure_eq_ok_iff.mp h
    exact ⟨rfl, fun _ _ => trivial⟩
  · simp at h
  · split at h
    · rename_i body hbody
      cases h
      exact ⟨rfl, fun ht he => ht.extended? he hbody⟩
    · simp at h

/-- **A type with all that is added to it** keeps its name and is lexical if its parts are. -/
theorem extendedBy_eq_ok {t u : TypeDefinition} {additions : List TypeDefinition}
    (h : t.extendedBy additions = .ok u) :
    u.name = t.name ∧ (t.body.Lexical → (∀ e ∈ additions, e.body.Lexical) → u.body.Lexical) := by
  obtain ⟨-, -, h⟩ := bind_eq_ok_iff.mp h
  refine ⟨foldlM_keeps (P := fun u => u.name = t.name) (fun e _ before after hone hname => ?_) h rfl,
    fun ht hall => foldlM_keeps (P := fun u => u.body.Lexical)
      (fun e he before after hone hbody => ?_) h ht⟩
  · exact (extendedByOne_eq_ok hone).1.trans hname
  · exact (extendedByOne_eq_ok hone).2 hbody (hall e he)

/-! ### The types of a document -/

/-- The input fields of a type; only input objects have some. -/
def TypeForm.fields : TypeForm → List InputField
  | .input fields => fields
  | _ => []

namespace Scope

variable {d : Document} {s : Scope} {t : TypeDefinition} {u : SchemaType} {name : String}

/-- **The types of a document** are types that it defines, with all that is added to them. -/
theorem exists_of_mem_types (h : ofDocument d = .ok s) (ht : t ∈ s.types) :
    ∃ original ∈ d.typeDefinitions, Standard.typeNames.contains original.name = false ∧
      original.extendedBy (d.typeExtensions.filter (·.name == original.name)) = .ok t := by
  obtain ⟨types, htypes, h⟩ := bind_eq_ok_iff.mp h
  obtain rfl := pure_eq_ok_iff.mp h
  obtain ⟨name, -, hfind⟩ := List.mem_filterMap.mp ht
  have hmem := List.mem_reverse.mp (List.mem_of_find?_eq_some hfind)
  obtain ⟨original, horiginal, hof⟩ := exists_of_forall₂_of_mem (mapM_eq_ok_iff.mp htypes) hmem
  obtain ⟨hdefined, hstandard⟩ := List.mem_filter.mp horiginal
  exact ⟨original, hdefined, by simpa using hstandard, hof⟩

/-- **The names of the types** are names that the document defines and that no schema has anyway. -/
theorem name_of_mem_types (h : ofDocument d = .ok s) (ht : t ∈ s.types) :
    t.name ∈ s.names ∧ Standard.typeNames.contains t.name = false := by
  obtain ⟨original, hdefined, hstandard, hof⟩ := exists_of_mem_types h ht
  rw [(extendedBy_eq_ok hof).1]
  obtain ⟨types, -, h⟩ := bind_eq_ok_iff.mp h
  obtain rfl := pure_eq_ok_iff.mp h
  exact ⟨List.mem_eraseDups.mpr (List.mem_map_of_mem hdefined), hstandard⟩

/-- What a lexical document defines as a type is called by a name and lexical. -/
theorem lexical_of_mem_typeDefinitions (hd : ∀ definition ∈ d, definition.Lexical)
    (ht : t ∈ d.typeDefinitions) : IsName t.name ∧ t.body.Lexical := by
  obtain ⟨definition, hmem, hof⟩ := List.mem_filterMap.mp ht
  cases definition <;> cases hof
  exact hd _ hmem

/-- What a lexical document says of input fields is lexical. -/
theorem lexical_of_ofDocument (hd : ∀ definition ∈ d, definition.Lexical)
    (h : ofDocument d = .ok s) : s.Lexical := by
  have hdefined : ∀ t ∈ d.typeDefinitions, t.body.Lexical := fun t ht =>
    (lexical_of_mem_typeDefinitions hd ht).2
  have hadded : ∀ t ∈ d.typeExtensions, t.body.Lexical := fun t ht => by
    obtain ⟨definition, hmem, hof⟩ := List.mem_filterMap.mp ht
    cases definition <;> cases hof
    exact hd _ hmem
  intro t ht
  obtain ⟨original, horiginal, -, hof⟩ := exists_of_mem_types h ht
  exact (extendedBy_eq_ok hof).2 (hdefined original horiginal) fun e he =>
    hadded e (List.mem_of_mem_filter he)

/-! ### Input fields -/

variable {fieldsOf : FieldsOf} {v : InputValue} {f : InputField} {default : Option Value}

/-- **Where no value is given**: the name in the type stands for a type of values that can be given,
and the value is what the type makes of the literal, if there is one. -/
theorem defaultOf_cases (h : s.defaultOf fieldsOf v = .ok default) :
    (∃ m, s.meaning v.type.baseName = .ok m ∧ m.isInput = true) ∧
      ((v.default = none ∧ default = none) ∨
        ∃ l, v.default = some l ∧ coerce s fieldsOf l v.type = .ok default) := by
  obtain ⟨m, hm, h⟩ := bind_eq_ok_iff.mp h
  have checked {value : Option Value} (h : (do
      checkDeprecation v.directives
      s.checkInput v.type.baseName
      return value) = .ok default) : m.isInput = true ∧ value = default := by
    obtain ⟨-, -, h⟩ := bind_eq_ok_iff.mp h
    obtain ⟨_, hinput, h⟩ := bind_eq_ok_iff.mp h
    refine ⟨?_, pure_eq_ok_iff.mp h⟩
    unfold checkInput at hinput
    rw [hm, ok_bind] at hinput
    rcases hno : m.isInput with _ | _
    · simp [hno] at hinput
    · rfl
  dsimp only at h
  split at h
  · rename_i hnone
    obtain ⟨hinput, rfl⟩ := checked h
    exact ⟨⟨m, hm, hinput⟩, .inl ⟨hnone, rfl⟩⟩
  · rename_i l hl
    obtain ⟨made, hmade, h⟩ := bind_eq_ok_iff.mp h
    obtain ⟨hinput, rfl⟩ := checked h
    exact ⟨⟨m, hm, hinput⟩, .inr ⟨l, hl, hmade⟩⟩

/-- A value where none is given is what the type makes of a literal. -/
theorem defaultOf_eq_ok (h : s.defaultOf fieldsOf v = .ok default) :
    (∃ m, s.meaning v.type.baseName = .ok m ∧ m.isInput = true) ∧
      ∀ value ∈ default, ∃ l ∈ v.default, coerce s fieldsOf l v.type = .ok (some value) := by
  obtain ⟨hinput, ⟨-, rfl⟩ | ⟨l, hl, hmade⟩⟩ := defaultOf_cases h
  · exact ⟨hinput, nofun⟩
  · refine ⟨hinput, fun value hvalue => ⟨l, hl, ?_⟩⟩
    rw [← Option.mem_def.mp hvalue]
    exact hmade

/-- An argument or input field has a plain value where none is given, if it is lexical. -/
theorem tree_defaultOf (hs : s.Lexical) (hfields : fieldsOf.Plain) (hv : v.Lexical)
    (h : s.defaultOf fieldsOf v = .ok default) : ∀ value ∈ default, value.Tree Scalar.Plain := by
  intro value hvalue
  obtain ⟨l, hl, hmade⟩ := (defaultOf_eq_ok h).2 value hvalue
  exact tree_coerce hs hfields (hv.default l hl) _ _ hmade

/-- **What is said of an input field** and the field it makes. -/
structure MakesField (s : Scope) (fieldsOf : FieldsOf) (v : InputValue) (f : InputField) :
    Prop where
  /-- They have the same name. -/
  name : v.name = f.name
  /-- They have the same type. -/
  type : v.type = f.type
  /-- They have the same directives. -/
  directives : v.directives = f.directives
  /-- The field has the value that the type makes of the literal. -/
  default : s.defaultOf fieldsOf v = .ok f.default

/-- **The fields of an input object** are those that are said to be, each name once. -/
theorem fieldsWithin_eq_ok {depth : Nat} {fields : List InputField}
    (h : s.fieldsWithin (depth + 1) t = .ok fields) :
    ∃ made, List.Forall₂ (s.MakesField (s.fieldsWithin depth)) (inputValuesOf t) made ∧
      fields = byName InputField.name made := by
  obtain ⟨made, hmade, h⟩ := bind_eq_ok_iff.mp h
  refine ⟨made, (mapM_eq_ok_iff.mp hmade).imp fun v f hf => ?_, (pure_eq_ok_iff.mp h).symm⟩
  obtain ⟨default, hdefault, hf⟩ := bind_eq_ok_iff.mp hf
  obtain rfl := pure_eq_ok_iff.mp hf
  exact ⟨rfl, rfl, rfl, hdefault⟩

/-- A field of an input object is made by what is said of it. -/
theorem exists_of_mem_fieldsWithin {depth : Nat} {fields : List InputField}
    (h : s.fieldsWithin (depth + 1) t = .ok fields) (hf : f ∈ fields) :
    ∃ v ∈ inputValuesOf t, s.MakesField (s.fieldsWithin depth) v f := by
  obtain ⟨made, hmade, rfl⟩ := fieldsWithin_eq_ok h
  exact exists_of_forall₂_of_mem hmade (mem_of_mem_byName hf)

/-- What is said of the fields of a lexical input object is lexical. -/
theorem lexical_of_mem_inputValuesOf (ht : t.body.Lexical) (hv : v ∈ inputValuesOf t) :
    v.Lexical := by
  unfold inputValuesOf at hv
  split at hv
  · rename_i fields hbody
    rw [hbody] at ht
    exact ht v hv
  · simp at hv

/-- **The fields of input objects are plain**, by induction on how deep their values go. -/
theorem plain_fieldsWithin (hs : s.Lexical) (depth : Nat) : (s.fieldsWithin depth).Plain := by
  induction depth with
  | zero => exact fun t _ fields h => by simp [fieldsWithin] at h
  | succ depth ih =>
    intro t ht fields h
    refine ⟨?_, fun f hf => ?_⟩
    · obtain ⟨made, -, rfl⟩ := fieldsWithin_eq_ok h
      exact nodup_byName _ _
    · obtain ⟨v, hv, hmakes⟩ := exists_of_mem_fieldsWithin h hf
      exact tree_defaultOf hs ih (lexical_of_mem_inputValuesOf ht hv) hmakes.default

/-! ### Types and directives -/

/-- **A type of the document** keeps its name. -/
theorem schemaType_eq_ok (h : s.schemaType t = .ok u) :
    t.name = u.name ∧ s.formOf t = .ok u.form := by
  obtain ⟨form, hform, h⟩ := bind_eq_ok_iff.mp h
  obtain rfl := pure_eq_ok_iff.mp h
  exact ⟨rfl, hform⟩

/-- Only an input object has input fields. -/
theorem fieldsOf_of_formOf {fields : List InputField} (h : s.formOf t = .ok (.input fields)) :
    s.fieldsOf t = .ok fields := by
  unfold formOf at h
  split at h
  · simp [pure, Except.pure] at h
  · simp [pure, Except.pure] at h
  · obtain ⟨found, hfound, h⟩ := bind_eq_ok_iff.mp h
    cases h
    exact hfound
  · obtain ⟨-, -, h⟩ := bind_eq_ok_iff.mp h
    simp [pure, Except.pure] at h
  all_goals
    obtain ⟨-, -, h⟩ := bind_eq_ok_iff.mp h
    obtain ⟨-, -, h⟩ := bind_eq_ok_iff.mp h
    simp [pure, Except.pure] at h

/-- A type of values that can be given is not one that is only returned. -/
theorem form_ne_output (h : s.formOf t = .ok u.form) (hinput : (Meaning.defined t).isInput = true) :
    u.form ≠ .output := by
  intro houtput
  rw [houtput] at h
  unfold formOf at h
  unfold Meaning.isInput at hinput
  split at h
  · simp [pure, Except.pure] at h
  · simp [pure, Except.pure] at h
  · obtain ⟨found, -, h⟩ := bind_eq_ok_iff.mp h
    simp [pure, Except.pure] at h
  all_goals simp_all

/-- **The arguments of a directive** have plain values where none is given. -/
theorem tree_schemaDirective (hs : s.Lexical) {d : DirectiveDefinition}
    (hd : ∀ v ∈ d.arguments, v.Lexical) {made : SchemaDirective}
    (h : s.schemaDirective d = .ok made) :
    ∀ a ∈ made.arguments, ∀ v ∈ a.2, v.Tree Scalar.Plain := by
  obtain ⟨arguments, harguments, h⟩ := bind_eq_ok_iff.mp h
  obtain rfl := pure_eq_ok_iff.mp h
  intro a ha
  obtain ⟨v, hv, hof⟩ := exists_of_forall₂_of_mem (mapM_eq_ok_iff.mp harguments)
    (mem_of_mem_byName ha)
  obtain ⟨default, hdefault, hof⟩ := bind_eq_ok_iff.mp hof
  obtain rfl := pure_eq_ok_iff.mp hof
  exact tree_defaultOf hs (plain_fieldsWithin hs _) (hd v hv) hdefault

/-- What every schema says of the arguments of its directives is lexical, and so is what a lexical
document does. -/
theorem lexical_of_mem_directivesOf (hd : ∀ definition ∈ d, definition.Lexical) :
    ∀ directive ∈ directivesOf d, ∀ v ∈ directive.arguments, v.Lexical := by
  intro directive hdirective
  rcases List.mem_append.mp hdirective with hown | hstandard
  · obtain ⟨definition, hmem, hof⟩ := List.mem_filterMap.mp hown
    cases definition <;> cases hof
    exact hd _ hmem
  · have hplain : ∀ v ∈ directive.arguments, v.directives = [] ∧
        ∀ l ∈ v.default, l = .string "No longer supported" := by
      have hmem := List.mem_of_mem_filter hstandard
      simp only [Standard.directives, List.mem_cons, List.not_mem_nil, or_false] at hmem
      rcases hmem with rfl | rfl | rfl | rfl | rfl <;>
        simp [Standard.condition, Standard.parameter]
    intro v hv
    obtain ⟨hnone, hdefault⟩ := hplain v hv
    exact ⟨fun l hl => hdefault l hl ▸ .string _, by simp [hnone]⟩

/-! ### Names that stand for something -/

/-- A type that every schema has is not one of the document. -/
theorem typeNamed?_of_standard {types : List SchemaType}
    (hnew : ∀ t ∈ types, Standard.typeNames.contains t.name = false)
    (hname : Standard.typeNames.contains name = true) :
    typeNamed? types name = standardType? name := by
  have hnone : types.find? (·.name == name) = none := by
    refine List.find?_eq_none.mpr fun t ht heq => ?_
    have := hnew t ht
    rw [beq_iff_eq.mp heq, hname] at this
    simp at this
  rw [typeNamed?, hnone]

theorem standardType?_of_scalar {description : String}
    (h : Standard.scalars.lookup name = some description) :
    standardType? name = some ⟨name, some description, .scalar⟩ := by
  rw [standardType?, h]

theorem standardType?_of_enum {family : String} {values : List String}
    (hscalar : Standard.scalars.lookup name = none)
    (h : Standard.introspectionEnums.lookup name = some (family, values)) :
    standardType? name = some ⟨name, none, .enum values⟩ := by
  rw [standardType?, hscalar, h]

/-- The names of scalars and enumerations that every schema has are those of types with values. -/
theorem exists_standardType? {m : Meaning} (hm : s.meaning name = .ok m)
    (hinput : m.isInput = true) (hundefined : ∀ t, m ≠ .defined t) :
    Standard.typeNames.contains name = true ∧
      ∃ u, standardType? name = some u ∧ u.form ≠ .output := by
  unfold meaning meaning? at hm
  unfold Standard.typeNames
  split at hm
  · rename_i m' hm'
    obtain rfl := Except.ok.inj hm
    split at hm'
    · rename_i hscalar
      obtain ⟨scalar, hmem, rfl⟩ := List.mem_map.mp (List.contains_iff_mem.mp hscalar)
      refine ⟨by simp [List.mem_map_of_mem hmem], ?_⟩
      obtain ⟨description, hlookup⟩ :=
        Option.isSome_iff_exists.mp (List.lookup_isSome_iff.mpr ⟨scalar, hmem, beq_self_eq_true _⟩)
      exact ⟨_, standardType?_of_scalar hlookup, nofun⟩
    · rename_i hscalar
      have hnone : Standard.scalars.lookup name = none := by
        refine List.lookup_eq_none_iff.mpr fun scalar hmem => bne_iff_ne.mpr ?_
        rintro rfl
        exact hscalar (List.contains_iff_mem.mpr (List.mem_map_of_mem hmem))
      split at hm'
      · cases hm'
        simp [Meaning.isInput] at hinput
      · split at hm'
        · rename_i family values hlookup
          obtain ⟨before, after, hsplit, -⟩ := List.lookup_eq_some_iff.mp hlookup
          refine ⟨?_, _, standardType?_of_enum hnone hlookup, nofun⟩
          simp [hsplit]
        · obtain ⟨t, -, ht⟩ := Option.map_eq_some_iff.mp hm'
          exact absurd ht.symm (hundefined t)
  · simp at hm

theorem mem_typeNames_of_standardType? (h : standardType? name = some u) :
    name ∈ Standard.typeNames := by
  unfold standardType? at h
  unfold Standard.typeNames
  split at h
  · rename_i description hlookup
    obtain ⟨before, after, hsplit, -⟩ := List.lookup_eq_some_iff.mp hlookup
    simp [hsplit]
  · split at h
    · rename_i family values hlookup
      obtain ⟨before, after, hsplit, -⟩ := List.lookup_eq_some_iff.mp hlookup
      simp [hsplit]
    · split at h
      · rename_i hobject
        simp [List.contains_iff_mem.mp hobject]
      · simp at h

/-- The types that every schema has are called by names. -/
theorem isName_of_standardType? (h : standardType? name = some u) : IsName u.name := by
  have hstandard : ∀ name ∈ Standard.typeNames, IsName name := by decide
  rw [name_of_standardType? h]
  exact hstandard name (mem_typeNames_of_standardType? h)

/-- No type that every schema has is an input object. -/
theorem fields_of_standardType? (h : standardType? name = some u) : u.form.fields = [] := by
  unfold standardType? at h
  split at h
  · cases h
    rfl
  · split at h
    · cases h
      rfl
    · split at h
      · cases h
        rfl
      · simp at h

/-- **A name of values that can be given** is that of a type, and the type is not one that is only
returned. -/
theorem exists_typeNamed? {types : List SchemaType}
    (hnew : ∀ t ∈ s.types, Standard.typeNames.contains t.name = false)
    (htypes : List.Forall₂ (fun t u => s.schemaType t = .ok u) s.types types) {m : Meaning}
    (hm : s.meaning name = .ok m) (hinput : m.isInput = true) :
    (Standard.typeNames.contains name = true ∨ ∃ t ∈ s.types, t.name = name) ∧
      ∃ u, typeNamed? types name = some u ∧ u.form ≠ .output := by
  have hnew' : ∀ u ∈ types, Standard.typeNames.contains u.name = false := fun u hu => by
    obtain ⟨t, ht, hof⟩ := exists_of_forall₂_of_mem htypes hu
    rw [← (schemaType_eq_ok hof).1]
    exact hnew t ht
  by_cases hdefined : ∃ t, m = .defined t
  · obtain ⟨t, rfl⟩ := hdefined
    obtain ⟨u, hu, hof⟩ := find?_of_forall₂ htypes (q := (·.name == name))
      (fun t u h => by rw [(schemaType_eq_ok h).1]) (find?_of_meaning hm)
    have hname : t.name = name := by simpa using List.find?_some (find?_of_meaning hm)
    exact ⟨Or.inr ⟨t, mem_types_of_meaning hm, hname⟩, u, by rw [typeNamed?, hu],
      form_ne_output (schemaType_eq_ok hof).2 hinput⟩
  · obtain ⟨hstandard, u, hu, hform⟩ :=
      exists_standardType? hm hinput fun t ht => hdefined ⟨t, ht⟩
    exact ⟨Or.inl hstandard, u, (typeNamed?_of_standard hnew' hstandard).trans hu, hform⟩

/-! ### The order of the types -/

variable {roots : List String} {directives : List DirectiveDefinition} {base : String}

/-- A name that the document defines is listed. -/
theorem mem_typeOrder_of_mem_names (h : name ∈ s.names) : name ∈ s.typeOrder roots directives :=
  List.mem_eraseDups.mpr (List.mem_append_left _
    (List.mem_flatMap.mpr ⟨name, h, List.mem_cons_self⟩))

/-- A name that every schema has is listed where a name of the document refers to it. -/
theorem mem_typeOrder_of_referred (h : name ∈ s.names) (href : base ∈ s.referred name)
    (hstandard : Standard.typeNames.contains base = true) :
    base ∈ s.typeOrder roots directives := by
  by_cases hdefined : base ∈ s.names
  · exact mem_typeOrder_of_mem_names hdefined
  · have hundefined : base ∈ s.undefinedOf (s.referred name) :=
      List.mem_filter.mpr ⟨href, by simp_all⟩
    exact List.mem_eraseDups.mpr (List.mem_append_left _
      (List.mem_flatMap.mpr ⟨name, h, List.mem_cons_of_mem _ hundefined⟩))

/-- **Text is listed**, whatever a document defines. -/
theorem string_mem_typeOrder : "String" ∈ s.typeOrder roots directives := by
  by_cases hdefined : "String" ∈ s.names
  · exact mem_typeOrder_of_mem_names hdefined
  · refine List.mem_eraseDups.mpr (List.mem_append_right _ (List.mem_filter.mpr ⟨?_, ?_⟩))
    · simp
    · have hstandard : Standard.typeNames.contains "String" = true := by decide
      simp_all

/-- **An input object refers to the names in the types of its fields.** -/
theorem mem_referred_of_field {depth : Nat} {fields : List InputField}
    (ht : s.types.find? (·.name == name) = some t)
    (hfields : s.fieldsWithin (depth + 1) t = .ok fields) (hf : f ∈ fields) :
    f.type.baseName ∈ s.referred name := by
  obtain ⟨made, hmade, rfl⟩ := fieldsWithin_eq_ok hfields
  -- what is said of a field that counts counts as well, and is of the same type
  have hsettled := forall₂_byName InputValue.name InputField.name hmade fun v f h => h.name
  obtain ⟨v, hv, hmakes⟩ := exists_of_forall₂_of_mem hsettled hf
  have hbody : v.type.baseName ∈ t.body.settled.typeNames := by
    unfold inputValuesOf at hv
    split at hv
    · rename_i inputs hinputs
      rw [hinputs]
      exact List.mem_map_of_mem hv
    · simp [byName] at hv
  have hself : f.type.baseName ∈ withReferred f.type.baseName := by
    unfold withReferred
    split <;> simp
  unfold referred
  rw [ht]
  exact List.mem_flatMap.mpr ⟨_, hmakes.type ▸ hbody, hself⟩

end Scope

/-! ### Schemas -/

namespace Schema

/-- The schema of nothing. -/
def empty : Schema := ⟨[], [], List.nodup_nil⟩

/-- A field of an input object of a schema. -/
def HasField (schema : Schema) (f : InputField) : Prop := ∃ t ∈ schema.types, f ∈ t.form.fields

/-- **A schema of plain values.** -/
structure Plain (schema : Schema) : Prop where
  /-- Where an argument of a directive is not given, it has a tree of plain scalars or no value. -/
  defaults : ∀ d ∈ schema.directives, ∀ a ∈ d.arguments, ∀ v ∈ a.2, v.Tree Scalar.Plain
  /-- The directives on input fields are lexical. -/
  directives : ∀ f, schema.HasField f → ∀ use ∈ f.directives, use.Lexical

/-- **A closed schema**: it has the types of its input fields, and values can be given for them. -/
def Closed (schema : Schema) : Prop :=
  ∀ f, schema.HasField f → ∃ u, schema.type? f.type.baseName = some u ∧ u.form ≠ .output

end Schema

variable {trusted : Bool} {d : Document} {schema : Schema}

/-- **What a schema is built from**: the types of the document and its directives. -/
theorem buildSchema_eq_ok (h : buildSchema trusted d = .ok schema) :
    ∃ s roots types, Scope.ofDocument d = .ok s ∧
      List.Forall₂ (fun d made => s.schemaDirective d = .ok made) (Scope.directivesOf d)
        schema.directives ∧
      List.Forall₂ (fun t u => s.schemaType t = .ok u) s.types types ∧
      schema.types =
        (s.typeOrder roots (Scope.directivesOf d)).filterMap (Scope.typeNamed? types) := by
  unfold buildSchema at h
  dsimp only at h
  split at h
  · simp [error_bind] at h
  · obtain ⟨s, hs, h⟩ := bind_eq_ok_iff.mp h
    obtain ⟨roots, -, h⟩ := bind_eq_ok_iff.mp h
    obtain ⟨directives, hdirectives, h⟩ := bind_eq_ok_iff.mp h
    obtain ⟨types, htypes, h⟩ := bind_eq_ok_iff.mp h
    obtain rfl := pure_eq_ok_iff.mp h
    exact ⟨s, roots, types, hs, mapM_eq_ok_iff.mp hdirectives, mapM_eq_ok_iff.mp htypes, rfl⟩

/-- **A type of a schema** is made from one of the document, or every schema has it. -/
theorem exists_of_mem_schemaTypes {s : Scope} {order : List String} {types : List SchemaType}
    (htypes : List.Forall₂ (fun t u => s.schemaType t = .ok u) s.types types)
    (hschema : schema.types = order.filterMap (Scope.typeNamed? types)) {u : SchemaType}
    (hu : u ∈ schema.types) :
    (∃ t, s.types.find? (·.name == t.name) = some t ∧ s.schemaType t = .ok u) ∨
      Scope.standardType? u.name = some u := by
  rw [hschema] at hu
  obtain ⟨name, -, hu⟩ := List.mem_filterMap.mp hu
  unfold Scope.typeNamed? at hu
  split at hu
  · rename_i found
    cases hu
    obtain ⟨t, ht, hof⟩ := find?_of_forall₂ htypes.flip (q := (·.name == name))
      (fun u t h => by rw [(Scope.schemaType_eq_ok h).1]) found
    obtain rfl : t.name = name := by simpa using List.find?_some ht
    exact Or.inl ⟨t, ht, hof⟩
  · rw [Scope.name_of_standardType? hu]
    exact Or.inr hu

/-- **A field of a schema** is one of an input object of the document. -/
theorem exists_of_hasField {s : Scope} {order : List String} {types : List SchemaType}
    (htypes : List.Forall₂ (fun t u => s.schemaType t = .ok u) s.types types)
    (hschema : schema.types = order.filterMap (Scope.typeNamed? types)) {f : InputField}
    (hf : schema.HasField f) :
    ∃ t fields, s.types.find? (·.name == t.name) = some t ∧ s.fieldsOf t = .ok fields ∧
      f ∈ fields := by
  obtain ⟨u, hu, hf⟩ := hf
  rcases exists_of_mem_schemaTypes htypes hschema hu with ⟨t, ht, hof⟩ | hstandard
  · obtain ⟨-, hof⟩ := Scope.schemaType_eq_ok hof
    rcases hform : u.form with _ | values | fields | _
    all_goals rw [hform] at hf hof
    case input => exact ⟨t, fields, ht, Scope.fieldsOf_of_formOf hof, hf⟩
    all_goals simp [TypeForm.fields] at hf
  · -- no type that every schema has is an input object
    rw [Scope.fields_of_standardType? hstandard] at hf
    simp at hf

theorem plain_of_buildSchema (hd : ∀ definition ∈ d, definition.Lexical)
    (h : buildSchema trusted d = .ok schema) : schema.Plain := by
  obtain ⟨s, roots, types, hs, hdirectives, htypes, hschema⟩ := buildSchema_eq_ok h
  have hlexical := Scope.lexical_of_ofDocument hd hs
  refine ⟨fun made hmade => ?_, fun f hf => ?_⟩
  · obtain ⟨directive, hdirective, hof⟩ := exists_of_forall₂_of_mem hdirectives hmade
    exact Scope.tree_schemaDirective hlexical
      (Scope.lexical_of_mem_directivesOf hd directive hdirective) hof
  · obtain ⟨t, fields, ht, hfields, hf⟩ := exists_of_hasField htypes hschema hf
    obtain ⟨v, hv, hmakes⟩ := Scope.exists_of_mem_fieldsWithin hfields hf
    rw [← hmakes.directives]
    have htype := hlexical t (List.mem_of_find?_eq_some ht)
    exact (Scope.lexical_of_mem_inputValuesOf htype hv).directives

/-- The types of a schema are called by names, be it in its document or in every schema. -/
theorem isName_of_buildSchema (hd : ∀ definition ∈ d, definition.Lexical)
    (h : buildSchema trusted d = .ok schema) : ∀ t ∈ schema.types, IsName t.name := by
  obtain ⟨s, roots, types, hs, -, htypes, hschema⟩ := buildSchema_eq_ok h
  intro u hu
  rcases exists_of_mem_schemaTypes htypes hschema hu with ⟨t, ht, hof⟩ | hstandard
  · obtain ⟨original, horiginal, -, hextended⟩ :=
      Scope.exists_of_mem_types hs (List.mem_of_find?_eq_some ht)
    rw [← (Scope.schemaType_eq_ok hof).1, (extendedBy_eq_ok hextended).1]
    exact (Scope.lexical_of_mem_typeDefinitions hd horiginal).1
  · exact Scope.isName_of_standardType? hstandard

theorem closed_of_buildSchema (h : buildSchema trusted d = .ok schema) : schema.Closed := by
  obtain ⟨s, roots, types, hs, -, htypes, hschema⟩ := buildSchema_eq_ok h
  intro f hf
  obtain ⟨t, fields, ht, hfields, hf⟩ := exists_of_hasField htypes hschema hf
  obtain ⟨v, -, hmakes⟩ := Scope.exists_of_mem_fieldsWithin hfields hf
  obtain ⟨⟨m, hm, hinput⟩, -⟩ := Scope.defaultOf_eq_ok hmakes.default
  rw [hmakes.type] at hm
  obtain ⟨hknown, u, hu, hform⟩ :=
    Scope.exists_typeNamed? (fun t ht => (Scope.name_of_mem_types hs ht).2) htypes hm hinput
  refine ⟨u, Schema.type?_eq_some_iff.mpr ⟨?_, Scope.name_of_typeNamed? hu⟩, hform⟩
  rw [hschema]
  refine List.mem_filterMap.mpr ⟨f.type.baseName, ?_, hu⟩
  rcases hknown with hstandard | ⟨t', ht', hname⟩
  · exact Scope.mem_typeOrder_of_referred
      (Scope.name_of_mem_types hs (List.mem_of_find?_eq_some ht)).1
      (Scope.mem_referred_of_field ht hfields hf) hstandard
  · exact Scope.mem_typeOrder_of_mem_names (hname ▸ (Scope.name_of_mem_types hs ht').1)

/-- **Every schema has text**, as a type that values can be given for. -/
theorem exists_string_of_buildSchema (h : buildSchema trusted d = .ok schema) :
    ∃ u, schema.type? "String" = some u ∧ u.form ≠ .output := by
  obtain ⟨s, roots, types, hs, -, htypes, hschema⟩ := buildSchema_eq_ok h
  obtain ⟨-, u, hu, hform⟩ := Scope.exists_typeNamed?
    (fun t ht => (Scope.name_of_mem_types hs ht).2) htypes
    (show s.meaning "String" = .ok .standardScalar from rfl) rfl
  refine ⟨u, Schema.type?_eq_some_iff.mpr ⟨?_, Scope.name_of_typeNamed? hu⟩, hform⟩
  rw [hschema]
  exact List.mem_filterMap.mpr ⟨"String", Scope.string_mem_typeOrder, hu⟩

/-! ### Schemas of texts -/

variable {text : String}

theorem schemaOfText_eq_ok (h : schemaOfText trusted text = .ok schema) :
    ∃ d, parse text.toList = .ok d ∧ buildSchema trusted d = .ok schema := by
  obtain ⟨d, hd, h⟩ := bind_eq_ok_iff.mp h
  exact ⟨d, mapError_eq_ok_iff.mp hd, mapError_eq_ok_iff.mp h⟩

/-- **The values of a schema** that a text defines are plain. -/
theorem plain_of_schemaOfText (h : schemaOfText trusted text = .ok schema) : schema.Plain := by
  obtain ⟨d, hd, h⟩ := schemaOfText_eq_ok h
  exact plain_of_buildSchema (Document.Parsed.lexical ⟨_, hd⟩) h

/-- **The types of a schema** that a text defines are called by names. -/
theorem isName_of_schemaOfText (h : schemaOfText trusted text = .ok schema) :
    ∀ t ∈ schema.types, IsName t.name := by
  obtain ⟨d, hd, h⟩ := schemaOfText_eq_ok h
  exact isName_of_buildSchema (Document.Parsed.lexical ⟨_, hd⟩) h

/-- **A schema that a text defines is closed.** -/
theorem closed_of_schemaOfText (h : schemaOfText trusted text = .ok schema) : schema.Closed := by
  obtain ⟨d, -, h⟩ := schemaOfText_eq_ok h
  exact closed_of_buildSchema h

theorem exists_string_of_schemaOfText (h : schemaOfText trusted text = .ok schema) :
    ∃ u, schema.type? "String" = some u ∧ u.form ≠ .output := by
  obtain ⟨d, -, h⟩ := schemaOfText_eq_ok h
  exact exists_string_of_buildSchema h

end OperationCatalog.GraphQL
