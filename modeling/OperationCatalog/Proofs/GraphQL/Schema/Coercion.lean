import OperationCatalog.GraphQL.Schema.Coercion
import OperationCatalog.Proofs.GraphQL.Value

/-!
# Values of types

What a type makes of a lexical literal is a tree of plain scalars
(`OperationCatalog.GraphQL.tree_coerce`), if the values that the fields of input objects have where
none is given are such trees, too (`OperationCatalog.GraphQL.FieldsOf.Plain`). The induction is on
the literal. An object literal is given to a type as fields that wait for their types
(`OperationCatalog.GraphQL.coercers`), and so what is known of a field is known whatever its type
turns out to be.
-/

namespace OperationCatalog.GraphQL

/-- **The fields of input objects** have distinct names and, where none is given, values that are
trees of plain scalars, if what the types say of them is lexical. -/
def FieldsOf.Plain (fieldsOf : FieldsOf) : Prop :=
  ∀ t : TypeDefinition, t.body.Lexical → ∀ fields, fieldsOf t = .ok fields →
    (fields.map (·.name)).Nodup ∧ ∀ f ∈ fields, ∀ v ∈ f.default, v.Tree Scalar.Plain

/-- **A coercer that makes trees** of plain scalars, whatever the type. -/
def Coercer.Plain (coercer : Coercer) : Prop :=
  ∀ type v, coercer type = .ok (some v) → v.Tree Scalar.Plain

/-- What a document says of the fields of its input objects is lexical. -/
def Scope.Lexical (s : Scope) : Prop := ∀ t ∈ s.types, t.body.Lexical

variable {s : Scope} {fieldsOf : FieldsOf} {l : Literal} {v : Value}
  {given : List (String × Coercer)}

/-- **A type that a name stands for** is the one of the document with this name. -/
theorem Scope.find?_of_meaning {name : String} {t : TypeDefinition}
    (h : s.meaning name = .ok (.defined t)) : s.types.find? (·.name == name) = some t := by
  unfold meaning meaning? at h
  split at h
  · rename_i m hm
    obtain rfl := Except.ok.inj h
    split at hm
    · simp at hm
    · split at hm
      · simp at hm
      · split at hm
        · simp at hm
        · obtain ⟨u, hu, htu⟩ := Option.map_eq_some_iff.mp hm
          cases htu
          exact hu
  · simp at h

theorem Scope.mem_types_of_meaning {name : String} {t : TypeDefinition}
    (h : s.meaning name = .ok (.defined t)) : t ∈ s.types :=
  List.mem_of_find?_eq_some (find?_of_meaning h)

/-! ### Scalars -/

/-- **What a scalar makes of a lexical literal.** -/
theorem tree_scalarValue? {name : String} (hl : l.Lexical) (h : scalarValue? name l = some v) :
    v.Tree Scalar.Plain := by
  unfold scalarValue? at h
  split at h
  -- an integer of the language is one of those that literals stand for
  · obtain ⟨i, hi, rfl⟩ := Option.map_eq_some_iff.mp h
    cases hl with
    | int htext => exact .scalar (isWritable_of_intOf? htext (Option.filter_eq_some_iff.mp hi).1)
  -- other literals that fit are turned into scalars of other kinds, or stand for themselves
  all_goals cases h
  all_goals first
    | exact .scalar trivial
    | exact hl.plain_value

/-! ### Objects -/

theorem lastNamed?_mem {α : Type} {name : String} {given : List (String × α)} {a : α}
    (h : lastNamed? name given = some a) : (name, a) ∈ given := by
  obtain ⟨before, after, hsplit, -⟩ := List.lookup_eq_some_iff.mp h
  exact List.mem_reverse.mp (by simp [hsplit])

/-- **The only thing of a name** is the last one. -/
theorem lastNamed?_eq_some_iff {α : Type} {name : String} {given : List (String × α)} {a : α}
    (h : (given.map (·.1)).Nodup) : lastNamed? name given = some a ↔ (name, a) ∈ given := by
  refine ⟨lastNamed?_mem, fun hmem => ?_⟩
  have hdistinct : (given.reverse.map (·.1)).Nodup := by simpa using h
  rw [lastNamed?, lookup_eq_map_find?,
    (find?_named_eq_some_iff hdistinct).mpr ⟨List.mem_reverse.mpr hmem, rfl⟩, Option.map_some]

/-- **The order of things with distinct names** does not matter to which is the last of a name. -/
theorem lastNamed?_perm {α : Type} {name : String} {given given' : List (String × α)}
    (h : given.Perm given') (hdistinct : (given.map (·.1)).Nodup) :
    lastNamed? name given = lastNamed? name given' := by
  ext a
  rw [lastNamed?_eq_some_iff hdistinct, lastNamed?_eq_some_iff ((h.map _).nodup hdistinct),
    h.mem_iff]

/-- **The value of a field**: what the last that is given under its name is made into, or what it
has where none is given. -/
def IsValueOf (given : List (String × Coercer)) (f : InputField) (value : String × Value) : Prop :=
  value.1 = f.name ∧
    ((∃ c, lastNamed? f.name given = some c ∧ c f.type = .ok (some value.2)) ∨
      (lastNamed? f.name given = none ∧ f.default = some value.2))

/-- **The values of some fields** are the values of those that have one, in their order. -/
theorem fieldValues?_eq_some {fields : List InputField} {values : List (String × Value)}
    (h : fieldValues? given fields = .ok (some values)) :
    List.Forall₂ (IsValueOf given)
      (fields.filter fun f => (lastNamed? f.name given).isSome || f.default.isSome) values := by
  induction fields generalizing values with
  | nil =>
    cases h
    exact .nil
  | cons f rest ih =>
    have choose {v : Value} (hv : IsValueOf given f (f.name, v))
        (h : (do
          let values ← fieldValues? given rest
          return values.map ((f.name, v) :: ·)) = .ok (some values)) :
        List.Forall₂ (IsValueOf given) (f :: rest.filter fun f =>
          (lastNamed? f.name given).isSome || f.default.isSome) values := by
      obtain ⟨found, hfound, h⟩ := bind_eq_ok_iff.mp h
      obtain ⟨more, rfl, rfl⟩ := Option.map_eq_some_iff.mp (pure_eq_ok_iff.mp h)
      exact .cons hv (ih hfound)
    rw [fieldValues?] at h
    split at h
    · rename_i hnone
      split at h
      · rename_i v hdefault
        rw [List.filter_cons_of_pos (by simp [hdefault])]
        exact choose ⟨rfl, Or.inr ⟨hnone, hdefault⟩⟩ h
      · rename_i hdefault
        rw [List.filter_cons_of_neg (by simp [hnone, hdefault])]
        split at h
        · simp at h
        · exact ih h
    · rename_i coercer hgiven
      rw [List.filter_cons_of_pos (by simp [hgiven])]
      obtain ⟨made, hmade, h⟩ := bind_eq_ok_iff.mp h
      cases made with
      | none => simp [pure, Except.pure] at h
      | some v => exact choose ⟨rfl, Or.inl ⟨_, hgiven, hmade⟩⟩ h

/-- **What an input object makes of given fields** are the values of those of its fields that have
one. -/
theorem objectValue?_eq_some {t : TypeDefinition}
    (h : objectValue? fieldsOf t given = .ok (some v)) :
    ∃ fields values, fieldsOf t = .ok fields ∧
      List.Forall₂ (IsValueOf given)
        (fields.filter fun f => (lastNamed? f.name given).isSome || f.default.isSome) values ∧
      v = .map (values.map fun value => (.str value.1, value.2)) := by
  obtain ⟨fields, hok, h⟩ := bind_eq_ok_iff.mp h
  obtain ⟨found, hfound, h⟩ := bind_eq_ok_iff.mp h
  obtain ⟨values, hvalues, rfl⟩ := Option.map_eq_some_iff.mp (pure_eq_ok_iff.mp h)
  obtain ⟨rfl, -⟩ := Option.filter_eq_some_iff.mp hvalues
  exact ⟨fields, values, hok, fieldValues?_eq_some hfound, rfl⟩

/-- **What an input object makes of given fields** that are made into trees. -/
theorem tree_objectValue? {t : TypeDefinition} (hfields : fieldsOf.Plain) (ht : t.body.Lexical)
    (hgiven : ∀ c ∈ given, c.2.Plain) (h : objectValue? fieldsOf t given = .ok (some v)) :
    v.Tree Scalar.Plain := by
  obtain ⟨fields, values, hok, hall, rfl⟩ := objectValue?_eq_some h
  obtain ⟨hdistinct, hdefaults⟩ := hfields t ht fields hok
  refine .map (fun entry hentry => ?_) ?_ fun entry hentry => ?_
  · obtain ⟨value, -, rfl⟩ := List.mem_map.mp hentry
    exact ⟨value.1, rfl⟩
  · -- the keys are names of fields that have a value
    have hnames : values.map (Value.keyText ∘ fun value => (Scalar.str value.1, value.2)) =
        (fields.filter fun f => (lastNamed? f.name given).isSome || f.default.isSome).map
          (·.name) :=
      map_eq_map_of_forall₂ hall.flip fun value f hf => hf.1
    rw [List.map_map, hnames]
    exact (List.filter_sublist.map _).nodup hdistinct
  · obtain ⟨value, hvalue, rfl⟩ := List.mem_map.mp hentry
    obtain ⟨f, hf, -, ⟨c, hc, hmade⟩ | ⟨-, hdefault⟩⟩ := exists_of_forall₂_of_mem hall hvalue
    · exact hgiven _ (lastNamed?_mem hc) _ _ hmade
    · exact hdefaults f (List.mem_of_mem_filter hf) _ hdefault

/-! ### All types -/

theorem tree_enlist (h : v.Tree Scalar.Plain) (depth : Nat) :
    (enlist v depth).Tree Scalar.Plain := by
  induction depth with
  | zero => exact h
  | succ depth ih => exact .list (by simpa [enlist] using ih)

/-- **What a named type makes of a lexical literal.** -/
theorem tree_namedValue? {name : String} {given : Option (List (String × Coercer))}
    (hs : s.Lexical) (hfields : fieldsOf.Plain) (hl : l.Lexical)
    (hgiven : ∀ fields ∈ given, ∀ c ∈ fields, c.2.Plain)
    (h : namedValue? s fieldsOf name l given = .ok (some v)) : v.Tree Scalar.Plain := by
  obtain ⟨m, hm, h⟩ := bind_eq_ok_iff.mp h
  cases m with
  | standardScalar => exact tree_scalarValue? hl (pure_eq_ok_iff.mp h)
  | introspectionEnum family values =>
    obtain ⟨name, -, rfl⟩ := Option.map_eq_some_iff.mp (pure_eq_ok_iff.mp h)
    exact .scalar trivial
  | introspectionObject => simp at h
  | defined t =>
    dsimp only at h
    split at h
    · obtain rfl := Option.some.inj (pure_eq_ok_iff.mp h)
      exact hl.plain_value
    · obtain ⟨name, -, rfl⟩ := Option.map_eq_some_iff.mp (pure_eq_ok_iff.mp h)
      exact .scalar trivial
    · exact tree_objectValue? hfields (hs t (Scope.mem_types_of_meaning hm)) (hgiven _ rfl) h
    · simp [pure, Except.pure] at h
    · simp at h

theorem tree_singleValue? {given : Option (List (String × Coercer))} (hs : s.Lexical)
    (hfields : fieldsOf.Plain) (hl : l.Lexical)
    (hgiven : ∀ fields ∈ given, ∀ c ∈ fields, c.2.Plain) :
    (singleValue? s fieldsOf l given).Plain := by
  intro type v h
  obtain ⟨found, hfound, h⟩ := bind_eq_ok_iff.mp h
  obtain ⟨inner, rfl, rfl⟩ := Option.map_eq_some_iff.mp (pure_eq_ok_iff.mp h)
  exact tree_enlist (tree_namedValue? hs hfields hl hgiven hfound) _

/-- The items that a type makes of the items of a list are each made of one. -/
theorem coerceItems_eq_some {items : List Literal} {type : TypeRef} {vs : List Value}
    (h : coerceItems s fieldsOf items type = .ok (some vs)) :
    List.Forall₂ (fun item v => coerce s fieldsOf item type = .ok (some v)) items vs := by
  induction items generalizing vs with
  | nil =>
    rw [coerceItems] at h
    cases h
    exact .nil
  | cons item rest ih =>
    rw [coerceItems] at h
    obtain ⟨made, hmade, h⟩ := bind_eq_ok_iff.mp h
    cases made with
    | none => simp [pure, Except.pure] at h
    | some v =>
      obtain ⟨found, hfound, h⟩ := bind_eq_ok_iff.mp h
      obtain ⟨more, rfl, rfl⟩ := Option.map_eq_some_iff.mp (pure_eq_ok_iff.mp h)
      exact .cons hmade (ih hfound)

theorem coercers_eq_map (fields : List (String × Literal)) :
    coercers s fieldsOf fields = fields.map fun field => (field.1, coerce s fieldsOf field.2) := by
  induction fields with
  | nil => rw [coercers, List.map_nil]
  | cons field rest ih => rw [coercers, ih, List.map_cons]

/-- **What a type makes of a lexical literal** is a tree of plain scalars. -/
theorem tree_coerce (hs : s.Lexical) (hfields : fieldsOf.Plain) (hl : l.Lexical) :
    (coerce s fieldsOf l).Plain := by
  induction hl with
  | null =>
    intro type v h
    rw [coerce] at h
    have h := Except.ok.inj h
    split at h
    · simp at h
    · cases h
      exact .scalar trivial
  | @list items hitems ih =>
    intro type v h
    rw [coerce] at h
    dsimp only at h
    split at h
    · obtain ⟨found, hfound, h⟩ := bind_eq_ok_iff.mp h
      obtain ⟨vs, rfl, rfl⟩ := Option.map_eq_some_iff.mp (pure_eq_ok_iff.mp h)
      refine .list fun v hv => ?_
      obtain ⟨item, hitem, hmade⟩ := exists_of_forall₂_of_mem (coerceItems_eq_some hfound) hv
      exact ih item hitem _ _ hmade
    · exact tree_namedValue? hs hfields (.list hitems) (by simp) h
  | @object fields hfieldsLexical ih =>
    rw [coerce]
    refine tree_singleValue? hs hfields (.object hfieldsLexical) fun given hgiven c hc => ?_
    obtain rfl := Option.some.inj hgiven
    rw [coercers_eq_map] at hc
    obtain ⟨field, hfield, rfl⟩ := List.mem_map.mp hc
    exact ih field hfield
  | int h => rw [coerce]; exact tree_singleValue? hs hfields (.int h) (by simp)
  | variableName n => rw [coerce]; exact tree_singleValue? hs hfields (.variableName n) (by simp)
  | float text => rw [coerce]; exact tree_singleValue? hs hfields (.float text) (by simp)
  | string text => rw [coerce]; exact tree_singleValue? hs hfields (.string text) (by simp)
  | bool b => rw [coerce]; exact tree_singleValue? hs hfields (.bool b) (by simp)
  | enum name => rw [coerce]; exact tree_singleValue? hs hfields (.enum name) (by simp)

end OperationCatalog.GraphQL
