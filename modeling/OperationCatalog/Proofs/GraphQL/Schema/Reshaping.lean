import OperationCatalog.Proofs.GraphQL.Schema.Coercion

/-!
# Literals that a type reshapes

A literal has a value without a type, namely what it looks like, and a type that it fits makes a
value of it, too. The two may differ, and `OperationCatalog.GraphQL.Reshapes` lists the ways in
which they do: a single value becomes a list, an integer becomes a number with a point or a text, a
name becomes a constant, and an object gets the fields that it has in its type, in their order.

These are all of them: `OperationCatalog.GraphQL.eq_value_iff_of_coerce` says that a type makes
another value of a literal exactly if it reshapes the literal somewhere.
-/

namespace OperationCatalog.Binary64

/-- The magnitudes up to the infinite one are those of numbers and infinities. -/
theorem ofMagnitude_ne_nan {negative : Bool} {magnitude : Nat}
    (h : magnitude ≤ infiniteMagnitude) : ofMagnitude negative magnitude ≠ nan := by
  have h63 : powerOfTwo 63 = 9223372036854775808 := by decide
  have h52 : powerOfTwo 52 = 4503599627370496 := by decide
  have h51 : powerOfTwo 51 = 2251799813685248 := by decide
  unfold infiniteMagnitude at h
  intro heq
  have hbits := congrArg (fun x : Binary64 => x.bits.toNat) heq
  simp only [ofMagnitude, nan, UInt64.toNat_ofNat', h63, h52, h51] at hbits
  cases negative <;> simp at hbits <;> omega

/-- **A decimal is a number** or too great for one. -/
theorem ofDecimal_ne_nan (negative : Bool) (digits : Nat) (exponent : Int) :
    ofDecimal negative digits exponent ≠ nan := by
  have hzero : zero negative ≠ nan := ofMagnitude_ne_nan (Nat.zero_le _)
  have hratio : ∀ num den, ofRatio negative num den ≠ nan := fun num den => by
    unfold ofRatio
    split
    · exact hzero
    · exact ofMagnitude_ne_nan (Nat.min_le_right _ _)
  unfold ofDecimal
  split
  · exact hzero
  split
  · exact ofMagnitude_ne_nan (le_refl _)
  split
  · exact hzero
  split
  · exact hratio _ _
  · exact hratio _ _

end OperationCatalog.Binary64

namespace OperationCatalog.GraphQL

variable {s : Scope} {fieldsOf : FieldsOf} {name : String} {type : TypeRef} {l : Literal}
  {v : Value}

/-! ### How literals are reshaped -/

/-- Whether a literal is neither null nor a list. -/
def Literal.isSingle : Literal → Bool
  | .null | .list _ => false
  | _ => true

/-- **A named type rereads a literal** that looks like something else. -/
inductive Scope.Rereads (s : Scope) (name : String) : Literal → Prop where
  /-- An integer is a number with a point, or a text. -/
  | int {text : String} : name = "Float" ∨ name = "ID" → s.Rereads name (.int text)
  /-- A name is that of a constant of introspection. -/
  | enum {value family : String} {values : List String} :
    s.meaning name = .ok (.introspectionEnum family values) → s.Rereads name (.enum value)

theorem Scope.not_rereads_list {items : List Literal} : ¬s.Rereads name (.list items) := by
  intro h
  cases h

theorem Scope.not_rereads_object {given : List (String × Literal)} :
    ¬s.Rereads name (.object given) := by
  intro h
  cases h

/-- The fields of the input object that a name stands for. -/
def Scope.HasInput (s : Scope) (fieldsOf : FieldsOf) (name : String)
    (declared : List InputField) : Prop :=
  ∃ t written, s.meaning name = .ok (.defined t) ∧ t.body = .input written ∧
    fieldsOf t = .ok declared

/-- The names of the fields that have a value: those that are given, and those that have a value
where none is given. -/
def valuedNames (declared : List InputField) (given : List (String × Literal)) : List String :=
  (declared.filter fun f => (given.map (·.1)).contains f.name || f.default.isSome).map (·.name)

/-- **A type reshapes a literal**, or a part of it. -/
inductive Reshapes (s : Scope) (fieldsOf : FieldsOf) : TypeRef → Literal → Prop where
  /-- A single value is made a list. -/
  | enlisted {type : TypeRef} {l : Literal} : l.isSingle = true → type.listDepth ≠ 0 →
    Reshapes s fieldsOf type l
  /-- The name in the type rereads the literal. -/
  | named {type : TypeRef} {l : Literal} : s.Rereads type.baseName l → Reshapes s fieldsOf type l
  /-- An item of a list is reshaped. -/
  | item {type item : TypeRef} {items : List Literal} {l : Literal} : type.nullable = .list item →
    l ∈ items → Reshapes s fieldsOf item l → Reshapes s fieldsOf type (.list items)
  /-- The fields that have a value are not those that are given, in this order. -/
  | names {type : TypeRef} {given : List (String × Literal)} {declared : List InputField} :
    s.HasInput fieldsOf type.baseName declared → valuedNames declared given ≠ given.map (·.1) →
    Reshapes s fieldsOf type (.object given)
  /-- A field of an object is reshaped. -/
  | field {type : TypeRef} {given : List (String × Literal)} {declared : List InputField}
    {f : InputField} {l : Literal} : s.HasInput fieldsOf type.baseName declared → f ∈ declared →
    (f.name, l) ∈ given → Reshapes s fieldsOf f.type l → Reshapes s fieldsOf type (.object given)

/-! ### Names -/

/-- The scalars that every schema has are not those of a document, nor of introspection. -/
theorem standard_of_number {m : Scope.Meaning} (hname : name = "Float" ∨ name = "ID")
    (hm : s.meaning name = .ok m) : m = .standardScalar := by
  obtain rfl | rfl := hname
  · exact (Except.ok.inj hm).symm
  · exact (Except.ok.inj hm).symm

/-- What a scalar makes of a literal is what it looks like, unless an integer is reread. -/
theorem scalarValue?_eq_value_iff (h : scalarValue? name l = some v) :
    v = l.value ↔ ¬∃ text, l = .int text ∧ (name = "Float" ∨ name = "ID") := by
  unfold scalarValue? at h
  split at h
  · rename_i text
    obtain ⟨i, hi, rfl⟩ := Option.map_eq_some_iff.mp h
    simp [Literal.value, (Option.filter_eq_some_iff.mp hi).1]
  · simp at h
  · -- no number with a point is an integer, nor the value of an integer with too many digits
    rename_i text
    obtain rfl := Option.some.inj h
    have hnan : floatOf text ≠ .nan := Binary64.ofDecimal_ne_nan _ _ _
    rw [Literal.value]
    split <;> simp [hnan]
  · simp_all [Literal.value]
  · simp at h
  · simp_all [Literal.value]
  · simp at h
  · simp_all [Literal.value]
  · simp at h
  · simp_all [Literal.value]
  · rename_i text
    obtain rfl := Option.some.inj h
    rw [Literal.value]
    split <;> simp [Value.text]
  · simp at h
  · simp_all

theorem enumName?_eq_some {values : List String} {chosen : String}
    (h : enumName? values l = some chosen) : l = .enum chosen := by
  unfold enumName? at h
  split at h
  · split at h
    · rw [Option.some.inj h]
    · simp at h
  · simp at h

/-- **What a named type makes of a literal** is what it looks like unless it rereads it, or else it
is the value of an input object. -/
theorem namedValue?_cases {given : Option (List (String × Coercer))}
    (h : namedValue? s fieldsOf name l given = .ok (some v)) :
    ((∀ declared, ¬s.HasInput fieldsOf name declared) ∧ (v = l.value ↔ ¬s.Rereads name l)) ∨
      ∃ t written fields, s.meaning name = .ok (.defined t) ∧ t.body = .input written ∧
        given = some fields ∧ objectValue? fieldsOf t fields = .ok (some v) := by
  obtain ⟨m, hm, h⟩ := bind_eq_ok_iff.mp h
  cases m with
  | standardScalar =>
    refine .inl ⟨fun _ ⟨t, _, ht, _⟩ => by simp [hm] at ht, ?_⟩
    rw [scalarValue?_eq_value_iff (pure_eq_ok_iff.mp h)]
    refine not_congr ⟨?_, fun hrereads => ?_⟩
    · rintro ⟨text, rfl, hname⟩
      exact .int hname
    · cases hrereads with
      | int hname => exact ⟨_, rfl, hname⟩
      | enum henum => simp [hm] at henum
  | introspectionEnum family values =>
    obtain ⟨chosen, hchosen, rfl⟩ := Option.map_eq_some_iff.mp (pure_eq_ok_iff.mp h)
    obtain rfl := enumName?_eq_some hchosen
    refine .inl ⟨fun _ ⟨t, _, ht, _⟩ => by simp [hm] at ht, ?_⟩
    exact iff_of_false (by simp [Literal.value, Value.text]) (not_not.mpr (.enum hm))
  | introspectionObject => simp at h
  | defined t =>
    have hrereads : ¬s.Rereads name l := by
      intro hrereads
      cases hrereads with
      | int hname => simpa using standard_of_number hname hm
      | enum henum => simp [hm] at henum
    have hinput (hbody : ∀ written, t.body ≠ .input written) :
        ∀ declared, ¬s.HasInput fieldsOf name declared := by
      rintro declared ⟨u, written, hu, hwritten, -⟩
      obtain rfl : t = u := by simpa [hm] using hu
      exact hbody written hwritten
    dsimp only at h
    split at h
    · rename_i hbody _
      refine .inl ⟨hinput fun _ => by simp [hbody], iff_of_true ?_ hrereads⟩
      exact (Option.some.inj (pure_eq_ok_iff.mp h)).symm
    · rename_i values hbody _
      obtain ⟨chosen, hchosen, rfl⟩ := Option.map_eq_some_iff.mp (pure_eq_ok_iff.mp h)
      obtain rfl := enumName?_eq_some hchosen
      exact .inl ⟨hinput fun _ => by simp [hbody], iff_of_true rfl hrereads⟩
    · rename_i written fields hbody _
      exact .inr ⟨t, written, fields, hm, hbody, rfl, h⟩
    · simp [pure, Except.pure] at h
    · simp at h

/-! ### Single values -/

theorem singleValue?_eq_some {given : Option (List (String × Coercer))}
    (h : singleValue? s fieldsOf l given type = .ok (some v)) :
    ∃ inner, namedValue? s fieldsOf type.baseName l given = .ok (some inner) ∧
      v = enlist inner type.listDepth := by
  obtain ⟨found, hfound, h⟩ := bind_eq_ok_iff.mp h
  obtain ⟨inner, rfl, rfl⟩ := Option.map_eq_some_iff.mp (pure_eq_ok_iff.mp h)
  exact ⟨inner, hfound, rfl⟩

/-- A single value does not look like a list. -/
theorem enlist_eq_value_iff (hl : l.isSingle = true) (depth : Nat) :
    enlist v depth = l.value ↔ depth = 0 ∧ v = l.value := by
  cases depth with
  | zero => simp [enlist]
  | succ depth =>
    have hlist : ∀ items, l.value ≠ .list items := fun items => by
      cases l with
      | null | list => simp [Literal.isSingle] at hl
      | int text =>
        rw [Literal.value]
        split <;> simp
      | _ => simp [Literal.value, Value.null, Value.text, Value.ofEntries]
    simpa [enlist] using (hlist _).symm

/-- A literal that is neither a list nor an object is reshaped as a whole. -/
theorem reshapes_single_iff (hl : l.isSingle = true) (hobject : ∀ given, l ≠ .object given) :
    Reshapes s fieldsOf type l ↔ type.listDepth ≠ 0 ∨ s.Rereads type.baseName l := by
  constructor
  · intro h
    cases h with
    | enlisted _ hdepth => exact .inl hdepth
    | named hrereads => exact .inr hrereads
    | item => simp [Literal.isSingle] at hl
    | names => exact absurd rfl (hobject _)
    | field => exact absurd rfl (hobject _)
  · rintro (hdepth | hrereads)
    · exact .enlisted hl hdepth
    · exact .named hrereads

theorem eq_value_iff_of_singleValue? (hl : l.isSingle = true) (hobject : ∀ given, l ≠ .object given)
    (h : singleValue? s fieldsOf l none type = .ok (some v)) :
    v = l.value ↔ ¬Reshapes s fieldsOf type l := by
  obtain ⟨inner, hinner, rfl⟩ := singleValue?_eq_some h
  obtain ⟨-, hvalue⟩ | ⟨t, written, fields, -, -, hnone, -⟩ := namedValue?_cases hinner
  · rw [enlist_eq_value_iff hl, hvalue, reshapes_single_iff hl hobject, not_or, ne_eq, not_not]
  · simp at hnone

/-! ### Lists -/

theorem reshapes_list_iff {items : List Literal} :
    Reshapes s fieldsOf type (.list items) ↔
      ∃ item, type.nullable = .list item ∧ ∃ l ∈ items, Reshapes s fieldsOf item l := by
  constructor
  · intro h
    cases h with
    | enlisted hl => simp [Literal.isSingle] at hl
    | named hrereads => exact absurd hrereads Scope.not_rereads_list
    | item htype hl hreshapes => exact ⟨_, htype, _, hl, hreshapes⟩
  · rintro ⟨item, htype, l, hl, hreshapes⟩
    exact .item htype hl hreshapes

/-- The items that a type makes are what they look like exactly if each of them is. -/
theorem eq_map_value_iff {items : List Literal} {vs : List Value}
    (h : List.Forall₂ (fun l v => v = l.value ↔ ¬Reshapes s fieldsOf type l) items vs) :
    vs = items.map Literal.value ↔ ¬∃ l ∈ items, Reshapes s fieldsOf type l := by
  induction h with
  | nil => simp
  | cons hhead _ ih =>
    rw [List.map_cons, List.cons.injEq, hhead, ih, List.exists_mem_cons_iff, not_or]

/-! ### Objects -/

theorem reshapes_object_iff {given : List (String × Literal)} :
    Reshapes s fieldsOf type (.object given) ↔ type.listDepth ≠ 0 ∨
      ∃ declared, s.HasInput fieldsOf type.baseName declared ∧
        (valuedNames declared given ≠ given.map (·.1) ∨
          ∃ f ∈ declared, ∃ l, (f.name, l) ∈ given ∧ Reshapes s fieldsOf f.type l) := by
  constructor
  · intro h
    cases h with
    | enlisted _ hdepth => exact .inl hdepth
    | named hrereads => exact absurd hrereads Scope.not_rereads_object
    | names hinput hnames => exact .inr ⟨_, hinput, .inl hnames⟩
    | field hinput hf hl hreshapes => exact .inr ⟨_, hinput, .inr ⟨_, hf, _, hl, hreshapes⟩⟩
  · rintro (hdepth | ⟨declared, hinput, hnames | ⟨f, hf, l, hl, hreshapes⟩⟩)
    · exact .enlisted rfl hdepth
    · exact .names hinput hnames
    · exact .field hinput hf hl hreshapes

/-- What is given for a field is what its type makes of the literal under its name. -/
theorem lastNamed?_coercers (given : List (String × Literal)) (name : String) :
    lastNamed? name (coercers s fieldsOf given) =
      (lastNamed? name given).map (coerce s fieldsOf) := by
  rw [coercers_eq_map, lastNamed?, lastNamed?, lookup_eq_map_find?, lookup_eq_map_find?,
    ← List.map_reverse, List.find?_map, Option.map_map, Option.map_map]
  rfl

theorem isSome_lastNamed?_iff {α : Type} {given : List (String × α)} :
    (lastNamed? name given).isSome = true ↔ name ∈ given.map (·.1) := by
  simp only [lastNamed?, List.lookup_isSome_iff, List.mem_reverse, List.mem_map, beq_iff_eq]
  exact exists_congr fun _ => and_congr_right fun _ => eq_comm

/-- The names of the values that an object has. -/
theorem map_of_forall₂_isValueOf {declared : List InputField} {given : List (String × Literal)}
    {values : List (String × Value)}
    (h : List.Forall₂ (IsValueOf (coercers s fieldsOf given)) (declared.filter fun f =>
      (lastNamed? f.name (coercers s fieldsOf given)).isSome || f.default.isSome) values) :
    values.map (·.1) = valuedNames declared given := by
  rw [map_eq_map_of_forall₂ h.flip fun value f hf => hf.1, valuedNames]
  congr 2
  funext f
  rw [lastNamed?_coercers, Option.isSome_map, Bool.eq_iff_iff, Bool.or_eq_true, Bool.or_eq_true,
    isSome_lastNamed?_iff, List.contains_iff_mem]

/-- **The values of an object are what the literal looks like** exactly if they have the same names
in the same order, and no field that is given is reshaped. -/
theorem eq_map_field_iff {declared : List InputField} {given : List (String × Literal)}
    {values : List (String × Value)} (hgiven : (given.map (·.1)).Nodup)
    (hvalue : ∀ field ∈ given, ∀ type v, coerce s fieldsOf field.2 type = .ok (some v) →
      (v = field.2.value ↔ ¬Reshapes s fieldsOf type field.2))
    (h : List.Forall₂ (IsValueOf (coercers s fieldsOf given)) (declared.filter fun f =>
      (lastNamed? f.name (coercers s fieldsOf given)).isSome || f.default.isSome) values) :
    values = given.map (fun field => (field.1, field.2.value)) ↔
      ¬(valuedNames declared given ≠ given.map (·.1) ∨
        ∃ f ∈ declared, ∃ l, (f.name, l) ∈ given ∧ Reshapes s fieldsOf f.type l) := by
  have hnames := map_of_forall₂_isValueOf h
  -- a field that is given has the value that its type makes of the literal
  have hmade : ∀ f value l, IsValueOf (coercers s fieldsOf given) f value → (f.name, l) ∈ given →
      coerce s fieldsOf l f.type = .ok (some value.2) := by
    rintro f value l ⟨-, ⟨c, hc, hof⟩ | ⟨hnone, -⟩⟩ hl
    all_goals rw [lastNamed?_coercers, (lastNamed?_eq_some_iff hgiven).mpr hl, Option.map_some] at *
    · obtain rfl := Option.some.inj hc
      exact hof
    · simp at hnone
  rw [not_or, ne_eq, not_not]
  constructor
  · intro heq
    refine ⟨hnames.symm.trans (by rw [heq, List.map_map]; rfl), ?_⟩
    rintro ⟨f, hf, l, hl, hreshapes⟩
    have hsome : (lastNamed? f.name (coercers s fieldsOf given)).isSome = true := by
      rw [lastNamed?_coercers, (lastNamed?_eq_some_iff hgiven).mpr hl]
      rfl
    obtain ⟨value, hmem, hof⟩ := exists_of_forall₂_of_mem h.flip
      (List.mem_filter.mpr ⟨hf, by rw [hsome, Bool.true_or]⟩)
    rw [heq] at hmem
    obtain ⟨⟨name, l'⟩, hl', rfl⟩ := List.mem_map.mp hmem
    obtain rfl : name = f.name := hof.1
    obtain rfl : l' = l := by
      have hsame := (lastNamed?_eq_some_iff hgiven).mpr hl'
      rw [(lastNamed?_eq_some_iff hgiven).mpr hl] at hsame
      exact (Option.some.inj hsame).symm
    exact (hvalue _ hl _ _ (hmade f _ _ hof hl)).mp rfl hreshapes
  · rintro ⟨hsame, hkept⟩
    refine @eq_of_mem_named _ Prod.fst _ _ ?_ ?_ fun value hmem => ?_
    · rw [hnames, hsame]
      exact hgiven
    · rw [hnames, hsame, List.map_map]
      rfl
    · obtain ⟨f, hf, hof⟩ := exists_of_forall₂_of_mem h hmem
      have hname : f.name ∈ given.map (·.1) := by
        rw [← hsame, ← hnames, ← hof.1]
        exact List.mem_map_of_mem hmem
      obtain ⟨⟨name, l⟩, hl, rfl⟩ := List.mem_map.mp hname
      have hvalue' := (hvalue _ hl _ _ (hmade f value l hof hl)).mpr fun hreshapes =>
        hkept ⟨f, List.mem_of_mem_filter hf, l, hl, hreshapes⟩
      refine List.mem_map.mpr ⟨_, hl, ?_⟩
      rw [← hvalue']
      exact Prod.ext hof.1.symm rfl

/-- A name stands for one input object. -/
theorem Scope.HasInput.unique {declared declared' : List InputField}
    (h : s.HasInput fieldsOf name declared) (h' : s.HasInput fieldsOf name declared') :
    declared = declared' := by
  obtain ⟨t, _, ht, -, hfields⟩ := h
  obtain ⟨t', _, ht', -, hfields'⟩ := h'
  obtain rfl : t = t' := by simpa [ht] using ht'
  exact Except.ok.inj (hfields.symm.trans hfields')

/-- An object literal with distinct fields looks like a mapping of these. -/
theorem value_object {given : List (String × Literal)} (h : (given.map (·.1)).Nodup) :
    (Literal.object given).value =
      .map ((given.map fun field => (field.1, field.2.value)).map fun value =>
        (.str value.1, value.2)) := by
  rw [Literal.value, fieldValues_eq_map, Value.ofEntries_of_nodup, List.map_map]
  · rfl
  · intro entry hentry
    obtain ⟨field, -, rfl⟩ := List.mem_map.mp hentry
    exact ⟨field.1, rfl⟩
  · rw [List.map_map]
    exact h

/-! ### All literals -/

/-- No field of an object in a literal is given twice. -/
def Literal.HasDistinctFields (l : Literal) : Prop := ∀ names ∈ l.fieldLists, names.Nodup

theorem fieldListsOf_eq_flatMap (items : List Literal) :
    Literal.fieldListsOf items = items.flatMap Literal.fieldLists := by
  induction items with
  | nil => rfl
  | cons item rest ih => rw [Literal.fieldListsOf, ih, List.flatMap_cons]

theorem fieldListsIn_eq_flatMap (fields : List (String × Literal)) :
    Literal.fieldListsIn fields = fields.flatMap fun field => field.2.fieldLists := by
  induction fields with
  | nil => rfl
  | cons field rest ih => rw [Literal.fieldListsIn, ih, List.flatMap_cons]

theorem Literal.HasDistinctFields.item {items : List Literal}
    (h : (Literal.list items).HasDistinctFields) (hl : l ∈ items) : l.HasDistinctFields := by
  intro names hnames
  refine h names ?_
  rw [Literal.fieldLists, fieldListsOf_eq_flatMap]
  exact List.mem_flatMap.mpr ⟨l, hl, hnames⟩

theorem Literal.HasDistinctFields.object {given : List (String × Literal)}
    (h : (Literal.object given).HasDistinctFields) :
    (given.map (·.1)).Nodup ∧ ∀ field ∈ given, field.2.HasDistinctFields := by
  unfold HasDistinctFields at h
  rw [Literal.fieldLists, fieldListsIn_eq_flatMap, List.forall_mem_cons] at h
  exact ⟨h.1, fun field hfield names hnames =>
    h.2 names (List.mem_flatMap.mpr ⟨field, hfield, hnames⟩)⟩

/-- **A type makes of a literal what it looks like** exactly if it reshapes no part of it. -/
theorem eq_value_iff_of_coerce (hl : l.Lexical) (hdistinct : l.HasDistinctFields)
    (h : coerce s fieldsOf l type = .ok (some v)) :
    v = l.value ↔ ¬Reshapes s fieldsOf type l := by
  induction hl generalizing type v with
  | null =>
    rw [coerce] at h
    have hreshapes : ¬Reshapes s fieldsOf type .null := by
      intro hreshapes
      cases hreshapes with
      | enlisted hsingle => simp [Literal.isSingle] at hsingle
      | named hrereads => cases hrereads
    have h := Except.ok.inj h
    split at h
    · simp at h
    · exact iff_of_true (Option.some.inj h).symm hreshapes
  | @list items _ ih =>
    rw [coerce] at h
    rw [reshapes_list_iff, Literal.value, itemValues_eq_map]
    dsimp only at h
    split at h
    · rename_i item htype
      obtain ⟨found, hfound, h⟩ := bind_eq_ok_iff.mp h
      obtain ⟨vs, rfl, rfl⟩ := Option.map_eq_some_iff.mp (pure_eq_ok_iff.mp h)
      have hitems := forall₂_imp_of_mem (coerceItems_eq_some hfound)
        fun l hl v hv => ih l hl (hdistinct.item hl) hv
      simp only [Value.list.injEq, eq_map_value_iff hitems, htype, TypeRef.list.injEq,
        exists_eq_left']
    · rename_i hnolist
      obtain ⟨-, hvalue⟩ | ⟨_, _, _, -, -, hnone, -⟩ := namedValue?_cases h
      · rw [Literal.value, itemValues_eq_map] at hvalue
        rw [hvalue]
        refine iff_of_true Scope.not_rereads_list ?_
        rintro ⟨item, htype, -⟩
        exact hnolist item htype
      · simp at hnone
  | @object given _ ih =>
    obtain ⟨hgiven, hfields⟩ := hdistinct.object
    rw [coerce] at h
    obtain ⟨inner, hinner, rfl⟩ := singleValue?_eq_some h
    rw [enlist_eq_value_iff rfl, reshapes_object_iff, not_or, ne_eq, not_not]
    refine and_congr_right fun _ => ?_
    obtain ⟨hno, hvalue⟩ | ⟨t, written, fields, ht, hbody, hsome, hobject⟩ :=
      namedValue?_cases hinner
    · rw [hvalue]
      refine iff_of_true Scope.not_rereads_object ?_
      rintro ⟨declared, hinput, -⟩
      exact hno declared hinput
    · obtain rfl := Option.some.inj hsome
      obtain ⟨declared, values, hdeclared, hvalues, rfl⟩ := objectValue?_eq_some hobject
      have hinput : s.HasInput fieldsOf type.baseName declared :=
        ⟨t, written, ht, hbody, hdeclared⟩
      have hinjective : Function.Injective fun value : String × Value =>
          (Scalar.str value.1, value.2) := fun a b hab => by
        obtain ⟨hname, hvalue⟩ := Prod.mk.inj hab
        exact Prod.ext (Scalar.str.inj hname) hvalue
      rw [value_object hgiven, Value.map.injEq, (List.map_injective_iff.mpr hinjective).eq_iff,
        eq_map_field_iff hgiven (fun field hfield _ _ => ih field hfield (hfields field hfield))
          hvalues]
      refine not_congr ⟨fun h => ⟨declared, hinput, h⟩, ?_⟩
      rintro ⟨declared', hinput', h⟩
      exact hinput.unique hinput' ▸ h
  | int => rw [coerce] at h; exact eq_value_iff_of_singleValue? rfl (by simp) h
  | variableName => rw [coerce] at h; exact eq_value_iff_of_singleValue? rfl (by simp) h
  | float => rw [coerce] at h; exact eq_value_iff_of_singleValue? rfl (by simp) h
  | string => rw [coerce] at h; exact eq_value_iff_of_singleValue? rfl (by simp) h
  | bool => rw [coerce] at h; exact eq_value_iff_of_singleValue? rfl (by simp) h
  | enum => rw [coerce] at h; exact eq_value_iff_of_singleValue? rfl (by simp) h

end OperationCatalog.GraphQL
