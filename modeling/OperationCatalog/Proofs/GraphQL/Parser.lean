import OperationCatalog.GraphQL.Parser
import OperationCatalog.Proofs.GraphQL.Lexer

/-!
# What a parser yields

A parser only ever moves on along the lexemes it was given
(`OperationCatalog.GraphQL.Parser.Moves`), so what holds of every lexeme at the start holds of every
lexeme it sees. For the names and integers of a text this is
`OperationCatalog.GraphQL.Parse.Yields`: where the lexemes hold what they should, a step of parsing
moves on along them, and its result has a property. Steps that are only known to move on are
`OperationCatalog.GraphQL.Parse.Keeps`.

Both are closed under what parsers are built from, and then follow the grammar, with one lemma for
each part of it. At the end stands that a document that was parsed is lexical
(`OperationCatalog.GraphQL.Document.Parsed.lexical`): what it calls its operations and its types are
names, the types of its variables are expressions that refer to names, and the integers in what it
says of input are integers. And a text was parsed only if the parser met its end
(`OperationCatalog.GraphQL.exists_eof_of_parse`).
-/

namespace OperationCatalog.GraphQL

/-! ### Lexical parts of a document -/

/-- **A lexical literal**: the integers in it are integers. -/
inductive Literal.Lexical : Literal → Prop where
  /-- An integer. -/
  | int {text} : IsInteger text → Lexical (.int text)
  /-- A list of lexical literals. -/
  | list {items} : (∀ item ∈ items, item.Lexical) → Lexical (.list items)
  /-- An object whose fields have lexical values. -/
  | object {fields : List (String × Literal)} : (∀ field ∈ fields, field.2.Lexical) →
      Lexical (.object fields)
  /-- A variable. -/
  | variableName (name) : Lexical (.variableName name)
  /-- A number that is no integer. -/
  | float (text) : Lexical (.float text)
  /-- A string. -/
  | string (value) : Lexical (.string value)
  /-- A truth value. -/
  | bool (value) : Lexical (.bool value)
  /-- Null. -/
  | null : Lexical .null
  /-- A name. -/
  | enum (name) : Lexical (.enum name)

/-- The arguments of a directive are lexical. -/
def Directive.Lexical (use : Directive) : Prop := ∀ given ∈ use.arguments, given.2.Lexical

/-- **What is said of an argument or input field** is lexical. -/
structure InputValue.Lexical (v : InputValue) : Prop where
  /-- Its value where none is given is. -/
  default : ∀ l ∈ v.default, l.Lexical
  /-- The directives on it are. -/
  directives : ∀ use ∈ v.directives, use.Lexical

/-- **Whether this is a type expression**: null is not excluded twice in one place. -/
def TypeRef.isExpression : TypeRef → Bool
  | named _ => true
  | list item => item.isExpression
  | nonNull inner => !inner.isNonNull && inner.isExpression

/-- **A lexical type**: it is an expression, and what it refers to is a name. -/
structure TypeRef.Lexical (ref : TypeRef) : Prop where
  /-- It refers to a name. -/
  name : IsName ref.baseName
  /-- It is a type expression. -/
  expression : ref.isExpression = true

/-- What is said of input fields is lexical. -/
def TypeBody.Lexical : TypeBody → Prop
  | .input fields => ∀ v ∈ fields, v.Lexical
  | _ => True

/-- **A lexical operation**: it has a name or none, and its variables are of lexical types. -/
structure Operation.Lexical (o : Operation) : Prop where
  /-- If it is called something, then by a name. -/
  name : ∀ name ∈ o.name, IsName name
  /-- The types of its variables are lexical. -/
  types : ∀ v ∈ o.vars, v.type.Lexical

/-- **A lexical definition**: so are operations, types are called by names, and what is said of
input fields and of the arguments of directives is lexical. -/
def Definition.Lexical : Definition → Prop
  | .operation o => o.Lexical
  | .type t => IsName t.name ∧ t.body.Lexical
  | .typeExtension t => t.body.Lexical
  | .directive d => ∀ v ∈ d.arguments, v.Lexical
  | _ => True

/-- The lexemes in view and ahead are lexical. -/
structure Parser.Lexical (p : Parser) : Prop where
  /-- The lexeme in view is. -/
  current : p.current.token.Lexical
  /-- The others are. -/
  rest : ∀ lexeme ∈ p.rest, lexeme.token.Lexical

/-- **A parser moves on**: the lexemes in view and ahead are the last of those that were. -/
def Parser.Moves (p p' : Parser) : Prop := p'.current :: p'.rest <:+ p.current :: p.rest

theorem Parser.Moves.refl (p : Parser) : p.Moves p := List.suffix_refl _

theorem Parser.Moves.trans {p p' p'' : Parser} (h : p.Moves p') (h' : p'.Moves p'') :
    p.Moves p'' := List.IsSuffix.trans h' h

/-- A parser that moves on sees only what was there. -/
theorem Parser.Moves.lexical {p p' : Parser} (h : p.Moves p') (hp : p.Lexical) : p'.Lexical := by
  have hall : ∀ lexeme ∈ p.current :: p.rest, lexeme.token.Lexical :=
    List.forall_mem_cons.mpr ⟨hp.current, hp.rest⟩
  exact ⟨hall _ (h.mem List.mem_cons_self), fun lexeme hmem =>
    hall lexeme (h.mem (List.mem_cons_of_mem _ hmem))⟩

namespace Parse

variable {α β : Type} {P : α → Prop} {Q : β → Prop}

/-- **A step of parsing yields results with a property**, and moves on along lexical lexemes. -/
def Yields (x : Parse α) (P : α → Prop) : Prop :=
  ∀ p : Parser, p.Lexical → ∀ a p', x p = .ok (a, p') → P a ∧ p.Moves p'

/-- A step of parsing moves on along lexical lexemes. -/
def Keeps (x : Parse α) : Prop := Yields x fun _ => True

/-! ### What parsers are built from -/

theorem yields_pure {a : α} (h : P a) : Yields (pure a) P := by
  intro p hp b p' hb
  cases hb
  exact ⟨h, .refl p⟩

theorem keeps_pure (a : α) : Keeps (pure a) := yields_pure trivial

theorem Yields.bind {x : Parse α} {f : α → Parse β} (hx : Yields x P)
    (hf : ∀ a, P a → Yields (f a) Q) : Yields (x >>= f) Q := by
  intro p hp b p' hb
  obtain ⟨⟨a, between⟩, ha, hb⟩ := bind_eq_ok_iff.mp hb
  obtain ⟨hP, hbetween⟩ := hx p hp a between ha
  obtain ⟨hQ, hafter⟩ := hf a hP between (hbetween.lexical hp) b p' hb
  exact ⟨hQ, hbetween.trans hafter⟩

theorem Keeps.bind {x : Parse α} {f : α → Parse β} (hx : Keeps x) (hf : ∀ a, Yields (f a) Q) :
    Yields (x >>= f) Q :=
  Yields.bind hx fun a _ => hf a

theorem Yields.mono {P' : α → Prop} {x : Parse α} (hx : Yields x P) (h : ∀ a, P a → P' a) :
    Yields x P' := fun p hp a p' ha =>
  ⟨h a (hx p hp a p' ha).1, (hx p hp a p' ha).2⟩

theorem Yields.keeps {x : Parse α} (hx : Yields x P) : Keeps x := hx.mono fun _ _ => trivial

/-- What never succeeds yields anything. -/
theorem yields_wrong (lexeme : Lexeme) : Yields (wrong lexeme) P := by
  intro p _ a p' h
  cases h

theorem yields_ite {c : Prop} [Decidable c] {x y : Parse α} (hx : Yields x P) (hy : Yields y P) :
    Yields (if c then x else y) P := by
  split
  · exact hx
  · exact hy

/-- A choice between two steps, with the same to do after each. -/
theorem yields_either {c : Prop} [Decidable c] {x y : Parse α} {f : α → Parse β} (hx : Keeps x)
    (hy : Keeps y) (hf : ∀ a, Yields (f a) Q) :
    Yields (if c then x >>= f else y >>= f) Q :=
  yields_ite (hx.bind hf) (hy.bind hf)

/-! ### Single tokens -/

theorem yields_view : Yields view fun lexeme => lexeme.token.Lexical := by
  intro p hp a p' h
  cases h
  exact ⟨hp.current, .refl p⟩

theorem yields_token : Yields token Token.Lexical :=
  yields_view.bind fun _ h => yields_pure h

theorem yields_unexpected : Yields unexpected P :=
  yields_view.bind fun _ _ => yields_wrong _

theorem keeps_unexpected : Keeps (unexpected : Parse α) := yields_unexpected

theorem yields_ahead : Yields ahead fun lexeme => lexeme.token.Lexical := by
  intro p hp a p' h
  obtain ⟨current, rest, stop⟩ := p
  rcases rest with _ | ⟨next, rest⟩
  · rcases stop with _ | stop
    · cases h
      exact ⟨hp.current, .refl _⟩
    · cases h
  · cases h
    exact ⟨hp.rest _ List.mem_cons_self, .refl _⟩

theorem keeps_advance : Keeps advance := by
  intro p hp a p' h
  obtain ⟨current, rest, stop⟩ := p
  rcases rest with _ | ⟨next, rest⟩
  · -- at the end of the text it stays in view
    rcases stop with _ | stop
    · cases h
      exact ⟨trivial, .refl _⟩
    · cases h
  · cases h
    exact ⟨trivial, List.suffix_cons _ _⟩

theorem keeps_sees (t : Token) : Keeps (sees t) :=
  yields_token.keeps.bind fun _ => keeps_pure _

theorem keeps_skipIf (t : Token) : Keeps (skipIf t) :=
  (keeps_sees t).bind fun _ =>
    yields_ite (keeps_advance.bind fun _ => keeps_pure _) (keeps_pure _)

theorem keeps_expect (t : Token) : Keeps (expect t) :=
  (keeps_skipIf t).bind fun _ => yields_ite yields_unexpected (keeps_pure _)

theorem keeps_skipWord (word : String) : Keeps (skipWord word) := keeps_skipIf _

theorem keeps_expectWord (word : String) : Keeps (expectWord word) := keeps_expect _

/-- **What is read as a name is one.** -/
theorem yields_name : Yields name IsName := by
  refine yields_token.bind fun t ht => ?_
  split
  · exact keeps_advance.bind fun _ => yields_pure ht
  · exact yields_unexpected

theorem keeps_name : Keeps name := yields_name.keeps

theorem keeps_size : Keeps size := by
  intro p hp a p' h
  cases h
  exact ⟨trivial, .refl p⟩

/-! ### Repetition -/

section Repetition

variable {item : Parse α}

theorem yields_itemsUntil (close : Token) (h : Yields item P) (bound : Nat) :
    Yields (itemsUntil close item bound) fun items => ∀ a ∈ items, P a := by
  induction bound with
  | zero => exact yields_unexpected
  | succ bound ih =>
    refine (keeps_skipIf close).bind fun _ => yields_ite (yields_pure (by simp)) ?_
    exact h.bind fun _ ha => ih.bind fun _ hrest =>
      yields_pure (List.forall_mem_cons.mpr ⟨ha, hrest⟩)

theorem yields_anyBetween (opening close : Token) (h : Yields item P) :
    Yields (anyBetween opening close item) fun items => ∀ a ∈ items, P a :=
  (keeps_expect opening).bind fun _ => keeps_size.bind fun _ => yields_itemsUntil close h _

theorem yields_someBetween (opening close : Token) (h : Yields item P) :
    Yields (someBetween opening close item) fun items => ∀ a ∈ items, P a :=
  (keeps_expect opening).bind fun _ => h.bind fun _ ha => keeps_size.bind fun _ =>
    (yields_itemsUntil close h _).bind fun _ hrest =>
      yields_pure (List.forall_mem_cons.mpr ⟨ha, hrest⟩)

theorem yields_optionalBetween (opening close : Token) (h : Yields item P) :
    Yields (optionalBetween opening close item) fun items => ∀ a ∈ items, P a :=
  (keeps_sees opening).bind fun _ =>
    yields_ite (yields_someBetween opening close h) (yields_pure (by simp))

theorem keeps_moreSeparated (separator : Token) (h : Keeps item) (bound : Nat) :
    Keeps (moreSeparated separator item bound) := by
  induction bound with
  | zero => exact keeps_pure _
  | succ bound ih =>
    refine (keeps_skipIf separator).bind fun _ => yields_ite ?_ (keeps_pure _)
    exact h.bind fun _ => ih.bind fun _ => keeps_pure _

theorem keeps_separated (separator : Token) (h : Keeps item) : Keeps (separated separator item) :=
  (keeps_skipIf separator).bind fun _ => h.bind fun _ => keeps_size.bind fun _ =>
    (keeps_moreSeparated separator h _).bind fun _ => keeps_pure _

theorem yields_itemsWhile (start : Token) (h : Yields item P) (bound : Nat) :
    Yields (itemsWhile start item bound) fun items => ∀ a ∈ items, P a := by
  induction bound with
  | zero => exact yields_pure (by simp)
  | succ bound ih =>
    refine (keeps_sees start).bind fun _ => yields_ite ?_ (yields_pure (by simp))
    exact h.bind fun _ ha => ih.bind fun _ hrest =>
      yields_pure (List.forall_mem_cons.mpr ⟨ha, hrest⟩)

theorem keeps_someBetween (opening close : Token) (h : Keeps item) :
    Keeps (someBetween opening close item) := (yields_someBetween opening close h).keeps

theorem keeps_optionalBetween (opening close : Token) (h : Keeps item) :
    Keeps (optionalBetween opening close item) := (yields_optionalBetween opening close h).keeps

end Repetition

/-! ### Literals, directives and types -/

theorem yields_plainLiteral (constant : Bool) :
    Yields (plainLiteral constant) Literal.Lexical := by
  refine yields_token.bind fun t ht => ?_
  split
  -- a variable apart, a literal is one token, and that of an integer holds one
  all_goals first
    | exact keeps_advance.bind fun _ => yields_pure (.int ht)
    | exact keeps_advance.bind fun _ => yields_pure (by constructor)
    | exact yields_unexpected
    | skip
  refine yields_ite ?_ (keeps_advance.bind fun _ => keeps_name.bind fun name =>
    yields_pure (.variableName name))
  exact yields_view.keeps.bind fun _ => keeps_advance.bind fun _ => yields_wrong _

/-- A name and what is yielded after a colon. -/
theorem yields_labelled {x : Parse Literal} (h : Yields x Literal.Lexical) :
    Yields (do
      let label ← name
      expect .colon
      return (label, ← x) : Parse Argument) fun given => given.2.Lexical :=
  keeps_name.bind fun _ => (keeps_expect _).bind fun _ => h.bind fun _ hl => yields_pure hl

/-- **A literal** is lexical, by induction on the levels that are left. -/
theorem yields_literal (constant : Bool) (depth : Nat) :
    Yields (literal constant depth) Literal.Lexical := by
  induction depth with
  | zero => exact yields_plainLiteral constant
  | succ depth ih =>
    refine yields_token.keeps.bind fun t => ?_
    split
    · exact (yields_anyBetween _ _ ih).bind fun _ hitems => yields_pure (.list hitems)
    · exact (yields_anyBetween _ _ (yields_labelled ih)).bind fun _ hfields =>
        yields_pure (.object hfields)
    · exact yields_plainLiteral constant

theorem yields_arguments (constant : Bool) (depth : Nat) :
    Yields (arguments constant depth) fun given => ∀ a ∈ given, a.2.Lexical :=
  yields_optionalBetween _ _ (yields_labelled (yields_literal constant depth))

theorem yields_directive (constant : Bool) (depth : Nat) :
    Yields (directive constant depth) Directive.Lexical :=
  (keeps_expect _).bind fun _ => keeps_name.bind fun _ =>
    (yields_arguments constant depth).bind fun _ hgiven => yields_pure hgiven

theorem yields_directives (constant : Bool) (depth : Nat) :
    Yields (directives constant depth) fun uses => ∀ use ∈ uses, use.Lexical :=
  keeps_size.bind fun _ => yields_itemsWhile _ (yields_directive constant depth) _

theorem keeps_directives (constant : Bool) (depth : Nat) : Keeps (directives constant depth) :=
  (yields_directives constant depth).keeps

theorem yields_constantDirectives :
    Yields constantDirectives fun uses => ∀ use ∈ uses, use.Lexical := yields_directives _ _

theorem keeps_constantDirectives : Keeps constantDirectives := yields_constantDirectives.keeps

theorem yields_default? : Yields default? fun found => ∀ l ∈ found, l.Lexical :=
  (keeps_skipIf _).bind fun _ =>
    yields_ite ((yields_literal _ _).bind fun _ hl => yields_pure (by simpa using hl))
      (yields_pure (by simp))

/-- A type is lexical, if the type in its brackets is. -/
theorem yields_typeRefOf {item : Parse TypeRef} (h : Yields item TypeRef.Lexical) :
    Yields (typeRefOf item) TypeRef.Lexical := by
  -- null can be excluded once, from what does not exclude it yet
  have exclusion (inner : TypeRef) (hinner : inner.Lexical) (hnull : inner.isNonNull = false) :
      Yields (do
        if ← skipIf .bang then return .nonNull inner else return inner : Parse TypeRef)
        TypeRef.Lexical :=
    have hexpression : (TypeRef.nonNull inner).isExpression = true := by
      simp [TypeRef.isExpression, hnull, hinner.expression]
    (keeps_skipIf _).bind fun _ =>
      yields_ite (yields_pure ⟨hinner.name, hexpression⟩) (yields_pure hinner)
  refine (keeps_skipIf _).bind fun _ => yields_ite ?_ ?_
  · exact h.bind fun item hitem => (keeps_expect _).bind fun _ =>
      exclusion (.list item) ⟨hitem.name, hitem.expression⟩ rfl
  · exact yields_name.bind fun text htext => exclusion (.named text) ⟨htext, rfl⟩ rfl

theorem yields_typeRefWithin (depth : Nat) : Yields (typeRefWithin depth) TypeRef.Lexical := by
  induction depth with
  | zero => exact yields_typeRefOf yields_unexpected
  | succ depth ih => exact yields_typeRefOf ih

/-- **A type is lexical.** -/
theorem yields_typeRef : Yields typeRef TypeRef.Lexical := yields_typeRefWithin _

theorem keeps_typeRef : Keeps typeRef := yields_typeRef.keeps

theorem keeps_description : Keeps description := by
  refine yields_token.keeps.bind fun t => ?_
  split
  · exact keeps_advance.bind fun _ => keeps_pure _
  · exact keeps_pure _

/-! ### Operations and fragments -/

theorem keeps_fragmentName : Keeps fragmentName := by
  refine yields_token.keeps.bind fun t => ?_
  split
  all_goals first
    | exact yields_unexpected
    | exact keeps_name

theorem keeps_selection {inner : Parse (List Selection)} (h : Keeps inner) (depth : Nat) :
    Keeps (selection inner depth) := by
  have ds := keeps_directives false depth
  have field (label : Option String) (name : String) : Keeps (do
      let args ← arguments false depth
      let ds ← directives false depth
      let selected ← if ← sees .braceOpen then inner else pure []
      return .field label name args ds selected : Parse Selection) :=
    (yields_arguments false depth).keeps.bind fun _ => ds.bind fun _ => (keeps_sees _).bind fun _ =>
      yields_ite (h.bind fun _ => keeps_pure _) (keeps_pure _)
  refine (keeps_skipIf _).bind fun _ => yields_ite ?_ ?_
  · refine (keeps_skipWord _).bind fun _ => yields_ite ?_ ?_
    · exact keeps_name.bind fun _ => ds.bind fun _ => h.bind fun _ => keeps_pure _
    · refine yields_token.keeps.bind fun _ => yields_ite ?_ ?_
      · exact keeps_fragmentName.bind fun _ => ds.bind fun _ => keeps_pure _
      · exact ds.bind fun _ => h.bind fun _ => keeps_pure _
  · refine keeps_name.bind fun _ => (keeps_skipIf _).bind fun _ => yields_ite ?_ ?_
    · exact keeps_name.bind fun _ => field _ _
    · exact field _ _

theorem keeps_selectionsWithin (depth : Nat) : Keeps (selectionsWithin depth) := by
  induction depth with
  | zero => exact yields_unexpected
  | succ depth ih => exact keeps_someBetween _ _ (keeps_selection ih depth)

theorem keeps_selections : Keeps selections := keeps_selectionsWithin _

/-- **A variable** is of a lexical type. -/
theorem yields_variableDefinition : Yields variableDefinition fun v => v.type.Lexical :=
  keeps_description.bind fun _ => (keeps_expect _).bind fun _ => keeps_name.bind fun _ =>
    (keeps_expect _).bind fun _ => yields_typeRef.bind fun _ htype =>
      yields_default?.keeps.bind fun _ => keeps_constantDirectives.bind fun _ => yields_pure htype

theorem keeps_operationKind : Keeps operationKind := by
  refine yields_view.keeps.bind fun _ => keeps_name.bind fun _ => ?_
  split
  · exact keeps_pure _
  · exact yields_wrong _

/-- **The name of an operation**, if it has one, is a name, and its variables are of lexical
types. -/
theorem yields_operation : Yields operation Operation.Lexical := by
  have rest (kind : OperationKind) (label : Option String) (hlabel : ∀ name ∈ label, IsName name) :
      Yields (do
        let vars ← optionalBetween .parenOpen .parenClose variableDefinition
        let ds ← directives false maxNesting
        return ⟨kind, label, vars, ds, ← selections⟩ : Parse Operation) Operation.Lexical :=
    (yields_optionalBetween _ _ yields_variableDefinition).bind fun _ hvars =>
      (keeps_directives _ _).bind fun _ => keeps_selections.bind fun _ =>
        yields_pure ⟨hlabel, hvars⟩
  refine (keeps_sees _).bind fun _ => yields_ite ?_ ?_
  · exact keeps_selections.bind fun _ => yields_pure ⟨by simp, by simp⟩
  · refine keeps_description.bind fun _ => keeps_operationKind.bind fun kind => ?_
    refine yields_token.keeps.bind fun _ => yields_ite ?_ ?_
    · exact yields_name.bind fun label hlabel => rest kind (some label) (by simpa using hlabel)
    · exact rest kind none (by simp)

theorem keeps_fragment : Keeps fragment :=
  keeps_description.bind fun _ => (keeps_expectWord _).bind fun _ =>
    keeps_fragmentName.bind fun _ => (keeps_expectWord _).bind fun _ => keeps_name.bind fun _ =>
      (keeps_directives _ _).bind fun _ => keeps_selections.bind fun _ => keeps_pure _

/-! ### Definitions of a schema -/

theorem yields_inputValue : Yields inputValue InputValue.Lexical :=
  keeps_description.bind fun _ => keeps_name.bind fun _ => (keeps_expect _).bind fun _ =>
    keeps_typeRef.bind fun _ => yields_default?.bind fun _ hdefault =>
      yields_constantDirectives.bind fun _ huses => yields_pure ⟨hdefault, huses⟩

theorem yields_parameters : Yields parameters fun vs => ∀ v ∈ vs, v.Lexical :=
  yields_optionalBetween _ _ yields_inputValue

theorem keeps_outputField : Keeps outputField :=
  keeps_description.bind fun _ => keeps_name.bind fun _ => yields_parameters.keeps.bind fun _ =>
    (keeps_expect _).bind fun _ => keeps_typeRef.bind fun _ =>
      keeps_constantDirectives.bind fun _ => keeps_pure _

theorem keeps_enumValue : Keeps enumValue := by
  refine keeps_description.bind fun _ => yields_token.keeps.bind fun t => ?_
  split
  all_goals first
    | exact yields_unexpected
    | exact keeps_name.bind fun _ => keeps_constantDirectives.bind fun _ => keeps_pure _

theorem keeps_interfaces : Keeps interfaces :=
  (keeps_skipWord _).bind fun _ => yields_ite (keeps_separated _ keeps_name) (keeps_pure _)

theorem keeps_entryPoint : Keeps entryPoint :=
  keeps_operationKind.bind fun _ => (keeps_expect _).bind fun _ => keeps_name.bind fun _ =>
    keeps_pure _

/-- **The parts of a type**: what is said of its input fields is lexical. -/
theorem yields_typeParts (word : TypeWord) :
    Yields (typeParts word) fun parts => parts.2.Lexical := by
  have fields : Keeps (optionalBetween .braceOpen .braceClose outputField) :=
    keeps_optionalBetween _ _ keeps_outputField
  have ds := keeps_constantDirectives
  cases word with
  | scalar => exact ds.bind fun _ => yields_pure trivial
  | object =>
    exact keeps_interfaces.bind fun _ => ds.bind fun _ => fields.bind fun _ => yields_pure trivial
  | interface =>
    exact keeps_interfaces.bind fun _ => ds.bind fun _ => fields.bind fun _ => yields_pure trivial
  | union =>
    refine ds.bind fun _ => (keeps_skipIf _).bind fun _ => yields_ite ?_ (yields_pure trivial)
    exact (keeps_separated _ keeps_name).bind fun _ => yields_pure trivial
  | enum =>
    exact ds.bind fun _ => (keeps_optionalBetween _ _ keeps_enumValue).bind fun _ =>
      yields_pure trivial
  | input =>
    exact ds.bind fun _ => (yields_optionalBetween _ _ yields_inputValue).bind fun _ hfields =>
      yields_pure hfields

theorem keeps_location : Keeps location :=
  yields_view.keeps.bind fun _ => keeps_name.bind fun _ =>
    yields_ite (keeps_pure _) (yields_wrong _)

theorem yields_directiveDefinition (text : Option String) :
    Yields (directiveDefinition text) fun d => ∀ v ∈ d.arguments, v.Lexical :=
  (keeps_expectWord _).bind fun _ => (keeps_expect _).bind fun _ => keeps_name.bind fun _ =>
    yields_parameters.bind fun _ hparameters => (keeps_skipWord _).bind fun _ =>
      (keeps_expectWord _).bind fun _ => (keeps_separated _ keeps_location).bind fun _ =>
        yields_pure hparameters

theorem keeps_schemaDefinition (text : Option String) : Keeps (schemaDefinition text) :=
  (keeps_expectWord _).bind fun _ => keeps_constantDirectives.bind fun _ =>
    (keeps_someBetween _ _ keeps_entryPoint).bind fun _ => keeps_pure _

theorem yields_typeDefinition (text : Option String) (word : TypeWord) :
    Yields (typeDefinition text word) fun t => IsName t.name ∧ t.body.Lexical :=
  keeps_advance.bind fun _ => yields_name.bind fun _ hname =>
    (yields_typeParts word).bind fun _ hparts => yields_pure ⟨hname, hparts⟩

/-! ### Definitions -/

theorem yields_extension : Yields extension Definition.Lexical := by
  refine yields_ahead.keeps.bind fun next => ?_
  split
  · refine keeps_advance.bind fun _ => keeps_advance.bind fun _ =>
      keeps_constantDirectives.bind fun _ =>
        (keeps_optionalBetween _ _ keeps_entryPoint).bind fun _ => ?_
    exact yields_ite (keeps_unexpected.bind fun _ => yields_pure trivial) (yields_pure trivial)
  · split
    · refine keeps_advance.bind fun _ => (yields_typeDefinition _ _).bind fun _ ht => ?_
      exact yields_ite (keeps_unexpected.bind fun _ => yields_pure ht.2) (yields_pure ht.2)
    · exact yields_wrong _
  · exact yields_wrong _

theorem yields_wordDefinition (word : String) :
    Yields (wordDefinition word) Definition.Lexical := by
  refine yields_ite ?_ (yields_ite ?_ (yields_ite ?_ (yields_ite ?_ ?_)))
  · exact keeps_description.bind fun _ => (keeps_schemaDefinition _).bind fun _ =>
      yields_pure trivial
  · exact keeps_description.bind fun _ => (yields_directiveDefinition _).bind fun _ hd =>
      yields_pure hd
  · exact keeps_fragment.bind fun _ => yields_pure trivial
  · exact yields_operation.bind fun _ ho => yields_pure ho
  · split
    · exact keeps_description.bind fun _ => (yields_typeDefinition _ _).bind fun _ ht =>
        yields_pure ht
    · exact yields_unexpected

theorem yields_definition : Yields definition Definition.Lexical := by
  unfold definition
  refine (keeps_sees _).bind fun _ => yields_ite ?_ ?_
  · exact yields_operation.bind fun _ ho => yields_pure ho
  · refine yields_token.keeps.bind fun t => ?_
    -- the keyword is in view or, after a description, the next lexeme
    refine yields_either yields_ahead.keeps yields_view.keeps fun keyword => ?_
    dsimp only
    split
    · exact yields_ite yields_extension (yields_wordDefinition _)
    · exact yields_unexpected
    · exact yields_wrong _

/-- **The definitions of a document** are lexical. -/
theorem yields_document : Yields document fun ds => ∀ d ∈ ds, d.Lexical :=
  yields_definition.bind fun _ hd => keeps_size.bind fun _ =>
    (yields_itemsUntil _ yields_definition _).bind fun _ hrest =>
      yields_pure (List.forall_mem_cons.mpr ⟨hd, hrest⟩)

/-! ### Up to the end of the text -/

section End

variable {item : Parse α} {close t : Token} {p p' : Parser}

/-- A step after another one. -/
theorem exists_of_bind {x : Parse α} {f : α → Parse β} {b : β} (h : (x >>= f) p = .ok (b, p')) :
    ∃ a between, x p = .ok (a, between) ∧ f a between = .ok (b, p') := by
  obtain ⟨⟨a, between⟩, ha, hb⟩ := bind_eq_ok_iff.mp h
  exact ⟨a, between, ha, hb⟩

/-- A token that was gone past was in view. -/
theorem token_of_skipIf (h : skipIf t p = .ok (true, p')) : p.current.token = t := by
  obtain ⟨seen, between, hseen, h⟩ := exists_of_bind h
  cases hseen
  by_contra hne
  have hnot : (p.current.token == t) = false := by simpa using hne
  simp only [hnot] at h
  cases h

/-- **Items end where the closing token is in view.** -/
theorem exists_close_of_itemsUntil (hitem : Keeps item) {bound : Nat} {items : List α}
    (hp : p.Lexical) (h : itemsUntil close item bound p = .ok (items, p')) :
    ∃ last : Parser, p.Moves last ∧ last.current.token = close := by
  induction bound generalizing p items p' with
  | zero => cases h
  | succ bound ih =>
    obtain ⟨closed, first, hclosed, h⟩ := exists_of_bind h
    cases closed with
    | true => exact ⟨p, .refl p, token_of_skipIf hclosed⟩
    | false =>
      have hfirst := (keeps_skipIf close p hp _ _ hclosed).2
      obtain ⟨a, second, ha, h⟩ := exists_of_bind h
      have hsecond := hfirst.trans (hitem first (hfirst.lexical hp) a second ha).2
      obtain ⟨rest, third, hrest, -⟩ := exists_of_bind h
      obtain ⟨last, hlast, hclose⟩ := ih (hsecond.lexical hp) hrest
      exact ⟨last, hsecond.trans hlast, hclose⟩

/-- A document ends where the end of the text is in view. -/
theorem exists_eof_of_document {d : Document} (hp : p.Lexical)
    (h : document p = .ok (d, p')) : ∃ last : Parser, p.Moves last ∧ last.current.token = .eof := by
  obtain ⟨first, second, hfirst, h⟩ := exists_of_bind h
  have hsecond := (yields_definition p hp first second hfirst).2
  obtain ⟨count, third, hcount, h⟩ := exists_of_bind h
  have hthird := hsecond.trans (keeps_size second (hsecond.lexical hp) count third hcount).2
  obtain ⟨rest, fourth, hrest, -⟩ := exists_of_bind h
  obtain ⟨last, hlast, heof⟩ :=
    exists_close_of_itemsUntil yields_definition.keeps (hthird.lexical hp) hrest
  exact ⟨last, hthird.trans hlast, heof⟩

end End

end Parse

/-- **A text is parsed** from its first lexeme on. -/
theorem exists_document_of_parse {text : List Char} {d : Document} (h : parse text = .ok d) :
    ∃ first rest p', (lex text).lexemes = first :: rest ∧
      Parser.Lexical ⟨first, rest, (lex text).stop⟩ ∧
      Parse.document ⟨first, rest, (lex text).stop⟩ = .ok (d, p') := by
  unfold parse at h
  dsimp only at h
  split at h
  · rename_i first rest hlexemes
    obtain ⟨⟨d', p'⟩, hd, h⟩ := map_eq_ok_iff.mp (mapError_eq_ok_iff.mp h)
    cases h
    -- all lexemes of the text are lexical, so parsing starts where they are
    have lexical := lexical_of_lex text
    rw [hlexemes] at lexical
    exact ⟨first, rest, p', hlexemes, ⟨lexical first List.mem_cons_self, fun lexeme h =>
      lexical lexeme (List.mem_cons_of_mem _ h)⟩, hd⟩
  · simp at h
  · rename_i hlexemes hstop
    exact absurd hstop (stop_ne_none_of_lexemes hlexemes)

/-- **A text that was parsed** was lexed up to its end. -/
theorem exists_eof_of_parse {text : List Char} {d : Document} (h : parse text = .ok d) :
    .eof ∈ (lex text).lexemes.map (·.token) := by
  obtain ⟨first, rest, p', hlexemes, hp, hd⟩ := exists_document_of_parse h
  obtain ⟨last, hlast, heof⟩ := Parse.exists_eof_of_document hp hd
  rw [hlexemes, ← heof]
  exact List.mem_map_of_mem (hlast.mem List.mem_cons_self)

/-- A document that some text is parsed as. -/
def Document.Parsed (d : Document) : Prop := ∃ text, parse text = .ok d

theorem Document.parsed_of_isSome {text : List Char} (h : (parse text).toOption.isSome = true) :
    Document.Parsed ((parse text).toOption.getD []) := by
  refine ⟨text, ?_⟩
  cases hparse : parse text with
  | ok d => rfl
  | error fault => simp [hparse, Except.toOption] at h

/-- **The definitions of a document** that was parsed are lexical. -/
theorem Document.Parsed.lexical {d : Document} (h : d.Parsed) :
    ∀ definition ∈ d, definition.Lexical := by
  obtain ⟨text, h⟩ := h
  obtain ⟨first, rest, p', -, hp, hd⟩ := exists_document_of_parse h
  exact (Parse.yields_document _ hp _ _ hd).1

end OperationCatalog.GraphQL
