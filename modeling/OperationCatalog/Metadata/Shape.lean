import OperationCatalog.Metadata.Table
import OperationCatalog.Validation

/-!
# The shape of a metadata document

A metadata document is a mapping with one part that matters, `types.input`, which maps
names to descriptions of types. A type says by its `kind` which of three shapes it has, and a
field which of four; what does not belong to the shape is ignored. Names must agree: a type
is declared under the name it states.

The issues of a document come in the order of the parts of its shapes, which is not the order
in which the document has them.
-/

namespace OperationCatalog.Metadata.Shape

open Validation

/-- **One of several shapes**, chosen by the `kind` that a mapping states. -/
def tagged {α : Type} (shapes : List (String × (Entries → Checked α))) (g : ValueGraph) :
    Checked α :=
  match g.top with
  | .map list =>
    let e : Entries := ⟨g, list⟩
    match e.get? "kind" with
    | none => Checked.wrong .noTag
    | some stated =>
      match stated.top with
      | .scalar (.str tag) =>
        match shapes.lookup tag with
        | some check => Checked.under (.name tag) (check e)
        | none => Checked.wrong .unknownTag
      | _ => Checked.wrong .unknownTag
  | _ => Checked.wrong .noParts

/-- Any value; no value counts as none. -/
def opaqueValue (g : ValueGraph) : Checked (Option ValueGraph) :=
  .ok (if g.isNull then none else some g)

/-- A rule on the values of a field. -/
def rule (g : ValueGraph) : Checked Rule :=
  (entries .notRecord g).bind fun e =>
    Checked.map5 Rule.mk
      (e.required "type" text)
      (e.optional "constraints" [] none (nullable (listOf .ok)))
      (e.optional "each" [] none (nullable bool))
      (e.optional "context" [] none opaqueValue)
      (e.optional "options" [] none opaqueValue)

/-- The parts of a field, whatever it holds; `shape` checks what it holds. -/
def fieldParts (shape : Checked FieldShape) (e : Entries) : Checked Field :=
  Checked.map5 (fun name required validation type shape =>
      { name, type, required, validation, shape })
    (e.required "name" text)
    (e.optional "required" [] false bool)
    (e.optional "validation" [] none (nullable (listOf rule)))
    (e.required "type" text)
    shape

/-- What a list field says about its items. -/
def listShape (e : Entries) : Checked FieldShape :=
  Checked.map2 FieldShape.list
    (e.optional "itemKind" ["item_kind"] none (nullable (oneOf TypeKind.words)))
    (e.optional "allowsEmpty" ["allows_empty"] true bool)

/-- A list field. -/
def listField (e : Entries) : Checked Field := fieldParts (listShape e) e

/-- **A field.** -/
def field : ValueGraph → Checked Field :=
  tagged
    [("scalar", fieldParts (.ok (.one .scalar))), ("enum", fieldParts (.ok (.one .enum))),
      ("object", fieldParts (.ok (.one .object))), ("list", listField)]

/-- A list field that need not state its kind, and must state no other. -/
def bareListField (g : ValueGraph) : Checked Field :=
  (entries .notRecord g).bind fun e =>
    Checked.map5 (fun name required validation (_ : Unit) (type, shape) =>
        { name, type, required, validation, shape })
      (e.required "name" text)
      (e.optional "required" [] false bool)
      (e.optional "validation" [] none (nullable (listOf rule)))
      (e.optional "kind" [] () (oneOf [("list", ())]))
      (Checked.map2 Prod.mk (e.required "type" text) (listShape e))

/-- The values of an enumeration, at least one. -/
def enumValues (g : ValueGraph) : Checked (List String) :=
  (listOf text g).bind fun values => if values.isEmpty then Checked.wrong .tooShort else .ok values

/-- The parts of a type, whatever it is made of. -/
def typeParts (shape : Entries → Checked TypeShape) (e : Entries) : Checked InputType :=
  Checked.map3 InputType.mk
    (e.required "type" text)
    (e.optional "description" [] none (nullable text))
    (shape e)

/-- **A type.** -/
def inputType : ValueGraph → Checked InputType :=
  tagged
    [("scalar", typeParts fun _ => .ok .scalar),
      ("enum", typeParts fun e => (e.required "values" enumValues).map .enum),
      ("object", typeParts fun e => (e.optional "fields" [] [] (listOf field)).map .object)]

/-- The first entry whose key is not the name of its type. -/
def misnamed? (declared : List (String × InputType)) : Option (String × InputType) :=
  declared.find? fun (key, t) => key != t.name

/-- Why a type under another name than its own is refused. -/
def misnamedReason (key name : String) : String :=
  "Input type stored under '" ++ key ++ "' declares the name '" ++ name ++ "'"

/-- The pairs after one was put in: an equal key keeps its place. -/
def putPair (key : String) (t : InputType) : List (String × InputType) → List (String × InputType)
  | [] => [(key, t)]
  | (k, u) :: rest => if k = key then (k, t) :: rest else (k, u) :: putPair key t rest

/-- **The declared types**: each is declared under its own name. -/
def declarations (g : ValueGraph) : Checked Table :=
  (entries .notRecord g).bind fun e =>
    (e.optional "input" [] [] (mappingOf inputType)).bind fun pairs =>
      let declared := pairs.foldl (fun acc (key, t) => putPair key t acc) []
      match misnamed? declared with
      | some (key, t) => Checked.wrong (.refused (misnamedReason key t.name))
      | none => .ok (.ofTypes (declared.map (·.2)))

/-- **A metadata document.** -/
def document (g : ValueGraph) : Checked Table :=
  (entries .notRecord g).bind fun e => e.optional "types" [] .empty declarations

/-- The document that declares the types of a mapping and nothing else. -/
def documentOf (types : Value) : Value :=
  .map [(.str "types", .map [(.str "input", types)])]

end OperationCatalog.Metadata.Shape
