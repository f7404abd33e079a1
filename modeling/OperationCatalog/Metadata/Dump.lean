import OperationCatalog.Json.Writer
import OperationCatalog.Metadata.Table

/-!
# Metadata as a document

A table is written as a document of the shape that metadata files have
(`OperationCatalog.Metadata.Shape.document` reads it back). Parts that are not there are left out.
Opaque values are written as they are; they must not share anything, and values read from a schema
do not.
-/

namespace OperationCatalog.Metadata.Dump

/-- An entry under a text key. -/
def entry (key : String) (value : Value) : Scalar × Value := (.str key, value)

/-- An entry that may be missing. -/
def optionalEntry {α : Type} (key : String) (value : α → Value) : Option α → List (Scalar × Value)
  | some a => [entry key (value a)]
  | none => []

/-- A truth value. -/
def bool (b : Bool) : Value := .scalar (.bool b)

/-- A rule. -/
def rule (r : Rule) : Value :=
  .map (entry "type" (.text r.type) ::
    optionalEntry "constraints" (fun cs => .list (cs.map ValueGraph.root)) r.constraints ++
    optionalEntry "each" bool r.each ++
    optionalEntry "context" ValueGraph.root r.context ++
    optionalEntry "options" ValueGraph.root r.options)

/-- What only list fields say. -/
def listEntries : FieldShape → List (Scalar × Value)
  | .one _ => []
  | .list itemKind allowsEmpty =>
    optionalEntry "itemKind" (fun kind => .text kind.word) itemKind ++
      [entry "allowsEmpty" (bool allowsEmpty)]

/-- A field. -/
def field (f : Field) : Value :=
  .map ([entry "name" (.text f.name), entry "required" (bool f.required)] ++
    optionalEntry "validation" (fun rules => .list (rules.map rule)) f.validation ++
    [entry "kind" (.text f.shape.word), entry "type" (.text f.type)] ++
    listEntries f.shape)

/-- What a type is made of. -/
def shapeEntries : TypeShape → List (Scalar × Value)
  | .scalar => []
  | .enum values => [entry "values" (.list (values.map .text))]
  | .object fields => [entry "fields" (.list (fields.map field))]

/-- A type. -/
def inputType (t : InputType) : Value :=
  .map (entry "type" (.text t.name) ::
    optionalEntry "description" .text t.description ++
    entry "kind" (.text t.kind.word) :: shapeEntries t.shape)

/-- **The document of a table.** -/
def document (table : Table) : Value :=
  .map [entry "types"
    (.map [entry "input" (.map (table.types.map fun t => entry t.name (inputType t)))])]

/-- **The text of a table**, with a line break at its end. -/
def text (table : Table) : Except Json.WriteFault String := do
  let chars ← Json.write .file (.ofTree (document table))
  return String.ofList (chars ++ ['\n'])

end OperationCatalog.Metadata.Dump
