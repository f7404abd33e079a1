import OperationCatalog.GraphQL.Files
import OperationCatalog.GraphQL.Schema.Build

/-!
# Schemas from text and files

A schema is read from one text. If it is spread over files, each file must be a document of its own,
and their texts one after the other must be one too.
-/

namespace OperationCatalog.GraphQL

/-- Why there is no schema. -/
inductive SchemaLoadFault where
  /-- A file is not read. -/
  | source (fault : SourceFault)
  /-- The whole text is not a document. -/
  | malformed (fault : SyntaxFault)
  /-- The document is not a schema. -/
  | schema (fault : SchemaFault)
  deriving DecidableEq, Repr

/-- **The schema that a text defines.** -/
def schemaOfText (trusted : Bool) (text : String) : Except SchemaLoadFault Schema := do
  let document ← (parse text.toList).mapError .malformed
  (buildSchema trusted document).mapError .schema

/-- The record of a schema that was built from files. -/
def builtText : String := "Successfully built the given GraphQL schema."

/-- **The schema that is spread over some paths.** -/
def loadSchema (w : Workspace) (paths : List Path) : Logged SchemaLoadFault Schema := do
  let text ← Logged.lift ((schemaText w paths).mapError .source)
  let schema ← Logged.lift (schemaOfText false text)
  Logged.record .info builtText
  return schema

end OperationCatalog.GraphQL
