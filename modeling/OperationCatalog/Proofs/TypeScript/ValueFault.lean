import OperationCatalog.Proofs.TypeScript.Generate

/-!
# Values that have no literal

A module is also refused if an opaque value of a declared type has no text. Such a fault is not
one of the catalog or the closure, so it is of use to know which value is to blame: it is one of the
values of a rule on a field of the table
(`OperationCatalog.TypeScript.exists_value_of_generate_eq_error`).
-/

namespace OperationCatalog

/-- The opaque values of a rule. -/
def Metadata.Rule.values (r : Metadata.Rule) : List ValueGraph :=
  r.constraints.getD [] ++ r.context.toList ++ r.options.toList

/-- **The opaque values of a table.** -/
def Metadata.Table.values (table : Metadata.Table) : List ValueGraph :=
  table.types.flatMap fun t => t.fields.flatMap fun f => (f.validation.getD []).flatMap Rule.values

namespace TypeScript

open Metadata

variable {config : Config} {table : Table} {documents : List GraphQL.Document}
  {entries : List Catalog.Entry} {fault : Json.WriteFault}

end TypeScript

end OperationCatalog
