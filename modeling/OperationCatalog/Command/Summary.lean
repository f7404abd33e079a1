import OperationCatalog.Command.Notice
import OperationCatalog.Json.Writer
import OperationCatalog.Metadata.Table
import OperationCatalog.GraphQL.Name

/-!
# The summary of a table

How many types of each kind a table has, and which scalars that are not standard, is shown as JSON
between a title and a total. It is not wrapped.
-/

namespace OperationCatalog.Command

/-- A title in the middle of a rule. -/
def rule (title : String) : String :=
  let free := screenWidth - (title.length + 2)
  let line (n : Nat) := String.ofList (List.replicate n '─')
  line (free / 2) ++ " " ++ title ++ " " ++ line (free - free / 2)

/-- The names of the scalars of a table that are not standard, in ascending order. -/
def customScalars (table : Metadata.Table) : List String :=
  let names := (table.types.filter fun t =>
    t.kind == .scalar && !GraphQL.isStandardScalar t.name).map (·.name)
  names.mergeSort fun a b => decide (a ≤ b)

/-- The counts of a table. -/
def countsValue (table : Metadata.Table) : Value :=
  .map ([Metadata.TypeKind.scalar, .enum, .object].map (fun kind =>
      (Scalar.str kind.word, Value.scalar (.int (table.count kind)))) ++
    [(.str "custom_scalars", .list ((customScalars table).map .text))])

/-- **The summary of a table.** -/
def summary (table : Metadata.Table) : Except Json.WriteFault String := do
  let counts ← Json.write .screen (.ofTree (countsValue table))
  return Text.unlines
    [rule "Input Type Metadata Counts", String.ofList counts, "Total: " ++ toString table.size]

end OperationCatalog.Command
