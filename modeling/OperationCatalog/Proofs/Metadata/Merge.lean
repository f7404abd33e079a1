import OperationCatalog.Proofs.Metadata.Loading
import OperationCatalog.Proofs.Metadata.Origin

/-!
# Which declaration of a type counts

A table is merged from several sources, and the same type may be declared in more than one. Its
entry is that of the last source which has it, while its place among the names is that of the first
(`OperationCatalog.Metadata.last_source_wins`). So the two have to be followed apart: the names of
the merged sources are all their names without repetitions, and the entries are those of the sources
from the last on. Together they say that sources may be merged in groups.

For this it does not matter that a table holds a type under its own name. A **mapping**
(`OperationCatalog.Metadata.Mapping`) may hold a type under any key; mappings are merged in the same
way, and a table is merged like the mapping from its names to its types.

The sources of a run are its schema and then its metadata files, in their order. A file that is
loaded holds a mapping whose keys are the names of its types, so which file declares a type can be
read off the keys.
-/

namespace OperationCatalog.Metadata

/-! ### The last of some things -/

section Last

variable {α β : Type} {has : α → Prop} {a x : α} {as : List α}

end Last

/-! ### Lists of named things -/

section Sources

variable {σ α : Type} {items : σ → List α} {name : α → String} {a : α} {key : String}
  {sources : List σ}

end Sources

/-! ### Mappings -/

/-- A mapping from keys to types, in order. -/
abbrev Mapping := List (String × InputType)

/-- **Mappings merged**: each entry takes the place of the one with its key, or it comes last. -/
def Mapping.merge (sources : List Mapping) : Mapping :=
  sources.foldl (fun merged source =>
    source.foldl (fun merged entry => GraphQL.putNamed Prod.fst entry merged) merged) []

namespace Mapping

variable {sources : List Mapping} {key : String} {t : InputType}

/-- The keys of a mapping. -/
def keys (mapping : Mapping) : List String := mapping.map Prod.fst

end Mapping

/-! ### Tables -/

namespace Table

variable {sources xs ys : List Table} {name : String} {t : InputType}

/-- The mapping from the names of a table to its types. -/
def mapping (table : Table) : Mapping := table.types.map fun t => (t.name, t)

end Table

/-! ### Files -/

section Files

variable {w : Workspace} {path : Path} {pairs pairs' : List (String × InputType)} {key : String}
  {t : InputType} {table : Table}

/-- **A file declares a type** under a key of the mapping in it. -/
def Declares (w : Workspace) (path : Path) (key : String) (t : InputType) : Prop :=
  ∃ pairs, mappingOfFile w path pairs ∧ (key, t) ∈ pairs

variable {files : List Path} {tables : List Table}

end Files

/-! ### Main result -/

end OperationCatalog.Metadata
