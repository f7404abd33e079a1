import OperationCatalog.Proofs.Command.Effects

/-!
# What a product is made of

A task is done with the files as they are when the log file was opened. If it reads the log file,
that makes a difference; otherwise its product is made of the files as they were before the run
(`OperationCatalog.Command.makes_of_openedBy`). Nothing else has to be known of the log file: it may
stand in a directory that is listed, and a pattern may find it where it does not look.
-/

namespace OperationCatalog.Command

open Metadata (Table)

/-- **The files that a task looks at**: its configuration, and the files that the paths of its schema
and of its documents and the patterns of its metadata files stand for. Those of the schema and the
documents are listed twice. -/
inductive Reads (w : Workspace) (given : Given) : Task → Path → Prop
  /-- The configuration of a module. -/
  | configuration {text : String} :
      given.last? .config = some text → Reads w given .generate (.ofString text)
  /-- A file of the schema. -/
  | schema {task : Task} {path : Path} :
      path ∈ given.files w .schemas ∨ path ∈ GraphQL.filesOf w (given.files w .schemas) →
      Reads w given task path
  /-- A file of the documents. -/
  | document {path : Path} :
      path ∈ given.files w .documents ∨ path ∈ GraphQL.filesOf w (given.files w .documents) →
      Reads w given .generate path
  /-- A metadata file. -/
  | metadata {task : Task} {root : Option Path} {patterns : List String} {files : List Path}
      {path : Path} :
      Searches w given task root patterns →
      (Metadata.resolveFiles w root patterns).outcome = .ok files → path ∈ files →
      Reads w given task path

variable {w : Workspace} {new : List String} {content : ByteArray} {given : Given} {task : Task}
  {stamp : String} {arguments : List String} {product : Product}

section Put

variable (hw : w.Sound) (h : w.root.Takes new) (hnew : ∀ name ∈ new, Workspace.Leading name)

include hw h hnew

variable (haside : ∀ path, Reads (w.putFile new content) given task path →
  ¬(w.putFile new content).Reaches path new)

include haside

end Put

end OperationCatalog.Command
