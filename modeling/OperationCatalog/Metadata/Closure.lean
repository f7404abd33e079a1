import OperationCatalog.Metadata.Table

/-!
# Everything a type refers to

Generated code declares a type together with all types it refers to, each once, and a type
after those it refers to wherever that is possible. `OperationCatalog.Metadata.Closure` is
what has been collected: the names that were visited, and the types that are declared.

**Visiting** a name registers it before it visits the types of its fields, so a cycle of
references ends where it comes back; it declares the type after its fields, so the
declarations are in post-order. Scalars are visited and not declared.

A visit fails at a name that is not in the table, and at a field that takes its type to be of
another kind than it is. What was registered and declared until then stays.
-/

namespace OperationCatalog.Metadata

/-- Why a type and what it refers to cannot be declared. -/
inductive ClosureFault where
  /-- A type is not in the table. -/
  | missing (name : String)
  /-- A field takes its type to be of a kind that it is not of. -/
  | kindMismatch (owner field : String) (claimed : TypeKind) (type : String) (actual : TypeKind)
  deriving DecidableEq, Repr

/-- The text of a missing type. -/
def missingTypeText (name : String) : String := "Type " ++ name ++ " not found in schema metadata"

/-- The text of a fault. -/
def ClosureFault.message : ClosureFault → String
  | missing name => missingTypeText name
  | kindMismatch owner field claimed type actual =>
    "Field " ++ owner ++ "." ++ field ++ " declares kind " ++ claimed.word ++ " but " ++ type ++
      " is of kind " ++ actual.word

/-- **What has been collected.** -/
structure Closure where
  /-- The names that were visited, in order. -/
  registered : List String := []
  /-- The types that are declared, in order. -/
  declared : List InputType := []

namespace Closure

/-- The closure of nothing. -/
def empty : Closure := {}

/-- Whether a name was visited. -/
def contains (c : Closure) (name : String) : Bool := c.registered.contains name

/-- A closure and, where its last step failed, why. -/
abbrev Visited := Closure × Option ClosureFault

/-- The type that a field needs declared: none for a scalar. A field's claim about its type is
checked. -/
def needed (table : Table) (owner : String) (field : Field) :
    Except ClosureFault (Option String) :=
  match table.claimedKind? field with
  | none => .error (.missing field.type)
  | some .scalar => .ok none
  | some claimed =>
    match table.find? field.type with
    | none => .error (.missing field.type)
    | some t =>
      if t.kind = claimed then .ok (some field.type)
      else .error (.kindMismatch owner field.name claimed field.type t.kind)

/-- Visit what the fields of a type need, one field after the other. A field whose type has no
name needs nothing. -/
def visitFields (table : Table) (visit : Closure → String → Visited) (owner : String) :
    List Field → Closure → Visited
  | [], c => (c, none)
  | field :: rest, c =>
    match needed table owner field with
    | .error fault => (c, some fault)
    | .ok none => visitFields table visit owner rest c
    | .ok (some name) =>
      if name = "" then visitFields table visit owner rest c
      else match visit c name with
        | (c, none) => visitFields table visit owner rest c
        | failed => failed

/-- Register a name. -/
def register (c : Closure) (name : String) : Closure :=
  { c with registered := c.registered ++ [name] }

/-- Declare a type, unless it is a scalar. -/
def declare (c : Closure) (t : InputType) : Closure :=
  if t.kind = .scalar then c else { c with declared := c.declared ++ [t] }

/-- **Visit a name** and everything it refers to. Each level of the recursion registers a name of
the table, so `depth` need not exceed the number of those that are not registered yet. -/
def visit (table : Table) : (depth : Nat) → Closure → String → Visited
  | 0, c, _ => (c, none)
  | depth + 1, c, name =>
    if c.contains name then (c, none)
    else match table.find? name with
      | none => (c, some (.missing name))
      | some t =>
        match visitFields table (visit table depth) name t.fields (c.register name) with
        | (c, none) => (c.declare t, none)
        | failed => failed

/-- The number of names of a table that were not visited. -/
def remaining (table : Table) (c : Closure) : Nat :=
  table.names.countP fun name => !c.contains name

/-- **Collect a type and everything it refers to.** -/
def resolve (table : Table) (c : Closure) (name : String) : Visited :=
  visit table (c.remaining table + 1) c name

/-- Collect several types, up to the first fault. -/
def resolveAll (table : Table) (c : Closure) : List String → Visited
  | [] => (c, none)
  | name :: names =>
    match c.resolve table name with
    | (c, none) => resolveAll table c names
    | failed => failed

end Closure

end OperationCatalog.Metadata
