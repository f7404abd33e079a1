import OperationCatalog.Decimal.Shortest
import OperationCatalog.Text.Quoted
import OperationCatalog.Value.Calendar

/-!
# Values of a document

What a document of data holds, whatever notation it was written in: scalars,
sequences, mappings that keep the order of their keys, and sets.

Some notations let a collection occur in several places, or inside itself. Such a
collection is not a tree, so a value comes with a store: `OperationCatalog.ValueGraph`
is a list of shared collections and a root, and `OperationCatalog.Value.shared`
refers to one of them. A value read from a notation without sharing has no such
reference and an empty store – it is a tree, and `OperationCatalog.ValueGraph.ofTree` embeds it.

The keys of a mapping are scalars. Two keys are the same key when they are equal as
numbers, be they truth values, integers or floating-point numbers
(`OperationCatalog.Scalar.sameKey`); putting a value under a key that is present
replaces the value and keeps the key in its place (`OperationCatalog.Value.put`).
-/

namespace OperationCatalog

/-- A value without parts. -/
inductive Scalar where
  /-- No value. -/
  | null
  /-- A truth value. -/
  | bool (value : Bool)
  /-- An integer of any size. -/
  | int (value : Int)
  /-- A floating-point number. -/
  | float (value : Binary64)
  /-- A text. -/
  | str (value : String)
  /-- A byte string. -/
  | bytes (value : List UInt8)
  /-- A date. -/
  | date (value : CalendarDate)
  /-- A date with a time of day. -/
  | instant (value : Instant)
  /-- A constant of a library, by its full name. -/
  | constant (name : String)
  deriving DecidableEq, Repr

/-- A value of a document. -/
inductive Value where
  /-- A scalar. -/
  | scalar (value : Scalar)
  /-- A sequence. -/
  | list (items : List Value)
  /-- A mapping, in the order in which its keys were first put. -/
  | map (entries : List (Scalar × Value))
  /-- A set of scalars, in the order of the set. -/
  | set (members : List Scalar)
  /-- Two values side by side: an entry of an ordered mapping with repeated keys. -/
  | pair (first second : Value)
  /-- One of the collections in the store. -/
  | shared (index : Nat)
  deriving Repr

/-- **A value together with the collections it shares.** -/
structure ValueGraph where
  /-- The shared collections. -/
  nodes : Array Value
  /-- The value. -/
  root : Value
  deriving Repr

/-! ### Keys -/

namespace Scalar

/-- The integer that a truth value or an integer counts as. -/
def asInt? : Scalar → Option Int
  | bool b => some (if b then 1 else 0)
  | int i => some i
  | _ => none

/-- **Whether two scalars are the same key.** Numbers are compared as numbers; a
floating-point value that is not a number is the same key as itself. -/
def sameKey (a b : Scalar) : Bool :=
  match a, b with
  | float x, float y => x.numericallyEqual y || (x.isNaN && y.isNaN)
  | float x, other | other, float x =>
    match other.asInt? with
    | some i => x.exactInt? == some i
    | none => false
  | instant t, instant u => t.same u
  | a, b =>
    match a.asInt?, b.asInt? with
    | some i, some j => i == j
    | none, none => a == b
    | _, _ => false

end Scalar

namespace Value

/-- No value. -/
def null : Value := scalar .null

/-- A text. -/
def text (s : String) : Value := scalar (.str s)

/-- The entries of a mapping after a value was put under a key: an equal key keeps its
place, a new key comes last. -/
def put (key : Scalar) (value : Value) : List (Scalar × Value) → List (Scalar × Value)
  | [] => [(key, value)]
  | (k, v) :: rest => if k.sameKey key then (k, value) :: rest else (k, v) :: put key value rest

/-- The mapping with these entries, put in order. -/
def ofEntries (entries : List (Scalar × Value)) : Value :=
  map (entries.foldl (fun acc (k, v) => put k v acc) [])

/-- The value under a text key. -/
def find? (key : String) (entries : List (Scalar × Value)) : Option Value :=
  (entries.find? fun (k, _) => k.sameKey (.str key)).map (·.2)

end Value

namespace ValueGraph

/-- A value that shares nothing. -/
def ofTree (value : Value) : ValueGraph := ⟨#[], value⟩

/-- Another value over the same store. -/
def withRoot (g : ValueGraph) (value : Value) : ValueGraph := ⟨g.nodes, value⟩

/-- A value with a reference to the store followed. A reference that leads nowhere is no
value. -/
def follow (g : ValueGraph) : Value → Value
  | .shared i => g.nodes.getD i .null
  | v => v

/-- The root with a reference to the store followed. -/
def top (g : ValueGraph) : Value := g.follow g.root

/-- Whether the root is no value. -/
def isNull (g : ValueGraph) : Bool :=
  match g.top with
  | .scalar .null => true
  | _ => false

end ValueGraph

/-! ### The text of a scalar -/

/-- Floating-point numbers have a point up to sixteen digits before it and four zeros after
it, and an exponent beyond. -/
def plainNumberLayout : Decimal.Layout := ⟨-4, 15, "nan", "inf"⟩

namespace Scalar

/-- The text of a scalar inside a set: texts and bytes are quoted. -/
def described : Scalar → List Char
  | null => "None".toList
  | bool b => (if b then "True" else "False").toList
  | int i => (toString i).toList
  | float x => plainNumberLayout.write x
  | str s => Text.quoted s.toList
  | bytes b => Text.quotedBytes b
  | date d => d.described.toList
  | instant t => t.described.toList
  | constant name => name.toList

/-- The word for a kind of scalar, as messages use it. -/
def kindName : Scalar → String
  | null => "NoneType"
  | bool _ => "bool"
  | int _ => "int"
  | float _ => "float"
  | str _ => "str"
  | bytes _ => "bytes"
  | date _ => "date"
  | instant _ => "datetime"
  | constant _ => "constant"

/-- **The text of a set**: its members between braces. -/
def setText (members : List Scalar) : List Char :=
  if members.isEmpty then "set()".toList
  else '\x7b' :: List.intercalate [',', ' '] (members.map described) ++ ['\x7d']

end Scalar

/-- The word for a kind of value, as messages use it. -/
def Value.kindName : Value → String
  | .scalar s => s.kindName
  | .list _ => "list"
  | .map _ => "dict"
  | .set _ => "set"
  | .pair _ _ => "tuple"
  | .shared _ => "list"

end OperationCatalog
