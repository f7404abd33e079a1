import OperationCatalog.Text.Base64
import OperationCatalog.Value.SetOrder
import OperationCatalog.Yaml.Node
import OperationCatalog.Yaml.Token.Lexer

/-!
# From nodes to values

A scalar node becomes a scalar by its tag, and a collection node one of the shared
collections of the value, under the number it has in the table. The collections are
filled one after the other, in the order in which they were first met; so a collection
may hold any other, and itself, and yet each is filled once.

A mapping may have entries whose key is a merge key. They are removed, and the entries of
the mappings they name are put in front (`OperationCatalog.Yaml.mergeInto`); this changes the
node itself, for whoever else refers to it.
-/

namespace OperationCatalog.Yaml

/-- The nodes of a document. -/
abbrev Nodes := Array Node

/-- The node with a number. -/
def nodeAt (nodes : Nodes) (index : Nat) : Node :=
  nodes.getD index ⟨.null, .scalar ""⟩

/-- The entries of a mapping node; other nodes have none. -/
def entriesAt (nodes : Nodes) (index : Nat) : List (Nat × Nat) :=
  match (nodeAt nodes index).content with
  | .mapping entries => entries
  | _ => []

/-- The nodes with other entries for a mapping. -/
def setEntries (nodes : Nodes) (index : Nat) (entries : List (Nat × Nat)) : Nodes :=
  nodes.modify index fun node => { node with content := .mapping entries }

/-! ### Merging -/

/-- Whether a node is a merge key. -/
def isMergeKey (nodes : Nodes) (entry : Nat × Nat) : Bool :=
  (nodeAt nodes entry.1).tag == .merge

/-- The default keys of a mapping become keys like any other. -/
def settleDefaults (nodes : Nodes) (index : Nat) : Nodes :=
  (entriesAt nodes index).foldl (fun nodes (key, _) =>
    nodes.modify key fun node => if node.tag == .default then { node with tag := .str } else node)
    nodes

/-- **Merge the mappings that a mapping names into it**, its own entries last; `found` are the
entries merged so far. No merge entry is met twice, so their number bounds the steps. -/
def mergeFrom : (bound : Nat) → (index : Nat) → (found : List (Nat × Nat)) → Nodes →
    Except Fault Nodes
  | 0, _, _, _ => .error .malformed
  | bound + 1, index, found, nodes =>
    let entries := entriesAt nodes index
    match entries.find? (isMergeKey nodes) with
    | none =>
      let nodes := settleDefaults nodes index
      .ok (if found.isEmpty then nodes else setEntries nodes index (found ++ entries))
    | some entry => do
      let nodes := setEntries nodes index (entries.eraseP (isMergeKey nodes))
      match (nodeAt nodes entry.2).content with
      | .mapping _ =>
        let nodes ← mergeFrom bound entry.2 [] nodes
        mergeFrom bound index (found ++ entriesAt nodes entry.2) nodes
      | .sequence items =>
        let (nodes, parts) ← items.foldlM (fun (nodes, parts) item =>
          match (nodeAt nodes item).content with
          | .mapping _ => do
            let nodes ← mergeFrom bound item [] nodes
            return (nodes, entriesAt nodes item :: parts)
          | _ => .error .malformed) (nodes, [])
        mergeFrom bound index (found ++ parts.flatten) nodes
      | .scalar _ => .error .malformed

/-- The number of merge entries of all mappings. -/
def mergeCount (nodes : Nodes) : Nat :=
  (List.range nodes.size).foldl (fun count index =>
    count + (entriesAt nodes index).countP (isMergeKey nodes)) 0

/-- Merge the mappings that a mapping names into it. -/
def mergeInto (nodes : Nodes) (index : Nat) : Except Fault Nodes :=
  mergeFrom (mergeCount nodes + 1) index [] nodes

/-! ### Scalars -/

/-- **The text of a node.** A mapping with a default key stands for the scalar under it. -/
def textAt (nodes : Nodes) : (bound : Nat) → (index : Nat) → Except Fault String
  | 0, _ => .error .endlessScalar
  | bound + 1, index =>
    match (nodeAt nodes index).content with
    | .scalar text => .ok text
    | .sequence _ => .error .malformed
    | .mapping entries =>
      match entries.find? fun (key, _) => (nodeAt nodes key).tag == .default with
      | some (_, value) => textAt nodes bound value
      | none => .error .malformed

/-- The truth value that a text means. -/
def readTruth (text : String) : Except Fault Scalar :=
  match truthWords.lookup (String.ofList (Number.lowered text.toList)) with
  | some b => .ok (.bool b)
  | none => .error .unknownTruthValue

/-- The bytes that a text means. -/
def readBinary (text : String) : Except Fault Scalar :=
  if text.toList.all (·.toNat < 128) then
    match Text.Base64.decode text.toList with
    | some bytes => .ok (.bytes bytes)
    | none => .error .malformed
  else .error .malformed

/-- **The scalar that a text means** under a tag. -/
def readScalar (tag : Tag) (text : String) : Except Fault Scalar :=
  match tag with
  | .null => .ok .null
  | .bool => readTruth text
  | .int => (Number.readInt text.toList).map .int
  | .float => (Number.readFloat text.toList).map .float
  | .binary => readBinary text
  | .timestamp => Number.readTimestamp text.toList
  | .str => .ok (.str text)
  | _ => .error .malformed

/-- Whether a tag is that of a collection. -/
def Tag.isCollection : Tag → Bool
  | .seq | .map | .set | .pairs => true
  | _ => false

/-! ### Collections -/

/-- The value while it is being built. -/
structure Builder where
  /-- The nodes, with merges done so far. -/
  nodes : Nodes
  /-- The collections met so far, last first. -/
  met : List Nat := []
  /-- The collections filled so far, by number. -/
  filled : Array Value

/-- A step of building. -/
abbrev Build := StateT Builder (Except Fault)

/-- The node with a number, as it is now. -/
def currentNode (index : Nat) : Build Node := do return nodeAt (← get).nodes index

/-- **The value of a node**: a scalar, or a reference to a collection that is filled later. -/
def valueOf (index : Nat) : Build Value := do
  let b ← get
  let node := nodeAt b.nodes index
  if node.tag.isCollection then
    if !b.met.contains index then set { b with met := index :: b.met }
    return .shared index
  else
    let text ← textAt b.nodes (b.nodes.size + 1) index
    match node.tag, node.content with
    | .timestamp, .mapping _ => throw .collectedTimestamp
    | tag, _ => return .scalar (← readScalar tag text)

/-- The key of a mapping, and the node that it is known by. -/
structure Key where
  /-- The value of the key. -/
  value : Scalar
  /-- The number of the key's node, if it has no other identity: a fraction that is no number and
  is not written by the notation's own name for that. -/
  node : Option Nat

/-- **Whether two keys are the same key.** What is no number equals nothing, so there only the
identity counts. -/
def Key.same (a b : Key) : Bool := a.value.sameKey b.value && a.node == b.node

/-- The key of a node, which must be a scalar. -/
def keyOf (index : Nat) : Build Key := do
  match ← valueOf index with
  | .scalar (.float x) => do
    let b ← get
    let text ← textAt b.nodes (b.nodes.size + 1) index
    let known := !x.isNaN || Number.isNamedNaN text.toList
    return ⟨.float x, if known then none else some index⟩
  | .scalar s => return ⟨s, none⟩
  | _ => throw .malformed

/-- The entries of a mapping after a value was put under a key. -/
def putKey (key : Key) (value : Value) : List (Key × Value) → List (Key × Value)
  | [] => [(key, value)]
  | (k, v) :: rest => if k.same key then (k, value) :: rest else (k, v) :: putKey key value rest

/-- The entries of a mapping node, merges done. -/
def entriesOf (index : Nat) : Build (List (Scalar × Value)) := do
  match (← currentNode index).content with
  | .mapping _ =>
    let nodes ← mergeInto (← get).nodes index
    modify fun b => { b with nodes }
    let entries ← (entriesAt nodes index).foldlM (fun acc (key, value) => do
      let k ← keyOf key
      let v ← valueOf value
      return putKey k v acc) []
    return entries.map fun (key, value) => (key.value, value)
  | _ => throw .malformed

/-- The pair that a mapping of one entry is. -/
def pairOf (index : Nat) : Build Value := do
  match (← currentNode index).content with
  | .mapping [(key, value)] =>
    let first ← valueOf key
    let second ← valueOf value
    return .pair first second
  | _ => throw .malformed

/-- **The collection of a node**, by its tag. -/
def fill (index : Nat) : Build Value := do
  let node ← currentNode index
  match node.tag with
  | .map => return .map (← entriesOf index)
  | .set =>
    let entries ← entriesOf index
    return .set (SetOrder.ofMembers (entries.map (·.1)))
  | tag =>
    match node.content with
    | .sequence items =>
      if tag == .pairs then return .list (← items.mapM pairOf)
      else return .list (← items.mapM valueOf)
    | _ => throw .malformed

/-- Fill the collections met, from the one with a place in their order on. -/
def fillFrom : (bound place : Nat) → Build Unit
  | 0, _ => return ()
  | bound + 1, place => do
    let met := (← get).met
    if place < met.length then
      let index := met.getD (met.length - 1 - place) 0
      let value ← fill index
      modify fun b => { b with filled := b.filled.setIfInBounds index value }
      fillFrom bound (place + 1)

/-- Build the value of a node with everything it refers to. -/
def buildFrom (root : Nat) : Build Value := do
  let value ← valueOf root
  fillFrom ((← get).nodes.size + 1) 0
  return value

/-- **The value of a document** from its nodes. -/
def valueGraph (root : Nat) (nodes : Nodes) : Except Fault ValueGraph := do
  let (value, b) ← (buildFrom root).run { nodes, filled := Array.replicate nodes.size .null }
  return ⟨b.filled, value⟩

/-- **The value of a YAML text.** A text without a document is no value. -/
def read (text : List Char) : Except Fault ValueGraph := do
  let (root, nodes) ← Node.ofTokens (Token.scan text)
  match root with
  | none => return .ofTree .null
  | some root => valueGraph root nodes

end OperationCatalog.Yaml
