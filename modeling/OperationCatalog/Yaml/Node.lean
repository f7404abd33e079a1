import OperationCatalog.Yaml.Tag
import OperationCatalog.Yaml.Token

/-!
# From tokens to nodes

The nodes of a document are a table, and a collection lists its parts by their
numbers in it. So an alias is nothing but the number of the node it names: a node may be
a part of several others, and since a name is known as soon as its node starts, of
itself too.

The grammar is read top down, one function for each kind of collection. Reading recurses
on a bound that every step lowers; as each two steps take a token, a multiple of the
number of tokens is bound enough.
-/

namespace OperationCatalog.Yaml

/-- What a node is made of. -/
inductive Content where
  /-- A text. -/
  | scalar (text : String)
  /-- The numbers of its items. -/
  | sequence (items : List Nat)
  /-- The numbers of its keys and their values. -/
  | mapping (entries : List (Nat × Nat))
  deriving Repr

/-- A node: what it means and what it is made of. -/
structure Node where
  /-- What it means. -/
  tag : Tag
  /-- What it is made of. -/
  content : Content
  deriving Repr

/-- The table of nodes while it is being read. -/
structure Composer where
  /-- The tokens left. -/
  tokens : List Token
  /-- What is wrong after them. -/
  fault : Fault
  /-- The nodes so far. -/
  nodes : Array Node := #[]
  /-- The nodes with names. -/
  anchors : List (String × Nat) := []
  /-- What the handles of tags stand for. -/
  handles : List (String × String) := []

/-- A step of reading. -/
abbrev Compose := StateT Composer (Except Fault)

namespace Compose

/-- The text is no document. -/
def fail {α : Type} : Compose α := fun _ => .error .malformed

/-- The next token. -/
def peek : Compose Token := do
  let c ← get
  match c.tokens with
  | t :: _ => return t
  | [] => throw c.fault

/-- Go past the next token. -/
def advance : Compose Unit := modify fun c => { c with tokens := c.tokens.tail }

/-- Whether the next token is one of these. -/
def nextIs (choices : List Token) : Compose Bool := do
  return choices.contains (← peek)

/-- Go past the next token if it is this one. -/
def skipIf (t : Token) : Compose Bool := do
  if ← nextIs [t] then advance; return true
  else return false

/-- Go past the next token, which must be this one. -/
def expect (t : Token) : Compose Unit := do
  if !(← skipIf t) then fail

/-- Put a node into the table. -/
def add (node : Node) : Compose Nat := do
  let c ← get
  set { c with nodes := c.nodes.push node }
  return c.nodes.size

/-- The value that stands where nothing is written. -/
def nothing : Compose Nat := add ⟨.null, .scalar ""⟩

/-! ### Properties -/

/-- The anchor that stands here. -/
def anchor? : Compose (Option String) := do
  match ← peek with
  | .anchor name => advance; return some name
  | _ => return none

/-- The tag that stands here. -/
def tag? : Compose (Option TagText) := do
  match ← peek with
  | .tag text => advance; return some text
  | _ => return none

/-- **The properties of a node**: an anchor and a tag in either order. -/
def properties : Compose (Option String × Option TagText) := do
  match ← anchor? with
  | some name => return (some name, ← tag?)
  | none =>
    match ← tag? with
    | some text => return (← anchor?, some text)
    | none => return (none, none)

/-- The full name of a tag. -/
def fullName (text : TagText) : Compose String := do
  match text.handle with
  | none => return text.suffix
  | some handle =>
    match (← get).handles.lookup handle with
    | some meaning => return meaning ++ text.suffix
    | none => fail

/-- The tag of a node: the one written, unless it only says that there is none. -/
def tagOr (written : Option String) (otherwise : Tag) : Tag :=
  match written with
  | none | some "!" => otherwise
  | some name => .ofName name

/-- Give a node its name, which no other node has. -/
def name (anchor : Option String) (index : Nat) : Compose Unit := do
  match anchor with
  | none => return ()
  | some name => modify fun c => { c with anchors := (name, index) :: c.anchors }

/-- Fail if a name is taken. -/
def checkFree (anchor : Option String) : Compose Unit := do
  let c ← get
  if anchor.any fun name => (c.anchors.lookup name).isSome then fail

/-- A scalar with its properties. -/
def scalar (anchor : Option String) (tag : Tag) (text : String) : Compose Nat := do
  checkFree anchor
  let index ← add ⟨tag, .scalar text⟩
  name anchor index
  return index

/-- A collection: its number is known before its parts are read. -/
def collection (anchor : Option String) (tag : Tag) (parts : Compose Content) : Compose Nat := do
  checkFree anchor
  let index ← add ⟨tag, .scalar ""⟩
  name anchor index
  let content ← parts
  modify fun c => { c with nodes := c.nodes.setIfInBounds index ⟨tag, content⟩ }
  return index

/-! ### Nodes -/

/-- What can follow the dash of an item in a sequence that is not indented. -/
def afterItem : List Token := [.blockEntry, .key, .value, .blockEnd]

/-- What ends a key or value in a block mapping. -/
def afterPart : List Token := [.key, .value, .blockEnd]

mutual

/-- **A node.** Block collections only stand in block collections, and a sequence without
indentation only as a part of a mapping. -/
def node : (bound : Nat) → (block unindented : Bool) → Compose Nat
  | 0, _, _ => fail
  | bound + 1, block, unindented => do
    match ← peek with
    | .reference name =>
      advance
      match (← get).anchors.lookup name with
      | some index => return index
      | none => fail
    | _ =>
      let (anchor, text) ← properties
      let written ← text.mapM fullName
      match ← peek with
      | .scalar s plain =>
        advance
        let ofForm := if plain || written.isSome then Tag.ofPlain s.toList else .str
        scalar anchor (tagOr written ofForm) s
      | .openSequence =>
        advance
        collection anchor (tagOr written .seq) (.sequence <$> flowItems bound true)
      | .openMapping =>
        advance
        collection anchor (tagOr written .map) (.mapping <$> flowEntries bound true)
      | .blockEntry =>
        if unindented then
          collection anchor (tagOr written .seq) (.sequence <$> unindentedItems bound)
        else if anchor.isSome || written.isSome then scalar anchor (tagOr written .null) ""
        else fail
      | .blockSequence =>
        if block then
          advance
          collection anchor (tagOr written .seq) (.sequence <$> blockItems bound)
        else if anchor.isSome || written.isSome then scalar anchor (tagOr written .null) ""
        else fail
      | .blockMapping =>
        if block then
          advance
          collection anchor (tagOr written .map) (.mapping <$> blockEntries bound)
        else if anchor.isSome || written.isSome then scalar anchor (tagOr written .null) ""
        else fail
      | _ =>
        if anchor.isSome || written.isSome then scalar anchor (tagOr written .null) ""
        else fail

/-- The items of a block sequence, up to its end. -/
def blockItems : (bound : Nat) → Compose (List Nat)
  | 0 => fail
  | bound + 1 => do
    if ← skipIf .blockEntry then
      let item ← if ← nextIs [.blockEntry, .blockEnd] then nothing else node bound true false
      return item :: (← blockItems bound)
    else
      expect .blockEnd
      return []

/-- The items of a sequence that is not indented: it ends where no dash stands. -/
def unindentedItems : (bound : Nat) → Compose (List Nat)
  | 0 => fail
  | bound + 1 => do
    if ← skipIf .blockEntry then
      let item ← if ← nextIs afterItem then nothing else node bound true false
      return item :: (← unindentedItems bound)
    else return []

/-- The entries of a block mapping, up to its end. -/
def blockEntries : (bound : Nat) → Compose (List (Nat × Nat))
  | 0 => fail
  | bound + 1 => do
    if ← skipIf .key then
      let key ← if ← nextIs afterPart then nothing else node bound true true
      let value ← if ← skipIf .value then
          if ← nextIs afterPart then nothing else node bound true true
        else nothing
      return (key, value) :: (← blockEntries bound)
    else
      expect .blockEnd
      return []

/-- The items of a sequence in brackets. An item with a key is a mapping of one entry. -/
def flowItems : (bound : Nat) → (first : Bool) → Compose (List Nat)
  | 0, _ => fail
  | bound + 1, first => do
    if ← skipIf .closeSequence then return []
    else
      if !first then expect .flowEntry
      if ← skipIf .closeSequence then return []
      else
        let item ← if ← skipIf .key then
            collection none .map ((fun entry => .mapping [entry]) <$> flowPair bound)
          else node bound false false
        return item :: (← flowItems bound false)

/-- A key and its value inside brackets. -/
def flowPair : (bound : Nat) → Compose (Nat × Nat)
  | 0 => fail
  | bound + 1 => do
    let key ← if ← nextIs [.value, .flowEntry, .closeSequence] then nothing
      else node bound false false
    let value ← if ← skipIf .value then
        if ← nextIs [.flowEntry, .closeSequence] then nothing else node bound false false
      else nothing
    return (key, value)

/-- The entries of a mapping in braces. An item without a colon is a key without a value. -/
def flowEntries : (bound : Nat) → (first : Bool) → Compose (List (Nat × Nat))
  | 0, _ => fail
  | bound + 1, first => do
    if ← skipIf .closeMapping then return []
    else
      if !first then expect .flowEntry
      if ← skipIf .key then
        let key ← if ← nextIs [.value, .flowEntry, .closeMapping] then nothing
          else node bound false false
        let value ← if ← skipIf .value then
            if ← nextIs [.flowEntry, .closeMapping] then nothing else node bound false false
          else nothing
        return (key, value) :: (← flowEntries bound false)
      else if ← skipIf .closeMapping then return []
      else
        let key ← node bound false false
        let value ← nothing
        return (key, value) :: (← flowEntries bound false)

end

/-! ### Documents -/

/-- The handles that need no directive. -/
def standardHandles : List (String × String) := [("!", "!"), ("!!", Tag.repository)]

/-- **The directives of a document**: at most one version, which must be the first, and at most one
meaning for each handle. -/
def directives : (bound : Nat) → (versioned : Bool) → (handles : List (String × String)) →
    Compose Unit
  | 0, _, _ => fail
  | bound + 1, versioned, handles => do
    match ← peek with
    | .version major =>
      advance
      if versioned || major != 1 then fail
      else directives bound true handles
    | .handle name meaning =>
      advance
      if (handles.lookup name).isSome then fail
      else directives bound versioned ((name, meaning) :: handles)
    | .reserved => advance; directives bound versioned handles
    | _ => modify fun c => { c with handles := handles ++ standardHandles }

/-- Whether a token is a directive. -/
def isDirective : Token → Bool
  | .version _ | .handle _ _ | .reserved => true
  | _ => false

/-- Go past the marks of document ends. -/
def skipEnds : (bound : Nat) → Compose Unit
  | 0 => return ()
  | bound + 1 => do
    if ← skipIf .documentEnd then skipEnds bound

/-- A document that starts with a mark or a directive. -/
def markedDocument (bound : Nat) : Compose Nat := do
  directives bound false []
  expect .documentStart
  let next ← peek
  if isDirective next || [.documentStart, .documentEnd, .streamEnd].contains next then nothing
  else node bound true false

/-- The end of the text after a document. Whatever else follows is a fault, after the directives
before it have been read. -/
def streamEnd (bound : Nat) : Compose Unit := do
  skipEnds bound
  if !(← skipIf .streamEnd) then
    directives bound false []
    fail

/-- **The one document of a text**, if it has one. -/
def document : Compose (Option Nat) := do
  let bound := 4 * (← get).tokens.length + 8
  match ← peek with
  | .streamEnd => return none
  | first =>
    let root ←
      if isDirective first || first == .documentStart then markedDocument bound
      else do
        modify fun c => { c with handles := standardHandles }
        node bound true false
    streamEnd bound
    return some root

end Compose

/-- The nodes of a document and the number of the outermost, if there is a document. -/
def Node.ofTokens (stream : TokenStream) : Except Fault (Option Nat × Array Node) := do
  let (root, c) ← Compose.document.run { tokens := stream.tokens, fault := stream.fault }
  return (root, c.nodes)

end OperationCatalog.Yaml
