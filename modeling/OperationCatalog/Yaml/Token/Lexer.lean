import OperationCatalog.Yaml.Scalar.Block
import OperationCatalog.Yaml.Token.Property

/-!
# From text to tokens

The lexer turns columns into tokens. It keeps the indentation of the block collections
it is in, and wherever a collection, scalar or alias starts it remembers the place, as
long as that may still turn out to be a key: a key stands on one line, is short, and
shows itself only by the colon after it. When the colon comes, the token of the key is put
in at the remembered place, and with it the start of a block mapping if the key
is further in than the collections around it.

Each step takes at least one character, so the length of the text bounds their number.
-/

namespace OperationCatalog.Yaml

/-- A place that may turn out to be a key. -/
structure KeyPlace where
  /-- The number of tokens before it. -/
  tokenIndex : Nat
  /-- Whether it must be a key: it stands at the very column of a block mapping. -/
  required : Bool
  /-- The cursor's index there. -/
  index : Nat
  /-- The cursor's line there. -/
  line : Nat
  /-- The cursor's column there. -/
  column : Nat

/-- The state of the lexer. -/
structure Lexer where
  /-- What is left of the text. -/
  cursor : Cursor
  /-- The tokens so far, last first. -/
  tokens : List Token := []
  /-- How many flow collections are open. -/
  flow : Nat := 0
  /-- The column of the innermost block collection; minus one outside all. -/
  indent : Int := -1
  /-- The columns of the block collections around it, innermost first. -/
  outer : List Int := []
  /-- Whether a key may start here without an indicator. -/
  keyAllowed : Bool := true
  /-- The places that may turn out to be keys, by the number of flow collections around
  them. -/
  places : List (Nat × KeyPlace) := []

namespace Lexer

/-- Add a token at the end. -/
def push (l : Lexer) (t : Token) : Lexer := { l with tokens := t :: l.tokens }

/-- Put a token after the first so many tokens. -/
def insert (l : Lexer) (index : Nat) (t : Token) : Lexer :=
  let later := l.tokens.length - index
  { l with tokens := l.tokens.take later ++ t :: l.tokens.drop later }

/-- Whether the lexer is inside a flow collection. -/
def inFlow (l : Lexer) : Bool := l.flow != 0

/-- Add a token that stands here, and go past its characters. -/
def take (l : Lexer) (count : Nat) (t : Token) : Lexer :=
  { l.push t with cursor := l.cursor.skip count }

/-! ### Places of keys -/

/-- Whether a place can no longer be a key: the line has ended, or it is too far back. -/
def isStale (l : Lexer) (k : KeyPlace) : Bool :=
  k.line != l.cursor.line || 1024 < l.cursor.index - k.index

/-- Forget the places that can no longer be keys; one that must be a key is a fault. -/
def dropStale (l : Lexer) : Except Fault Lexer :=
  if l.places.any (fun (_, k) => l.isStale k && k.required) then .error .malformed
  else .ok { l with places := l.places.filter fun (_, k) => !l.isStale k }

/-- Forget the place of the innermost collection; one that must be a key is a fault. -/
def dropPlace (l : Lexer) : Except Fault Lexer :=
  if (l.places.lookup l.flow).any (·.required) then .error .malformed
  else .ok { l with places := l.places.filter fun (level, _) => level != l.flow }

/-- Remember that a key may start here. -/
def savePlace (l : Lexer) : Except Fault Lexer :=
  if l.keyAllowed then do
    let l ← l.dropPlace
    let here : KeyPlace :=
      { tokenIndex := l.tokens.length
        required := !l.inFlow && l.indent == l.cursor.column
        index := l.cursor.index
        line := l.cursor.line
        column := l.cursor.column }
    return { l with places := (l.flow, here) :: l.places }
  else .ok l

/-! ### Indentation -/

/-- Close block collections with `outer` around the innermost until one starts at a column or
before it. -/
def unwindTo (column : Int) (indent : Int) (tokens : List Token) :
    (outer : List Int) → Int × List Int × List Token
  | [] => (indent, [], tokens)
  | around :: outer =>
    if column < indent then unwindTo column around (.blockEnd :: tokens) outer
    else (indent, around :: outer, tokens)

/-- **Close the block collections** that start after a column. -/
def unwind (l : Lexer) (column : Int) : Lexer :=
  if l.inFlow then l
  else
    let (indent, outer, tokens) := unwindTo column l.indent l.tokens l.outer
    { l with indent, outer, tokens }

/-- Open a block collection at a column if it starts after the innermost one, putting its token
after the first so many tokens. -/
def openBlock (l : Lexer) (column index : Nat) (t : Token) : Lexer :=
  if l.indent < column then
    { l.insert index t with indent := column, outer := l.indent :: l.outer }
  else l

/-! ### Tokens -/

/-- The end of the text. -/
def endStream (l : Lexer) : Except Fault Lexer := do
  let l ← (l.unwind (-1)).dropPlace
  return l.push .streamEnd

/-- A directive or a document mark: all block collections end before it. -/
def startLine (l : Lexer) : Except Fault Lexer := do
  let l ← (l.unwind (-1)).dropPlace
  return { l with keyAllowed := false }

/-- A directive. -/
def directive (l : Lexer) : Except Fault Lexer := do
  let l ← l.startLine
  let (t, cursor) ← Property.directive l.cursor
  return { l.push t with cursor }

/-- An opening bracket or brace. -/
def openFlow (l : Lexer) (t : Token) : Except Fault Lexer := do
  let l ← l.savePlace
  return { l.take 1 t with flow := l.flow + 1, keyAllowed := true }

/-- A closing bracket or brace; one that closes nothing is a fault. -/
def closeFlow (l : Lexer) (t : Token) : Except Fault Lexer := do
  if !l.inFlow then .error .malformed
  let l ← l.dropPlace
  return { l.take 1 t with flow := l.flow - 1, keyAllowed := false }

/-- A comma in a flow collection. -/
def flowEntry (l : Lexer) : Except Fault Lexer := do
  let l ← { l with keyAllowed := true }.dropPlace
  return l.take 1 .flowEntry

/-- An indicator that opens a block collection if it stands where a key may start. -/
def blockIndicator (l : Lexer) (opened t : Token) (keyAllowed : Bool) : Except Fault Lexer := do
  if !l.inFlow && !l.keyAllowed then .error .malformed
  let l := if l.inFlow then l else l.openBlock l.cursor.column l.tokens.length opened
  let l ← { l with keyAllowed }.dropPlace
  return l.take 1 t

/-- **The colon before a value.** A remembered place becomes a key; otherwise the value has an
empty key. -/
def value (l : Lexer) : Except Fault Lexer :=
  match l.places.lookup l.flow with
  | some place =>
    let l := { l with
      places := l.places.filter fun (level, _) => level != l.flow
      keyAllowed := false }
    let l := l.insert place.tokenIndex .key
    let l := if l.inFlow then l else l.openBlock place.column place.tokenIndex .blockMapping
    .ok (l.take 1 .value)
  | none => l.blockIndicator .blockMapping .value (!l.inFlow)

/-- An anchor, an alias, a tag or a quoted scalar: a key may start with it, and none right after
it. -/
def property (l : Lexer) (scan : Cursor → Except Fault (Token × Cursor)) :
    Except Fault Lexer := do
  let l ← l.savePlace
  let (t, cursor) ← scan l.cursor
  return { l.push t with cursor, keyAllowed := false }

/-- A block scalar. -/
def blockScalar (l : Lexer) (folded : Bool) : Except Fault Lexer := do
  let l ← { l with keyAllowed := true }.dropPlace
  let (text, cursor) ← Block.scan folded l.indent l.cursor
  return { l.push (.scalar (String.ofList text) false) with cursor }

/-- A plain scalar. -/
def plainScalar (l : Lexer) : Except Fault Lexer := do
  let l ← l.savePlace
  let found := Plain.scan l.inFlow (l.indent + 1) l.cursor
  return { l.push (.scalar (String.ofList found.text) true) with
    cursor := found.cursor
    keyAllowed := found.atLineStart }

/-- The indicators that begin no plain scalar. -/
def isIndicator (c : Char) : Bool :=
  "-?:,[]\x7b\x7d#&*!|>'\"%@`".toList.contains c

/-- Whether a plain scalar starts with the character that stands here. -/
def startsPlain (l : Lexer) (c : Char) : Bool :=
  !(isSeparator c || isIndicator c) ||
    (!l.cursor.endsAt 1 isSeparator && (c == '-' || (!l.inFlow && (c == '?' || c == ':'))))

/-- **One token**, which starts with the character that stands here. -/
def token (l : Lexer) (c : Char) : Except Fault Lexer :=
  let lineStart := l.cursor.column == 0
  let closesWord := l.cursor.endsAt 1 isSeparator
  if c == '%' && lineStart then l.directive
  else if lineStart && l.cursor.atDocumentMark then do
    let l ← l.startLine
    return l.take 3 (if c == '-' then .documentStart else .documentEnd)
  else if c == '[' then l.openFlow .openSequence
  else if c == '\x7b' then l.openFlow .openMapping
  else if c == ']' then l.closeFlow .closeSequence
  else if c == '\x7d' then l.closeFlow .closeMapping
  else if c == ',' then l.flowEntry
  else if c == '-' && closesWord then l.blockIndicator .blockSequence .blockEntry true
  else if c == '?' && (l.inFlow || closesWord) then l.blockIndicator .blockMapping .key (!l.inFlow)
  else if c == ':' && (l.inFlow || closesWord) then l.value
  else if c == '*' then l.property fun c => (Property.name c).map fun (s, c) => (.reference s, c)
  else if c == '&' then l.property fun c => (Property.name c).map fun (s, c) => (.anchor s, c)
  else if c == '!' then l.property fun c => (Property.tag c).map fun (s, c) => (.tag s, c)
  else if c == '|' && !l.inFlow then l.blockScalar false
  else if c == '>' && !l.inFlow then l.blockScalar true
  else if c == '\'' || c == '"' then
    l.property fun cursor => (Quoted.scan (c == '"') cursor).map fun (s, cursor) =>
      (.scalar (String.ofList s) false, cursor)
  else if l.startsPlain c then l.plainScalar
  else .error .malformed

/-- Blanks, comments and line breaks before a token. A new line allows a key, except inside flow
collections. -/
def skipToToken (inFlow : Bool) : (bound : Nat) → (keyAllowed : Bool) → Cursor → Bool × Cursor
  | 0, keyAllowed, c => (keyAllowed, c)
  | bound + 1, keyAllowed, c =>
    let c := c.skipSpaces
    let c := if c.head? == some '#' then c.skipWhile (!isBreak ·) else c
    match c.lineBreak? with
    | none => (keyAllowed, c)
    | some (_, after) => skipToToken inFlow bound (keyAllowed || !inFlow) after

/-- The lexer at the next token, with the collections closed that end before it. -/
def toNextToken (l : Lexer) : Except Fault Lexer := do
  let (keyAllowed, cursor) := skipToToken l.inFlow (l.cursor.rest.length + 1) l.keyAllowed l.cursor
  let l ← { l with cursor, keyAllowed }.dropStale
  return l.unwind l.cursor.column

/-- **The tokens that are certain**: those before the first place that may still turn out to be
a key, for a key puts tokens in front of itself. -/
def settled (l : Lexer) : List Token :=
  let undecided := (l.places.filter fun (_, k) => !l.isStale k).map fun (_, k) => k.tokenIndex
  l.tokens.reverse.take (undecided.foldl min l.tokens.length)

/-- The lexer after one token more, or after the end of the text, and whether the text goes on. -/
def step (l : Lexer) : Except Fault (Lexer × Bool) := do
  let l ← l.toNextToken
  match l.cursor.head? with
  | none => return (← l.endStream, false)
  | some c => return (← l.token c, true)

/-- The tokens of a text from here on. -/
def run : (bound : Nat) → Lexer → TokenStream
  | 0, l => ⟨l.settled, .malformed⟩
  | bound + 1, l =>
    match l.step with
    | .error fault => ⟨l.settled, fault⟩
    | .ok (l, true) => run bound l
    | .ok (l, false) => ⟨l.tokens.reverse, .malformed⟩

end Lexer

/-- **The tokens of a text.** A byte order mark in front is skipped, and a text with a character
that may not occur has none. -/
def Token.scan (text : List Char) : TokenStream :=
  if text.all isPrintable then
    let start : Cursor := ⟨text, 0, 0, 0⟩
    let start := if start.head? == some '\ufeff' then start.next else start
    Lexer.run (text.length + 2) { cursor := start }
  else ⟨[], .malformed⟩

end OperationCatalog.Yaml
