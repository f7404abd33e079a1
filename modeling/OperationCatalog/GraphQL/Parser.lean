import OperationCatalog.GraphQL.Document
import OperationCatalog.GraphQL.Token.Lexer

/-!
# From tokens to documents

The grammar of documents, read top down with one token in view. The state of the parser is the
lexeme in view and what comes after it; going past a lexeme brings the next one into view, and if
the text has a fault there, the fault is met at that moment – before anything else that may be wrong
with what was read.

**Nesting is limited.** Selections in braces, lists and objects among the literals, and lists among
the types are levels, and at most `OperationCatalog.GraphQL.maxNesting` of them may be open at a
time. The parsers of what nests recurse on the levels that are left, so the limit is also why they
end.
-/

namespace OperationCatalog.GraphQL

/-- The state of the parser. -/
structure Parser where
  /-- The lexeme in view. -/
  current : Lexeme
  /-- The lexemes after it. -/
  rest : List Lexeme
  /-- The fault after all lexemes, if there is one. -/
  stop : Option Stop

/-- How many levels may be open at a time. -/
def maxNesting : Nat := 200

/-- A step of parsing. -/
abbrev Parse := StateT Parser (Except Stop)

namespace Parse

variable {α : Type}

/-! ### Single tokens -/

/-- The lexeme in view. -/
def view : Parse Lexeme := do return (← get).current

/-- The token in view. -/
def token : Parse Token := do return (← view).token

/-- Something is wrong with a lexeme. -/
def wrong (lexeme : Lexeme) : Parse α := fun _ => .error ⟨lexeme.here⟩

/-- Something is wrong with the lexeme in view. -/
def unexpected : Parse α := do wrong (← view)

/-- The lexeme after the one in view. -/
def ahead : Parse Lexeme := do
  let p ← get
  match p.rest, p.stop with
  | next :: _, _ => return next
  | [], some stop => fun _ => .error stop
  | [], none => return p.current

/-- Go past the lexeme in view. The end of the text stays in view. -/
def advance : Parse Unit := do
  let next ← ahead
  modify fun p => { p with current := next, rest := p.rest.tail }

/-- Whether a token is in view. -/
def sees (t : Token) : Parse Bool := do return (← token) == t

/-- Go past a token if it is in view. -/
def skipIf (t : Token) : Parse Bool := do
  if ← sees t then advance; return true
  else return false

/-- Go past a token, which must be in view. -/
def expect (t : Token) : Parse Unit := do
  if !(← skipIf t) then unexpected

/-- Go past a keyword if it is in view. -/
def skipWord (word : String) : Parse Bool := skipIf (.name word)

/-- Go past a keyword, which must be in view. -/
def expectWord (word : String) : Parse Unit := expect (.name word)

/-- Whether a token is a name. -/
def isName : Token → Bool
  | .name _ => true
  | _ => false

/-- A name. -/
def name : Parse String := do
  match ← token with
  | .name text => advance; return text
  | _ => unexpected

/-! ### Repetition -/

/-- How many lexemes are left, at least one. -/
def size : Parse Nat := do return (← get).rest.length + 2

/-- Items up to a closing token. -/
def itemsUntil (close : Token) (item : Parse α) : (bound : Nat) → Parse (List α)
  | 0 => unexpected
  | bound + 1 => do
    if ← skipIf close then return []
    else
      let first ← item
      return first :: (← itemsUntil close item bound)

/-- Any number of items between two tokens. -/
def anyBetween (opening close : Token) (item : Parse α) : Parse (List α) := do
  expect opening
  itemsUntil close item (← size)

/-- At least one item between two tokens. -/
def someBetween (opening close : Token) (item : Parse α) : Parse (List α) := do
  expect opening
  let first ← item
  return first :: (← itemsUntil close item (← size))

/-- At least one item between two tokens, or nothing at all. -/
def optionalBetween (opening close : Token) (item : Parse α) : Parse (List α) := do
  if ← sees opening then someBetween opening close item else return []

/-- More items, each after a separator. -/
def moreSeparated (separator : Token) (item : Parse α) : (bound : Nat) → Parse (List α)
  | 0 => return []
  | bound + 1 => do
    if ← skipIf separator then
      let next ← item
      return next :: (← moreSeparated separator item bound)
    else return []

/-- At least one item, with separators between and perhaps one in front. -/
def separated (separator : Token) (item : Parse α) : Parse (List α) := do
  let _ ← skipIf separator
  let first ← item
  return first :: (← moreSeparated separator item (← size))

/-- Items as long as a token is in view. -/
def itemsWhile (start : Token) (item : Parse α) : (bound : Nat) → Parse (List α)
  | 0 => return []
  | bound + 1 => do
    if ← sees start then
      let first ← item
      return first :: (← itemsWhile start item bound)
    else return []

/-! ### Literals, directives and types -/

/-- A variable where a constant is wanted. The token after the dollar sign is brought into view
first. -/
def refusedVariable : Parse α := do
  let dollar ← view
  advance
  wrong dollar

/-- A literal that is neither a list nor an object. A constant one is no variable. -/
def plainLiteral (constant : Bool) : Parse Literal := do
  match ← token with
  | .int text => advance; return .int text
  | .float text => advance; return .float text
  | .string value => advance; return .string value
  | .blockString value => advance; return .string value
  | .name "true" => advance; return .bool true
  | .name "false" => advance; return .bool false
  | .name "null" => advance; return .null
  | .name text => advance; return .enum text
  | .dollar =>
    if constant then refusedVariable
    else
      advance
      return .variableName (← name)
  | _ => unexpected

/-- **A literal** with some levels left. A constant one holds no variables. -/
def literal (constant : Bool) : (depth : Nat) → Parse Literal
  | 0 => plainLiteral constant
  | depth + 1 => do
    match ← token with
    | .bracketOpen =>
      return .list (← anyBetween .bracketOpen .bracketClose (literal constant depth))
    | .braceOpen =>
      let field : Parse Argument := do
        let label ← name
        expect .colon
        return (label, ← literal constant depth)
      return .object (← anyBetween .braceOpen .braceClose field)
    | _ => plainLiteral constant

/-- An argument. -/
def argument (constant : Bool) (depth : Nat) : Parse Argument := do
  let label ← name
  expect .colon
  return (label, ← literal constant depth)

/-- Arguments in parentheses, if there are any. -/
def arguments (constant : Bool) (depth : Nat) : Parse (List Argument) :=
  optionalBetween .parenOpen .parenClose (argument constant depth)

/-- A directive. -/
def directive (constant : Bool) (depth : Nat) : Parse Directive := do
  expect .atSign
  let label ← name
  return ⟨label, ← arguments constant depth⟩

/-- **Directives**, as many as there are. -/
def directives (constant : Bool) (depth : Nat) : Parse (List Directive) := do
  itemsWhile .atSign (directive constant depth) (← size)

/-- The directives on a definition or on a part of one. -/
def constantDirectives : Parse (List Directive) := directives true maxNesting

/-- A default, if there is one. -/
def default? : Parse (Option Literal) := do
  if ← skipIf .equals then return some (← literal true maxNesting) else return none

/-- A type; `item` is the type in brackets. -/
def typeRefOf (item : Parse TypeRef) : Parse TypeRef := do
  let inner ← if ← skipIf .bracketOpen then do
      let item ← item
      expect .bracketClose
      pure (TypeRef.list item)
    else pure (TypeRef.named (← name))
  if ← skipIf .bang then return .nonNull inner else return inner

/-- A type with some levels left. A level is counted when its bracket has been gone past. -/
def typeRefWithin : (depth : Nat) → Parse TypeRef
  | 0 => typeRefOf unexpected
  | depth + 1 => typeRefOf (typeRefWithin depth)

/-- **A type.** -/
def typeRef : Parse TypeRef := typeRefWithin maxNesting

/-! ### Descriptions -/

/-- The text of a description, if a token is one. -/
def descriptionOf? : Token → Option String
  | .string value => some value
  | .blockString value => some value
  | _ => none

/-- A description, if there is one. -/
def description : Parse (Option String) := do
  match descriptionOf? (← token) with
  | some value => advance; return some value
  | none => return none

/-! ### Operations and fragments -/

/-- The name of a fragment, which is not the word before a type. -/
def fragmentName : Parse String := do
  match ← token with
  | .name "on" | .string "on" | .blockString "on" => unexpected
  | _ => name

/-- **A selection** in braces with some levels left inside; `inner` are the selections in braces of
its own. -/
def selection (inner : Parse (List Selection)) (depth : Nat) : Parse Selection := do
  if ← skipIf .spread then
    if ← skipWord "on" then
      let typeName ← name
      let ds ← directives false depth
      return .inlineFragment (some typeName) ds (← inner)
    else if isName (← token) then
      let fragment ← fragmentName
      return .spread fragment (← directives false depth)
    else
      let ds ← directives false depth
      return .inlineFragment none ds (← inner)
  else
    let first ← name
    let (label, field) ← if ← skipIf .colon then pure (some first, ← name) else pure (none, first)
    let args ← arguments false depth
    let ds ← directives false depth
    let selected ← if ← sees .braceOpen then inner else pure []
    return .field label field args ds selected

/-- **Selections in braces**, at least one, with some levels left. -/
def selectionsWithin : (depth : Nat) → Parse (List Selection)
  | 0 => unexpected
  | depth + 1 =>
    someBetween .braceOpen .braceClose (selection (selectionsWithin depth) depth)

/-- The selections of an operation or a fragment. -/
def selections : Parse (List Selection) := selectionsWithin maxNesting

/-- A variable of an operation. It may have a description, which says nothing to a program. -/
def variableDefinition : Parse Variable := do
  let _ ← description
  expect .dollar
  let label ← name
  expect .colon
  let type ← typeRef
  let default ← default?
  return ⟨label, type, default, ← constantDirectives⟩

/-- The kind of an operation. -/
def operationKind : Parse OperationKind := do
  let here ← view
  let word ← name
  match OperationKind.words.lookup word with
  | some kind => return kind
  | none => wrong here

/-- **An operation**; without a keyword it is a query that only has selections. -/
def operation : Parse Operation := do
  if ← sees .braceOpen then
    return ⟨.query, none, [], [], ← selections⟩
  else
    let _ ← description
    let kind ← operationKind
    let label ← if isName (← token) then pure (some (← name)) else pure none
    let vars ← optionalBetween .parenOpen .parenClose variableDefinition
    let ds ← directives false maxNesting
    return ⟨kind, label, vars, ds, ← selections⟩

/-- **A fragment.** -/
def fragment : Parse Fragment := do
  let _ ← description
  expectWord "fragment"
  let label ← fragmentName
  expectWord "on"
  let typeName ← name
  let ds ← directives false maxNesting
  return ⟨label, typeName, ds, ← selections⟩

/-! ### Definitions of a schema -/

/-- An argument or an input field. -/
def inputValue : Parse InputValue := do
  let text ← description
  let label ← name
  expect .colon
  let type ← typeRef
  let default ← default?
  return ⟨text, label, type, default, ← constantDirectives⟩

/-- The arguments that a field or directive takes. -/
def parameters : Parse (List InputValue) :=
  optionalBetween .parenOpen .parenClose inputValue

/-- A field of an object or interface. -/
def outputField : Parse OutputField := do
  let text ← description
  let label ← name
  let args ← parameters
  expect .colon
  let type ← typeRef
  return ⟨text, label, args, type, ← constantDirectives⟩

/-- A value of an enumeration; three names are taken. -/
def enumValue : Parse EnumValue := do
  let text ← description
  match ← token with
  | .name "true" | .name "false" | .name "null" | .string "true" | .string "false"
  | .string "null" | .blockString "true" | .blockString "false" | .blockString "null" => unexpected
  | _ =>
    let label ← name
    return ⟨text, label, ← constantDirectives⟩

/-- The interfaces that a type has. -/
def interfaces : Parse (List String) := do
  if ← skipWord "implements" then separated .amp name else return []

/-- An entry point: a kind of operation and the type it starts from. -/
def entryPoint : Parse (OperationKind × String) := do
  let kind ← operationKind
  expect .colon
  return (kind, ← name)

/-- What kind of type a keyword defines. -/
inductive TypeWord where
  /-- A scalar. -/
  | scalar
  /-- An object. -/
  | object
  /-- An interface. -/
  | interface
  /-- A union. -/
  | union
  /-- An enumeration. -/
  | enum
  /-- An input object. -/
  | input

/-- The keywords that define types. -/
def typeWords : List (String × TypeWord) :=
  [("scalar", .scalar), ("type", .object), ("interface", .interface), ("union", .union),
    ("enum", .enum), ("input", .input)]

/-- **The directives and parts of a type** after its name. Objects and interfaces name their
interfaces before their directives. -/
def typeParts (word : TypeWord) : Parse (List Directive × TypeBody) := do
  match word with
  | .scalar => return (← constantDirectives, .scalar)
  | .object =>
    let names ← interfaces
    let ds ← constantDirectives
    return (ds, .object names (← optionalBetween .braceOpen .braceClose outputField))
  | .interface =>
    let names ← interfaces
    let ds ← constantDirectives
    return (ds, .interface names (← optionalBetween .braceOpen .braceClose outputField))
  | .union =>
    let ds ← constantDirectives
    return (ds, .union (← if ← skipIf .equals then separated .pipe name else pure []))
  | .enum =>
    let ds ← constantDirectives
    return (ds, .enum (← optionalBetween .braceOpen .braceClose enumValue))
  | .input =>
    let ds ← constantDirectives
    return (ds, .input (← optionalBetween .braceOpen .braceClose inputValue))

/-- A place where a directive may be used. -/
def location : Parse String := do
  let here ← view
  let word ← name
  if locations.contains word then return word else wrong here

/-- A directive definition after its description. -/
def directiveDefinition (text : Option String) : Parse DirectiveDefinition := do
  expectWord "directive"
  expect .atSign
  let label ← name
  let args ← parameters
  let repeatable ← skipWord "repeatable"
  expectWord "on"
  return ⟨text, label, args, repeatable, ← separated .pipe location⟩

/-- A schema definition after its description. -/
def schemaDefinition (text : Option String) : Parse SchemaDefinition := do
  expectWord "schema"
  let ds ← constantDirectives
  return ⟨text, ds, ← someBetween .braceOpen .braceClose entryPoint⟩

/-- A type definition, from its keyword on. -/
def typeDefinition (text : Option String) (word : TypeWord) : Parse TypeDefinition := do
  advance
  let label ← name
  let (ds, body) ← typeParts word
  return ⟨text, label, ds, body⟩

/-- Whether what is added to a type is nothing. -/
def addsNothing (ds : List Directive) : TypeBody → Bool
  | .scalar => ds.isEmpty
  | .object names fields => ds.isEmpty && names.isEmpty && fields.isEmpty
  | .interface names fields => ds.isEmpty && names.isEmpty && fields.isEmpty
  | .union members => ds.isEmpty && members.isEmpty
  | .enum values => ds.isEmpty && values.isEmpty
  | .input fields => ds.isEmpty && fields.isEmpty

/-- **An extension**, which adds something. -/
def extension : Parse Definition := do
  let next ← ahead
  match next.token with
  | .name "schema" =>
    advance
    advance
    let ds ← constantDirectives
    let operations ← optionalBetween .braceOpen .braceClose entryPoint
    if ds.isEmpty && operations.isEmpty then unexpected
    return .schemaExtension ⟨none, ds, operations⟩
  | .name word =>
    match typeWords.lookup word with
    | some kind =>
      advance
      let t ← typeDefinition none kind
      if addsNothing t.directives t.body then unexpected
      return .typeExtension t
    | none => wrong next
  | _ => wrong next

/-- A definition that starts with a word. -/
def wordDefinition (word : String) : Parse Definition := do
  if word == "schema" then
    let text ← description
    return .schema (← schemaDefinition text)
  else if word == "directive" then
    let text ← description
    return .directive (← directiveDefinition text)
  else if word == "fragment" then return .fragment (← fragment)
  else if (OperationKind.words.lookup word).isSome then return .operation (← operation)
  else match typeWords.lookup word with
    | some kind =>
      let text ← description
      return .type (← typeDefinition text kind)
    | none => unexpected

/-- **A definition.** It may have a description, unless it is an operation without a keyword or an
extension. The description stays in view until it is known what follows. -/
def definition : Parse Definition := do
  if ← sees .braceOpen then return .operation (← operation)
  let described := (descriptionOf? (← token)).isSome
  let keyword ← if described then ahead else view
  match keyword.token with
  | .name word =>
    if word == "extend" && !described then extension else wordDefinition word
  | .braceOpen => unexpected
  | _ => wrong keyword

/-- The definitions of a document, at least one. -/
def document : Parse Document := do
  let first ← definition
  return first :: (← itemsUntil .eof definition (← size))

end Parse

/-- Why a text is not a document: something is wrong at a place. -/
structure SyntaxFault where
  /-- The place. -/
  place : Text.Position
  deriving DecidableEq, Repr

/-- The fault of a text that a stop amounts to. -/
def Stop.toFault (text : List Char) (stop : Stop) : SyntaxFault :=
  ⟨.ofPreceding (text.take (text.length - stop.here.length))⟩

/-- **The document that a text is.** -/
def parse (text : List Char) : Except SyntaxFault Document :=
  let lexed := lex text
  match lexed.lexemes, lexed.stop with
  | first :: rest, stop =>
    ((Parse.document.run' ⟨first, rest, stop⟩).mapError (Stop.toFault text))
  | [], some stop => .error (stop.toFault text)
  | [], none => .ok []

end OperationCatalog.GraphQL
