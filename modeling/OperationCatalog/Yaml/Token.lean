import OperationCatalog.Yaml.Cursor

/-!
# Tokens of a YAML text

The structure of a text is written with indicators in flow collections and with
columns in block collections. The tokens make both explicit: a block collection has a
token where it starts and one where it ends, and each key of a mapping has one before
it, though the text only shows the colon after it.
-/

namespace OperationCatalog.Yaml

/-- A tag as it is written: a handle and what follows it, or a whole tag without a handle. -/
structure TagText where
  /-- The handle, with its exclamation marks. -/
  handle : Option String
  /-- What follows the handle. -/
  suffix : String
  deriving DecidableEq, Repr

/-- A token. -/
inductive Token where
  /-- A version directive, with its major number. -/
  | version (major : Nat)
  /-- A directive that gives a handle its meaning. -/
  | handle (name meaning : String)
  /-- A directive without effect. -/
  | reserved
  /-- The mark of a document's start. -/
  | documentStart
  /-- The mark of a document's end. -/
  | documentEnd
  /-- The end of the text. -/
  | streamEnd
  /-- A block sequence starts. -/
  | blockSequence
  /-- A block mapping starts. -/
  | blockMapping
  /-- The innermost block collection ends. -/
  | blockEnd
  /-- An opening bracket. -/
  | openSequence
  /-- A closing bracket. -/
  | closeSequence
  /-- An opening brace. -/
  | openMapping
  /-- A closing brace. -/
  | closeMapping
  /-- The dash before an item of a block sequence. -/
  | blockEntry
  /-- The comma between items of a flow collection. -/
  | flowEntry
  /-- A key follows. -/
  | key
  /-- A value follows. -/
  | value
  /-- The name of a collection or scalar that stands elsewhere. -/
  | reference (name : String)
  /-- A name for the collection or scalar that follows. -/
  | anchor (name : String)
  /-- A tag. -/
  | tag (text : TagText)
  /-- A scalar; only a plain one may mean something else than its text. -/
  | scalar (text : String) (plain : Bool)
  deriving DecidableEq, Repr

/-- **The tokens of a text**, as far as they can be told, and what is wrong after them. Whoever
reads tokens meets the fault only when asking for one token more. -/
structure TokenStream where
  /-- The tokens, first to last. -/
  tokens : List Token
  /-- What is wrong after the last token; after the end of the text, there being more to read. -/
  fault : Fault

end OperationCatalog.Yaml
