import OperationCatalog.Yaml.Number

/-!
# Tags

The tag of a node says what it means. A node without one gets it from its form: a
collection is a sequence or a mapping, a quoted scalar is text, and a plain scalar is the
first thing its text looks like – a truth value, a fraction, an integer, a merge key,
no value, a timestamp, a default key, an indicator, which means nothing – and text otherwise.
-/

namespace OperationCatalog.Yaml

/-- What a node means. -/
inductive Tag where
  /-- No value. -/
  | null
  /-- A truth value. -/
  | bool
  /-- An integer. -/
  | int
  /-- A fraction. -/
  | float
  /-- Bytes. -/
  | binary
  /-- A date or an instant. -/
  | timestamp
  /-- Text. -/
  | str
  /-- A sequence. -/
  | seq
  /-- A mapping. -/
  | map
  /-- A set of keys. -/
  | set
  /-- A sequence of pairs, written as mappings of one entry. -/
  | pairs
  /-- The key whose value is merged into the mapping. -/
  | merge
  /-- The key whose value stands for the mapping where a scalar is expected. -/
  | default
  /-- A tag without a meaning here. -/
  | unknown
  deriving DecidableEq, Repr

/-- The meanings of the names of the standard repository. -/
def Tag.standard : List (String × Tag) :=
  [("null", .null), ("bool", .bool), ("int", .int), ("float", .float), ("binary", .binary),
    ("timestamp", .timestamp), ("str", .str), ("seq", .seq), ("map", .map), ("set", .set),
    ("omap", .pairs), ("pairs", .pairs), ("merge", .merge), ("value", .default)]

/-- What stands before the names of the standard repository. -/
def Tag.repository : String := "tag:yaml.org,2002:"

/-- The tag with a full name. -/
def Tag.ofName (name : String) : Tag :=
  ((standard.find? fun (short, _) => repository ++ short == name).map (·.2)).getD .unknown

/-- The words that are truth values, in lower case. -/
def truthWords : List (String × Bool) :=
  [("yes", true), ("no", false), ("true", true), ("false", false), ("on", true), ("off", false)]

/-- Whether a word is written in one of the ways that count: all lower case, all upper case, or
with a capital. -/
def isWrittenAs (word s : List Char) : Bool :=
  s == word || s == word.map Char.toUpper ||
    s == (word.take 1).map Char.toUpper ++ word.drop 1

/-- **What a plain scalar looks like.** -/
def Tag.ofPlain (text : List Char) : Tag :=
  let s := Number.chomped text
  if text.isEmpty then .null
  else if truthWords.any fun (word, _) => isWrittenAs word.toList s then .bool
  else if Number.looksLikeFloat s then .float
  else if Number.looksLikeInt s then .int
  else if s == ['<', '<'] then .merge
  else if s == ['~'] || isWrittenAs "null".toList s then .null
  else if Number.looksLikeTimestamp s then .timestamp
  else if s == ['='] then .default
  else if [['!'], ['&'], ['*']].contains s then .unknown
  else .str

end OperationCatalog.Yaml
