/-!
# Tokens of the query language

What a text is made of when blanks, commas, line breaks and comments are left out. A token keeps
its value and not its spelling: two spellings of a text are the same token, except that a
block string remembers being one.
-/

namespace OperationCatalog.GraphQL

/-- A token. -/
inductive Token where
  /-- `!` -/
  | bang
  /-- `$` -/
  | dollar
  /-- `&` -/
  | amp
  /-- `(` -/
  | parenOpen
  /-- `)` -/
  | parenClose
  /-- `...` -/
  | spread
  /-- `:` -/
  | colon
  /-- `=` -/
  | equals
  /-- `@` -/
  | atSign
  /-- `[` -/
  | bracketOpen
  /-- `]` -/
  | bracketClose
  /-- An opening brace. -/
  | braceOpen
  /-- `|` -/
  | pipe
  /-- A closing brace. -/
  | braceClose
  /-- A name. -/
  | name (text : String)
  /-- An integer, as it is written. -/
  | int (text : String)
  /-- A number with a fraction or an exponent, as it is written. -/
  | float (text : String)
  /-- A string. -/
  | string (value : String)
  /-- A block string. -/
  | blockString (value : String)
  /-- The end of the text. -/
  | eof
  deriving DecidableEq, Repr

/-- A token and the text from its first character on, which says where it stands. -/
structure Lexeme where
  /-- The token. -/
  token : Token
  /-- The text from it on. -/
  here : List Char

end OperationCatalog.GraphQL
