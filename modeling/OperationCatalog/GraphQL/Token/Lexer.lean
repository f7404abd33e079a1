import OperationCatalog.GraphQL.BlockString
import OperationCatalog.GraphQL.Token
import OperationCatalog.Text.Lines

/-!
# From text to tokens

A text is read from left to right, one longest token after the other. Nothing depends on what was
read before, so the tokens of a text from some point on are the tokens of the rest
(`OperationCatalog.GraphQL.lexFrom`).

A fault stops the reading, but only where it is met: the tokens before it are good, and a parser
that finds something wrong with them finds it first. So a lexed text is a list of
lexemes and, where it does not end with the end of the text, the fault that follows.
-/

namespace OperationCatalog.GraphQL

/-- Why a text is no sequence of tokens, or no document: something is wrong at a place. -/
structure Stop where
  /-- The text from that place on. -/
  here : List Char

/-! ### Names and numbers -/

/-- Whether a character may start a name. -/
def isNameStart (c : Char) : Bool := c.isAlpha || c == '_'

/-- Whether a character may continue a name. -/
def isNameChar (c : Char) : Bool := c.isAlphanum || c == '_'

/-- At least one digit. -/
def readDigits (cs : List Char) : Except Stop (List Char × List Char) :=
  if cs.head?.any Char.isDigit then .ok (cs.takeWhile Char.isDigit, cs.dropWhile Char.isDigit)
  else .error ⟨cs⟩

/-- The digits before the point; a zero stands alone. -/
def readWhole (cs : List Char) : Except Stop (List Char × List Char) :=
  match cs with
  | '0' :: rest => if rest.head?.any Char.isDigit then .error ⟨rest⟩ else .ok (['0'], rest)
  | _ => readDigits cs

/-- A fraction, if there is one. -/
def readFraction (cs : List Char) : Except Stop (List Char × List Char) :=
  match cs with
  | '.' :: rest => (readDigits rest).map fun (digits, rest) => ('.' :: digits, rest)
  | _ => .ok ([], cs)

/-- An exponent, if there is one. -/
def readExponent (cs : List Char) : Except Stop (List Char × List Char) :=
  match cs with
  | e :: rest =>
    if e == 'e' || e == 'E' then
      let sign := (rest.take 1).filter fun c => c == '+' || c == '-'
      (readDigits (rest.drop sign.length)).map fun (digits, rest) => (e :: sign ++ digits, rest)
    else .ok ([], cs)
  | [] => .ok ([], cs)

/-- **A number.** No name and no point may follow it directly. -/
def readNumber (cs : List Char) : Except Stop (Token × List Char) := do
  let sign := (cs.take 1).filter (· == '-')
  let (whole, rest) ← readWhole (cs.drop sign.length)
  let (fraction, rest) ← readFraction rest
  let (exponent, rest) ← readExponent rest
  if rest.head?.any fun c => c == '.' || isNameStart c then .error ⟨rest⟩
  let text := String.ofList (sign ++ whole ++ fraction ++ exponent)
  return (if fraction.isEmpty && exponent.isEmpty then .int text else .float text, rest)

/-! ### Strings -/

/-- The value of a hexadecimal digit. -/
def hexValue? (c : Char) : Option Nat :=
  if c.isDigit then some (c.toNat - 48)
  else if 'a' ≤ c && c ≤ 'f' then some (c.toNat - 87)
  else if 'A' ≤ c && c ≤ 'F' then some (c.toNat - 55)
  else none

/-- Whether a number is a character and not half of a pair. -/
def isScalarValue (n : Nat) : Bool := n ≤ 0xd7ff || (0xe000 ≤ n && n ≤ 0x10ffff)

/-- The number of four hexadecimal digits. -/
def readFour (escape : List Char) (cs : List Char) : Except Stop (Nat × List Char) :=
  match cs with
  | a :: b :: c :: d :: rest =>
    match [a, b, c, d].mapM hexValue? with
    | some digits => .ok (digits.foldl (fun n digit => n * 16 + digit) 0, rest)
    | none => .error ⟨escape⟩
  | _ => .error ⟨escape⟩

/-- **An escape of four digits** after its letter, or of two times four for the halves of a pair.
`escape` is the text from the backslash on. -/
def readFixedEscape (escape cs : List Char) : Except Stop (Char × List Char) := do
  let (code, rest) ← readFour escape cs
  if isScalarValue code then return (Char.ofNat code, rest)
  else if code ≤ 0xdbff then
    match rest with
    | '\\' :: 'u' :: more => do
      let (low, last) ← readFour escape more
      if 0xdc00 ≤ low && low ≤ 0xdfff then
        return (Char.ofNat (0x10000 + (code - 0xd800) * 0x400 + (low - 0xdc00)), last)
      else .error ⟨escape⟩
    | _ => .error ⟨escape⟩
  else .error ⟨escape⟩

/-- The digits of an escape in braces, at most eight, up to the closing brace. -/
def readBraced? : (room : Nat) → (code : Nat) → List Char → Option (Nat × List Char)
  | 0, _, _ => none
  | _, _, [] => none
  | room + 1, code, c :: rest =>
    if c == '\x7d' then some (code, rest)
    else (hexValue? c).bind fun digit => readBraced? room (code * 16 + digit) rest

/-- **An escape in braces** after its opening brace. -/
def readBracedEscape (escape cs : List Char) : Except Stop (Char × List Char) :=
  match readBraced? 9 0 cs with
  | some (code, rest) =>
    if cs.head? != some '\x7d' && isScalarValue code then .ok (Char.ofNat code, rest)
    else .error ⟨escape⟩
  | none => .error ⟨escape⟩

/-- The character that an escape letter stands for. -/
def escapeLetter? (c : Char) : Option Char :=
  match c with
  | '"' => some '"'
  | '/' => some '/'
  | '\\' => some '\\'
  | 'b' => some '\x08'
  | 'f' => some '\x0c'
  | 'n' => some '\n'
  | 'r' => some '\r'
  | 't' => some '\t'
  | _ => none

/-- An escape, whose backslash stands here. One that is cut off by the end of the text is wrong
where it starts. -/
def readEscape (escape : List Char) : Except Stop (Char × List Char) :=
  match escape.tail with
  | [] => .error ⟨escape⟩
  | 'u' :: '\x7b' :: rest => readBracedEscape escape rest
  | 'u' :: rest => readFixedEscape escape rest
  | c :: rest =>
    match escapeLetter? c with
    | some meant => .ok (meant, rest)
    | none => .error ⟨escape⟩

/-- **The characters of a string** up to its closing quote; `seen` are those before, last first. -/
def readString : (bound : Nat) → (seen : List Char) → List Char → Except Stop (Token × List Char)
  | 0, _, cs => .error ⟨cs⟩
  | bound + 1, seen, cs =>
    match cs with
    | [] => .error ⟨cs⟩
    | '"' :: rest => .ok (.string (String.ofList seen.reverse), rest)
    | '\\' :: _ => do
      let (c, rest) ← readEscape cs
      readString bound (c :: seen) rest
    | c :: rest =>
      if c == '\n' || c == '\r' then .error ⟨cs⟩ else readString bound (c :: seen) rest

/-- **The lines of a block string** up to its closing quotes; `line` is the current one, last
character first, and `lines` are those before, last first. -/
def readBlock (lines : List (List Char)) (line : List Char) :
    List Char → Except Stop (Token × List Char)
  | '"' :: '"' :: '"' :: rest =>
    .ok (.blockString (String.ofList (BlockString.value (line.reverse :: lines).reverse)), rest)
  | '\\' :: '"' :: '"' :: '"' :: rest => readBlock lines ('"' :: '"' :: '"' :: line) rest
  | '\r' :: '\n' :: rest => readBlock (line.reverse :: lines) [] rest
  | '\r' :: rest => readBlock (line.reverse :: lines) [] rest
  | '\n' :: rest => readBlock (line.reverse :: lines) [] rest
  | c :: rest => readBlock lines (c :: line) rest
  | [] => .error ⟨[]⟩

/-! ### Tokens -/

/-- Whether a character means nothing between tokens. -/
def isIgnored (c : Char) : Bool :=
  c == ' ' || c == '\t' || c == ',' || c == '\ufeff' || c == '\n' || c == '\r'

/-- **What means nothing between tokens** is skipped: blanks, commas, line breaks, and comments up
to the end of their lines. -/
def skipIgnored (inComment : Bool) : List Char → List Char
  | [] => []
  | c :: rest =>
    if inComment then skipIgnored (!(c == '\n' || c == '\r')) rest
    else if c == '#' then skipIgnored true rest
    else if isIgnored c then skipIgnored false rest
    else c :: rest

/-- The token of one character. -/
def punctuator? (c : Char) : Option Token :=
  match c with
  | '!' => some .bang
  | '$' => some .dollar
  | '&' => some .amp
  | '(' => some .parenOpen
  | ')' => some .parenClose
  | ':' => some .colon
  | '=' => some .equals
  | '@' => some .atSign
  | '[' => some .bracketOpen
  | ']' => some .bracketClose
  | '\x7b' => some .braceOpen
  | '|' => some .pipe
  | '\x7d' => some .braceClose
  | _ => none

/-- **The token that starts with the first character**, and the text after it. -/
def readToken (cs : List Char) : Except Stop (Token × List Char) :=
  match cs with
  | [] => .ok (.eof, [])
  | '"' :: '"' :: '"' :: rest => readBlock [] [] rest
  | '"' :: rest => readString (rest.length + 1) [] rest
  | '.' :: '.' :: '.' :: rest => .ok (.spread, rest)
  | c :: rest =>
    match punctuator? c with
    | some token => .ok (token, rest)
    | none =>
      if c.isDigit || c == '-' then readNumber cs
      else if isNameStart c then
        .ok (.name (String.ofList (cs.takeWhile isNameChar)), cs.dropWhile isNameChar)
      else .error ⟨cs⟩

/-- A text as tokens: the lexemes up to the end of the text or to the fault that follows them. -/
structure Lexed where
  /-- The lexemes. -/
  lexemes : List Lexeme
  /-- The fault after them, if the text does not end there. -/
  stop : Option Stop

/-- The lexemes from here on. -/
def lexFrom : (bound : Nat) → List Char → Lexed
  | 0, _ => ⟨[], none⟩
  | bound + 1, cs =>
    let here := skipIgnored false cs
    match readToken here with
    | .error stop => ⟨[], some stop⟩
    | .ok (.eof, _) => ⟨[⟨.eof, here⟩], none⟩
    | .ok (token, rest) =>
      let more := lexFrom bound rest
      ⟨⟨token, here⟩ :: more.lexemes, more.stop⟩

/-- **A text as tokens.** -/
def lex (cs : List Char) : Lexed := lexFrom (cs.length + 1) cs

end OperationCatalog.GraphQL
