import OperationCatalog.Decimal.Digits

/-!
# Expressions without names

A small notation for constants: numbers, texts and bytes between quotes, three words for truth and
nothing, and tuples, sets and mappings of those. A sign may stand before a number, and a number
may be the sum of a real and an imaginary part; there are no other operations.

`OperationCatalog.Text.Expression.isConstant` decides whether a text is such an expression.
What can be a member of a set or a key of a mapping must not change, so an expression has a sort
(`OperationCatalog.Text.Expression.Constant`) that says whether it does.
-/

namespace OperationCatalog.Text.Expression

/-- What sort of constant an expression is. -/
inductive Constant where
  /-- A real number without a sign. -/
  | real
  /-- An imaginary number without a sign. -/
  | imaginary
  /-- A real number with a sign. -/
  | signedReal
  /-- An imaginary number with a sign. -/
  | signedImaginary
  /-- Anything else, which may be fixed or not. -/
  | other (fixed : Bool)
  deriving DecidableEq

/-- Whether a constant can be a member of a set. -/
def Constant.isFixed : Constant → Bool
  | other fixed => fixed
  | _ => true

/-- What is read of the start of a text, and what is left of it. -/
abbrev Parsed (α : Type) := α × List Char

/-- Whether a character can be in a word. -/
def isWordChar (c : Char) : Bool := c.isAlphanum || c == '_' || '\x7f' < c

/-- The text after blanks; inside brackets, line breaks are blanks too. -/
def skip (nested : Bool) (s : List Char) : List Char :=
  s.dropWhile fun c => c == ' ' || c == '\t' || c == '\x0c' || (nested && (c == '\n' || c == '\r'))

/-! ### Numbers -/

/-- Whether a character is a hexadecimal digit. -/
def isHexDigit (c : Char) : Bool := c.isDigit || ('a' ≤ c.toLower && c.toLower ≤ 'f')

/-- Whether a text is digits with single underscores between them. -/
def isDigits (isDigit : Char → Bool) (s : List Char) : Bool :=
  (s.splitOn '_').all fun part => !part.isEmpty && part.all isDigit

/-- Whether a text is an integer: to a base that two characters state, or decimal without a zero in
front. -/
def isInteger (s : List Char) : Bool :=
  let based (isDigit : Char → Bool) (rest : List Char) :=
    isDigits isDigit (if rest.head? == some '_' then rest.tail else rest)
  match s.map Char.toLower with
  | '0' :: 'x' :: rest => based isHexDigit rest
  | '0' :: 'o' :: rest => based (fun c => '0' ≤ c && c ≤ '7') rest
  | '0' :: 'b' :: rest => based (fun c => c == '0' || c == '1') rest
  | '0' :: rest => isDigits (· == '0') ('0' :: rest)
  | digits => isDigits Char.isDigit digits

/-- Whether a text is a decimal with a point or an exponent, or – for imaginary numbers – without
either. -/
def isDecimal (plain : Bool) (s : List Char) : Bool :=
  let mantissa := s.takeWhile fun c => c.toLower != 'e'
  let exponent := s.drop mantissa.length
  let exponentFits := match exponent with
    | [] => true
    | _ :: '+' :: digits | _ :: '-' :: digits | _ :: digits => isDigits Char.isDigit digits
  let optional (digits : List Char) := digits.isEmpty || isDigits Char.isDigit digits
  exponentFits &&
    match mantissa.splitOn '.' with
    | [whole] => isDigits Char.isDigit whole && (plain || !exponent.isEmpty)
    | [whole, fraction] =>
      optional whole && optional fraction && !(whole.isEmpty && fraction.isEmpty)
    | _ => false

/-- The characters of a number that stand at the start of a text: a sign belongs to it after the
letter of an exponent. -/
def numberChars : (exponent : Bool) → List Char → List Char
  | _, [] => []
  | exponent, c :: rest =>
    if isWordChar c || c == '.' then c :: numberChars (c == 'e' || c == 'E') rest
    else if exponent && (c == '+' || c == '-') then c :: numberChars false rest
    else []

/-- **A number.** -/
def number (s : List Char) : Option (Parsed Constant) :=
  let isBased := match s with
    | '0' :: base :: _ => "xXoObB".toList.contains base
    | _ => false
  let chars := if isBased then s.takeWhile isWordChar else numberChars false s
  let rest := s.drop chars.length
  if isInteger chars || isDecimal false chars then some (.real, rest)
  else
    match chars.getLast? with
    | some last =>
      if last.toLower == 'j' && isDecimal true chars.dropLast then some (.imaginary, rest) else none
    | none => none

/-! ### Texts -/

/-- What is special about a text: whether it is bytes, and whether backslashes are ordinary. -/
structure Kind where
  /-- Whether it is bytes. -/
  bytes : Bool
  /-- Whether backslashes are ordinary. -/
  raw : Bool

/-- The kinds of text, by the letters before the quote. -/
def kinds : List (String × Kind) :=
  [("", ⟨false, false⟩), ("u", ⟨false, false⟩), ("r", ⟨false, true⟩), ("b", ⟨true, false⟩),
    ("br", ⟨true, true⟩), ("rb", ⟨true, true⟩)]

/-- The text after some hexadecimal digits. -/
def afterHex (count : Nat) (s : List Char) : Option (List Char) :=
  if (s.take count).length = count && (s.take count).all isHexDigit then some (s.drop count)
  else none

/-- The text after what follows a backslash. -/
def afterEscape (kind : Kind) (c : Char) (rest : List Char) : Option (List Char) :=
  if kind.raw then some rest
  else if c == 'x' then afterHex 2 rest
  else if kind.bytes then some rest
  else if c == 'u' then afterHex 4 rest
  else if c == 'U' then
    (afterHex 8 rest).filter fun _ =>
      rest.take 3 == ['0', '0', '0'] || rest.take 4 == ['0', '0', '1', '0']
  else some rest

/-- The text after the closing quotes. -/
def afterText (kind : Kind) (quote : Char) (triple : Bool) :
    (bound : Nat) → List Char → Option (List Char)
  | 0, _ => none
  | _, [] => none
  | bound + 1, c :: rest =>
    if c == '\\' then
      match rest with
      | [] => none
      | d :: more => (afterEscape kind d more).bind (afterText kind quote triple bound)
    else if c == quote then
      if !triple then some rest
      else if rest.take 2 == [quote, quote] then some (rest.drop 2)
      else afterText kind quote triple bound rest
    else if (!triple && c == '\n') || (kind.bytes && '\x7f' < c) then none
    else afterText kind quote triple bound rest

/-- The kind of one text, and what follows it. -/
def oneText (s : List Char) : Option (Parsed Kind) :=
  let letters := s.takeWhile Char.isAlpha
  match kinds.lookup (String.ofList (letters.map Char.toLower)), s.drop letters.length with
  | some kind, quote :: rest =>
    if quote == '\'' || quote == '"' then
      let triple := rest.take 2 == [quote, quote]
      (afterText kind quote triple (rest.length + 1) (if triple then rest.drop 2 else rest)).map
        (kind, ·)
    else none
  | _, _ => none

/-- **Texts one after the other**, which are one text: all of them are bytes or none. -/
def texts (nested : Bool) : (bound : Nat) → List Char → Option (Parsed Constant)
  | 0, _ => none
  | bound + 1, s =>
    (oneText s).bind fun (kind, rest) =>
      match oneText (skip nested rest) with
      | none => some (.other true, rest)
      | some (next, _) =>
        if next.bytes == kind.bytes then texts nested bound (skip nested rest) else none

/-! ### Expressions -/

/-- A word for a constant, or an empty set. -/
def word (nested : Bool) (s : List Char) : Option (Parsed Constant) :=
  let name := s.takeWhile isWordChar
  let rest := s.drop name.length
  if ["True", "False", "None"].contains (String.ofList name) then some (.other true, rest)
  else if name == "set".toList then
    match skip nested rest with
    | '(' :: more =>
      match skip true more with
      | ')' :: after => some (.other false, after)
      | _ => none
    | _ => none
  else none

mutual

/-- An expression without a sign. -/
def atom : (bound : Nat) → (nested : Bool) → List Char → Option (Parsed Constant)
  | 0, _, _ => none
  | bound + 1, nested, s =>
    match s with
    | '(' :: rest =>
      match skip true rest with
      | ')' :: after => some (.other true, after)
      | inside => do
        let (parts, comma, rest) ← items bound true inside
        match parts, comma, rest with
        | [one], false, ')' :: after => some (one, after)
        | parts, _, ')' :: after => some (.other (parts.all Constant.isFixed), after)
        | _, _, _ => none
    | '\x7b' :: rest =>
      match skip true rest with
      | '\x7d' :: after => some (.other false, after)
      | inside => do
        let (first, rest) ← sum bound true inside
        if !first.isFixed then none
        match skip true rest with
        | ':' :: rest => do
          let (_, rest) ← sum bound true (skip true rest)
          entries bound (skip true rest)
        | ',' :: rest => members bound (skip true rest)
        | '\x7d' :: after => some (.other false, after)
        | _ => none
    | '.' :: '.' :: '.' :: rest => some (.other true, rest)
    | c :: _ =>
      if c.isDigit || c == '.' then number s
      else (texts nested (s.length + 1) s).orElse fun _ => word nested s
    | [] => none

/-- An expression that may have a sign. -/
def signed : (bound : Nat) → (nested : Bool) → List Char → Option (Parsed Constant)
  | 0, _, _ => none
  | bound + 1, nested, s =>
    match s with
    | '+' :: rest | '-' :: rest => do
      match ← atom bound nested (skip nested rest) with
      | (.real, rest) => some (.signedReal, rest)
      | (.imaginary, rest) => some (.signedImaginary, rest)
      | _ => none
    | _ => atom bound nested s

/-- **One expression**: a constant, or the sum of a real and an imaginary number. -/
def sum : (bound : Nat) → (nested : Bool) → List Char → Option (Parsed Constant)
  | 0, _, _ => none
  | bound + 1, nested, s => do
    let (left, rest) ← signed bound nested s
    match skip nested rest with
    | '+' :: more | '-' :: more => do
      let (right, rest) ← atom bound nested (skip nested more)
      if [.real, .signedReal].contains left && right == .imaginary then some (.other true, rest)
      else none
    | _ => some (left, rest)

/-- Expressions with commas between them, whether a comma comes last, and what follows. -/
def items : (bound : Nat) → (nested : Bool) → List Char →
    Option (List Constant × Parsed Bool)
  | 0, _, _ => none
  | bound + 1, nested, s => do
    let (first, rest) ← sum bound nested s
    match skip nested rest with
    | ',' :: more =>
      let more := skip nested more
      match items bound nested more with
      | some (others, _, rest) => some (first :: others, true, rest)
      | none => some ([first], true, more)
    | rest => some ([first], false, rest)

/-- The members of a set after the first, up to its end. -/
def members : (bound : Nat) → List Char → Option (Parsed Constant)
  | 0, _ => none
  | _, '\x7d' :: after => some (.other false, after)
  | bound + 1, s => do
    let (member, rest) ← sum bound true s
    if !member.isFixed then none
    match skip true rest with
    | ',' :: rest => members bound (skip true rest)
    | '\x7d' :: after => some (.other false, after)
    | _ => none

/-- The entries of a mapping after the first, up to its end. -/
def entries : (bound : Nat) → List Char → Option (Parsed Constant)
  | 0, _ => none
  | _, '\x7d' :: after => some (.other false, after)
  | bound + 1, s =>
    match s with
    | ',' :: rest =>
      match skip true rest with
      | '\x7d' :: after => some (.other false, after)
      | inside => do
        let (key, rest) ← sum bound true inside
        if !key.isFixed then none
        match skip true rest with
        | ':' :: rest => do
          let (_, rest) ← sum bound true (skip true rest)
          entries bound (skip true rest)
        | _ => none
    | _ => none

end

/-- **Whether a text is an expression without names**, or several with commas between them. -/
def isConstant (s : List Char) : Bool :=
  match items (8 * s.length + 8) false (s.dropWhile fun c => c == ' ' || c == '\t') with
  | some (_, _, rest) => (skip true rest).isEmpty
  | none => false

end OperationCatalog.Text.Expression
