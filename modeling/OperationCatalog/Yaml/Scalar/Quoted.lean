import OperationCatalog.Yaml.Scalar.Plain

/-!
# Quoted scalars

Between single quotes a quote is written twice and nothing else is special. Between
double quotes a backslash begins an escape: a letter for a control character, a
numbered character, or a line break that is dropped. In both, blanks around a line break are
dropped and the break is folded as in plain scalars, and a document mark at the start
of a line is a fault, for the closing quote was forgotten before it.
-/

namespace OperationCatalog.Yaml.Quoted

/-- The characters that escape letters stand for. -/
def escapes : List (Char × Char) :=
  [('0', '\x00'), ('a', '\x07'), ('b', '\x08'), ('t', '\t'), ('\t', '\t'), ('n', '\n'),
    ('v', '\x0b'), ('f', '\x0c'), ('r', '\r'), ('e', '\x1b'), (' ', ' '), ('"', '"'),
    ('\\', '\\'), ('/', '/'), ('N', '\u0085'), ('_', '\u00a0'), ('L', '\u2028'), ('P', '\u2029')]

/-- The number of digits after the letters of numeric escapes. -/
def numericWidth? (c : Char) : Option Nat :=
  if c == 'x' then some 2 else if c == 'u' then some 4 else if c == 'U' then some 8 else none

/-- The value of a hexadecimal digit. -/
def hexValue? (c : Char) : Option Nat :=
  if c.isDigit then some (c.toNat - 48)
  else if 'a' ≤ c && c ≤ 'f' then some (c.toNat - 87)
  else if 'A' ≤ c && c ≤ 'F' then some (c.toNat - 55)
  else none

/-- The number of hexadecimal digits. -/
def hexNumber? (digits : List Char) : Option Nat :=
  digits.foldlM (fun n c => (hexValue? c).map (n * 16 + ·)) 0

/-- **The character with a code.** Codes beyond all characters are faults of two kinds, as they
do or do not fit thirty-one bits; the codes of halves of pairs are replaced. -/
def charOfCode (code : Nat) : Except Fault Char :=
  if 0x7fffffff < code then .error .outOfRange
  else if 0x10ffff < code then .error .badNumber
  else if 0xd800 ≤ code && code ≤ 0xdfff then .ok '\ufffd'
  else .ok (Char.ofNat code)

/-- The breaks of the empty lines that stand here, and the cursor at the next character. -/
def emptyLines : (bound : Nat) → Cursor → Except Fault (List Char × Cursor)
  | 0, c => .ok ([], c)
  | bound + 1, c =>
    if c.atDocumentMark then .error .malformed
    else
      let c := c.skipWhile isBlank
      match c.lineBreak? with
      | none => .ok ([], c)
      | some (ch, after) => do
        let (breaks, last) ← emptyLines bound after
        return (ch :: breaks, last)

/-- **Blanks inside a scalar**, with the line breaks among them folded. -/
def blanks (c : Cursor) : Except Fault (List Char × Cursor) :=
  let (run, after) := c.span isBlank
  if after.atEnd then .error .malformed
  else match after.lineBreak? with
    | none => .ok (run, after)
    | some (first, start) => do
      let (breaks, last) ← emptyLines (start.rest.length + 1) start
      return (Plain.foldBreaks first breaks, last)

/-- **An escape** after its backslash. -/
def escape (c : Cursor) : Except Fault (List Char × Cursor) :=
  match c.rest with
  | [] => .error .malformed
  | ch :: rest =>
    match escapes.lookup ch with
    | some meant => .ok ([meant], c.next)
    | none =>
      match numericWidth? ch with
      | some width =>
        let digits := rest.take width
        match hexNumber? digits with
        | some code =>
          if digits.length < width then .error .malformed
          else do
            let meant ← charOfCode code
            return ([meant], c.skip (width + 1))
        | none => .error .malformed
      | none =>
        if isBreak ch then emptyLines (c.rest.length + 1) c.skipBreak
        else .error .malformed

/-- Whether a character stands for itself in either kind of quotes. -/
def isOrdinary (c : Char) : Bool :=
  !(c == '\'' || c == '"' || c == '\\' || isSeparator c)

/-- **The characters of a scalar** up to and including its closing quote. -/
def content (double : Bool) : (bound : Nat) → Cursor → Except Fault (List Char × Cursor)
  | 0, _ => .error .malformed
  | bound + 1, c =>
    let continueAfter (text : List Char) (after : Cursor) : Except Fault (List Char × Cursor) := do
      let (more, last) ← content double bound after
      return (text ++ more, last)
    match c.rest with
    | [] => .error .malformed
    | '\'' :: rest =>
      if double then continueAfter ['\''] c.next
      else if rest.head? == some '\'' then continueAfter ['\''] (c.skip 2)
      else .ok ([], c.next)
    | '"' :: _ =>
      if double then .ok ([], c.next) else continueAfter ['"'] c.next
    | '\\' :: _ =>
      if double then do
        let (meant, after) ← escape c.next
        continueAfter meant after
      else continueAfter ['\\'] c.next
    | ch :: _ =>
      if isSeparator ch then do
        let (run, after) ← blanks c
        continueAfter run after
      else
        let (run, after) := c.span isOrdinary
        continueAfter run after

/-- **A quoted scalar** whose opening quote stands here. -/
def scan (double : Bool) (c : Cursor) : Except Fault (List Char × Cursor) :=
  content double (c.rest.length + 1) c.next

end OperationCatalog.Yaml.Quoted
