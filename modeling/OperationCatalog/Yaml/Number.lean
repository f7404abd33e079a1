import OperationCatalog.Decimal.Digits
import OperationCatalog.Value.Basic
import OperationCatalog.Yaml.Fault

/-!
# Numbers and timestamps of YAML

A plain scalar is a number when its text has the shape of one, and the shapes are the
notation's own: integers to four bases, integers and fractions to base sixty, and three
names for what is no number. What the text then means is a separate question, because a
tag can claim that any text is a number. The `looksLike…` predicates are the shapes, and
the `read…` functions are the meanings, which fail on a text whose tag promised too
much.
-/

namespace OperationCatalog.Yaml.Number

/-! ### Shapes -/

/-- Whether a character is a digit or the underscore that may separate digits. -/
def isDigitOrGap (c : Char) : Bool := c.isDigit || c == '_'

/-- The text without a sign in front. -/
def unsigned : List Char → List Char
  | '+' :: rest => rest
  | '-' :: rest => rest
  | rest => rest

/-- The text without a line break at its very end. -/
def chomped (s : List Char) : List Char :=
  if s.getLast? == some '\n' then s.dropLast else s

/-- Whether a text is a part of a number to base sixty: one digit, or two of which the first is
at most five. -/
def isSexagesimalPart (s : List Char) : Bool :=
  match s with
  | [d] => d.isDigit
  | [t, d] => '0' ≤ t && t ≤ '5' && d.isDigit
  | _ => false

/-- The parts of a text between colons. -/
def colonParts (s : List Char) : List (List Char) := s.splitOn ':'

/-- Whether a text is digits to base sixty after a first part in a class. -/
def isSexagesimal (first : List Char → Bool) (s : List Char) : Bool :=
  match colonParts s with
  | head :: part :: parts => first head && (part :: parts).all isSexagesimalPart
  | _ => false

/-- Whether a text is a positive decimal, perhaps with gaps. -/
def isGapped (s : List Char) : Bool :=
  s.head?.any Char.isDigit && s.all isDigitOrGap

/-- Whether a text is a decimal without a zero in front, perhaps with gaps. -/
def isPlainDecimal (s : List Char) : Bool :=
  s.head?.any (fun c => '1' ≤ c && c ≤ '9') && s.all isDigitOrGap

/-- Whether a text is at least one character, all of a class. -/
def isRun (p : Char → Bool) (s : List Char) : Bool := !s.isEmpty && s.all p

/-- **The shape of an integer.** -/
def looksLikeInt (s : List Char) : Bool :=
  let s := unsigned s
  (match s with
    | '0' :: 'b' :: digits => isRun (fun c => c == '0' || c == '1' || c == '_') digits
    | '0' :: 'x' :: digits =>
      isRun (fun c => c.isDigit || ('a' ≤ c && c ≤ 'f') || ('A' ≤ c && c ≤ 'F') || c == '_') digits
    | '0' :: digits => digits.all fun c => ('0' ≤ c && c ≤ '7') || c == '_'
    | _ => isPlainDecimal s) ||
  isSexagesimal isPlainDecimal s

/-- Whether a text is the exponent of a fraction, or nothing: a sign must stand in it. -/
def isExponent (s : List Char) : Bool :=
  match s with
  | [] => true
  | e :: sign :: digits =>
    (e == 'e' || e == 'E') && (sign == '+' || sign == '-') && isRun Char.isDigit digits
  | _ => false

/-- **The shape of a fraction.** -/
def looksLikeFloat (s : List Char) : Bool :=
  let t := unsigned s
  let whole := t.takeWhile isDigitOrGap
  let ordinary := match t.drop whole.length with
    | '.' :: rest => isGapped whole && isExponent (rest.dropWhile isDigitOrGap)
    | _ => false
  let headless := match s with
    | '.' :: rest => rest.head?.any Char.isDigit && isExponent (rest.dropWhile isDigitOrGap)
    | _ => false
  let sexagesimal :=
    let before := t.takeWhile (· != '.')
    match t.drop before.length with
    | '.' :: rest => isSexagesimal isGapped before && rest.all isDigitOrGap
    | _ => false
  ordinary || headless || sexagesimal ||
    [".inf", ".Inf", ".INF"].any (·.toList == t) || [".nan", ".NaN", ".NAN"].any (·.toList == s)

/-! ### Meanings -/

/-- Whether a character is white space around a number. -/
def isSpace (c : Char) : Bool :=
  ('\t' ≤ c && c ≤ '\r') || c == ' ' || c == '\u0085' || c == '\u00a0' ||
    c == '\u1680' || ('\u2000' ≤ c && c ≤ '\u200a') || c == '\u2028' || c == '\u2029' ||
    c == '\u202f' || c == '\u205f' || c == '\u3000'

/-- A text without white space around it. -/
def trimmed (s : List Char) : List Char :=
  ((s.dropWhile isSpace).reverse.dropWhile isSpace).reverse

/-- The value of a digit to any base up to thirty-six. -/
def digitValue? (c : Char) : Option Nat :=
  if c.isDigit then some (c.toNat - 48)
  else if 'a' ≤ c && c ≤ 'z' then some (c.toNat - 87)
  else if 'A' ≤ c && c ≤ 'Z' then some (c.toNat - 55)
  else none

/-- The natural number of at least one digit to a base. -/
def readNat? (base : Nat) (digits : List Char) : Option Nat :=
  if digits.isEmpty then none
  else digits.foldlM
    (fun n c => (digitValue? c).bind fun d => if d < base then some (n * base + d) else none) 0

/-- The letters that may stand after a zero in front of digits to a base. -/
def baseLetters (base : Nat) : List Char :=
  if base = 2 then ['b', 'B'] else if base = 8 then ['o', 'O'] else if base = 16 then ['x', 'X']
  else []

/-- **An integer to a base**, with a sign and white space around it, in digits of any script. A
decimal one has at most as many digits as are ever written. -/
def readSigned (base : Nat) (s : List Char) : Except Fault Int :=
  let s := trimmed (Decimal.plainDigits s)
  let negative := s.head? == some '-'
  let digits := match unsigned s with
    | '0' :: letter :: rest => if (baseLetters base).contains letter then rest else unsigned s
    | rest => rest
  if base = 10 && Decimal.maxDigits < digits.length then .error .badNumber
  else match readNat? base digits with
    | some n => .ok (Binary64.signed negative n)
    | none => .error .badNumber

/-- The value of digits to base sixty, the first part first. -/
def sexagesimal (parts : List Int) : Int := parts.foldl (fun n part => n * 60 + part) 0

/-- **The integer that a text means.** -/
def readInt (text : List Char) : Except Fault Int :=
  let s := text.filter (· != '_')
  match s with
  | [] => .error .emptyNumber
  | first :: _ =>
    let sign : Int := if first == '-' then -1 else 1
    let magnitude : Except Fault Int := match unsigned s with
      | [] => .error .emptyNumber
      | ['0'] => .ok 0
      | '0' :: 'b' :: digits => readSigned 2 digits
      | '0' :: 'x' :: digits => readSigned 16 digits
      | '0' :: digits => readSigned 8 ('0' :: digits)
      | digits =>
        if digits.contains ':' then (colonParts digits).mapM (readSigned 10) |>.map sexagesimal
        else readSigned 10 digits
    magnitude.map (sign * ·)

/-- The exponent of a decimal, or nothing. -/
def readExponent? (s : List Char) : Option Int :=
  match s with
  | [] => some 0
  | e :: rest =>
    if e == 'e' then
      (readNat? 10 (unsigned rest)).map (Binary64.signed (rest.head? == some '-'))
    else none

/-- **A decimal fraction**, with a sign and white space around it and in digits of any script, or
a name of what is no number. -/
def readDecimal (s : List Char) : Except Fault Binary64 :=
  let s := trimmed (Decimal.plainDigits s)
  let negative := s.head? == some '-'
  let t := unsigned s
  if ["inf".toList, "infinity".toList].contains t then .ok (.infinite negative)
  else if t == "nan".toList then .ok .nan
  else
    let whole := t.takeWhile Char.isDigit
    let rest := t.drop whole.length
    let (fraction, rest) := match rest with
      | '.' :: more => (more.takeWhile Char.isDigit, more.dropWhile Char.isDigit)
      | _ => ([], rest)
    match readNat? 10 (whole ++ fraction), readExponent? rest with
    | some digits, some exponent => .ok (.ofDecimal negative digits (exponent - fraction.length))
    | _, _ => .error .badNumber

/-- The value of fractions to base sixty, the last part first, rounded at each step; `weight` is
the value of the next part's unit, which must be in the range of fractions. -/
def sexagesimalFraction (weight : Nat) (total : Binary64) :
    List Binary64 → Except Fault Binary64
  | [] => .ok total
  | part :: parts =>
    let unit := Binary64.ofRatio false weight 1
    if unit.content == .infinite false then .error .outOfRange
    else sexagesimalFraction (weight * 60) (total.add (part.mul unit)) parts

/-- The lower-case form of an ASCII letter. -/
def lowered (s : List Char) : List Char := s.map Char.toLower

/-- The text of a fraction without what does not count: gaps and case. -/
def plainFraction (text : List Char) : List Char := lowered (text.filter (· != '_'))

/-- Whether a text is the notation's own name for what is no number. -/
def isNamedNaN (text : List Char) : Bool := unsigned (plainFraction text) == ".nan".toList

/-- **The fraction that a text means.** -/
def readFloat (text : List Char) : Except Fault Binary64 :=
  let s := plainFraction text
  match s with
  | [] => .error .emptyNumber
  | first :: _ =>
    let t := unsigned s
    let magnitude : Except Fault Binary64 :=
      if t == ".inf".toList then .ok (.infinite false)
      else if t == ".nan".toList then .ok .nan
      else if t.contains ':' then
        (colonParts t).mapM readDecimal >>= fun parts =>
          sexagesimalFraction 1 (.zero false) parts.reverse
      else readDecimal t
    magnitude.map fun x => if first == '-' && !x.isNaN then x.neg else x

/-! ### Timestamps -/

/-- The parts of a timestamp as they are written. -/
structure TimestampText where
  /-- Year, month and day. -/
  date : Nat × Nat × Nat
  /-- Whether month and day have two digits each. -/
  fullDate : Bool
  /-- Hour, minute and second. -/
  time : Option (Nat × Nat × Nat) := none
  /-- The digits of the fraction of a second. -/
  fraction : List Char := []
  /-- Minutes east of universal time. -/
  offset : Option Int := none

/-- A number of at least `least` and at most `most` digits, how many it has, and what follows. -/
def digitsBetween? (least most : Nat) (s : List Char) : Option (Nat × Nat × List Char) :=
  let digits := (s.takeWhile Char.isDigit).take most
  if digits.length < least then none
  else (readNat? 10 digits).map (·, digits.length, s.drop digits.length)

/-- What follows a character. -/
def after? (c : Char) : List Char → Option (List Char)
  | [] => none
  | d :: rest => if c == d then some rest else none

/-- Whether a character is a blank or a tab. -/
def isGap (c : Char) : Bool := c == ' ' || c == '\t'

/-- The offset at the end of a timestamp: nothing, universal time, or hours and minutes. -/
def readOffset? (s : List Char) : Option (Option Int) :=
  if s.isEmpty then some none
  else match s.dropWhile isGap with
    | ['Z'] => some (some 0)
    | sign :: rest =>
      if sign == '+' || sign == '-' then do
        let (hours, _, rest) ← digitsBetween? 1 2 rest
        let minutes ← match rest with
          | [] => some 0
          | _ => do
            let (m, _, rest) ← (after? ':' rest).bind (digitsBetween? 2 2)
            if rest.isEmpty then some m else none
        return some (Binary64.signed (sign == '-') (hours * 60 + minutes))
      else none
    | [] => none

/-- The time of day after a date. -/
def readTime? (date : TimestampText) (s : List Char) : Option TimestampText := do
  let s ← match s with
    | c :: rest =>
      if c == 'T' || c == 't' then some rest
      else if isGap c then some (rest.dropWhile isGap)
      else none
    | [] => none
  let (hour, _, s) ← digitsBetween? 1 2 s
  let (minute, _, s) ← (after? ':' s).bind (digitsBetween? 2 2)
  let (second, _, s) ← (after? ':' s).bind (digitsBetween? 2 2)
  let (fraction, s) := match s with
    | '.' :: rest => (rest.takeWhile Char.isDigit, rest.dropWhile Char.isDigit)
    | _ => ([], s)
  let offset ← readOffset? s
  return { date with time := some (hour, minute, second), fraction, offset }

/-- **The parts of a timestamp.** -/
def timestampText? (s : List Char) : Option TimestampText := do
  let (year, _, s) ← digitsBetween? 4 4 s
  let (month, m, s) ← (after? '-' s).bind (digitsBetween? 1 2)
  let (day, d, s) ← (after? '-' s).bind (digitsBetween? 1 2)
  let date : TimestampText := { date := (year, month, day), fullDate := m = 2 && d = 2 }
  if s.isEmpty then return date else readTime? date s

/-- **The shape of a timestamp**: without a time of day, month and day have two digits. -/
def looksLikeTimestamp (s : List Char) : Bool :=
  (timestampText? s).any fun t => t.time.isSome || t.fullDate

/-- A fraction of a second in millionths: six digits, cut or filled with zeros. -/
def microseconds (fraction : List Char) : Nat :=
  let digits := fraction.take 6
  (readNat? 10 (digits ++ List.replicate (6 - digits.length) '0')).getD 0

/-- **The date or instant that a text means.** -/
def readTimestamp (text : List Char) : Except Fault Scalar :=
  match timestampText? (chomped text) with
  | none => .error .badTimestamp
  | some t =>
    let (year, month, day) := t.date
    match CalendarDate.ofParts? year month day, t.time with
    | none, _ => .error .badNumber
    | some date, none => .ok (.date date)
    | some date, some (hour, minute, second) =>
      match Instant.ofParts? date hour minute second (microseconds t.fraction) t.offset with
      | some instant => .ok (.instant instant)
      | none => .error .badNumber

end OperationCatalog.Yaml.Number
