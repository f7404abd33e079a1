import OperationCatalog.Decimal.Binary64

/-!
# The shortest decimal that reads back

A floating-point number is written with as few digits as identify it. The numbers
that round to a word form an interval around it, which includes its ends exactly
when the word's integer is even; the text of the word is the point of that interval
with the fewest digits, and of several of that length the nearest.

`OperationCatalog.Decimal.shortest` finds it by testing, on the decimal grids of one to
seventeen digits, the two grid points next to the number. If any point of a grid
lies in the interval then one of those two does, so the first grid with a hit has the
fewest digits, and comparing the two hits finds the nearest.

How the digits are then laid out – with a point, or with an exponent – is a
decision of the format, and is a record, `OperationCatalog.Decimal.Layout`.
-/

namespace OperationCatalog.Decimal

/-- The positive decimal `digits · 10 ^ exponent`. -/
structure Scientific where
  /-- The digits as a number. -/
  digits : Nat
  /-- The power of ten. -/
  exponent : Int
  deriving DecidableEq, Repr

/-- The positive numbers that round to one word, as naturals over a common denominator:
the number itself, the two ends, and whether the ends belong to it. -/
structure Interval where
  /-- Lower end. -/
  low : Nat
  /-- The number itself. -/
  value : Nat
  /-- Upper end. -/
  high : Nat
  /-- The common denominator. -/
  den : Nat
  /-- Whether the ends round to the word too. -/
  closed : Bool

/-- **The numbers that round to** `mantissa · 2 ^ exponent`. In quarters of the last
place: half a place up, and half a place down – a quarter at a power of two, below
which the words are twice as dense. -/
def Interval.around (mantissa : Nat) (exponent : Int) : Interval :=
  let below := if mantissa = powerOfTwo 52 && -1074 < exponent then 1 else 2
  let power := exponent - 2
  let scale := if 0 ≤ power then powerOfTwo power.toNat else 1
  { low := (4 * mantissa - below) * scale
    value := 4 * mantissa * scale
    high := (4 * mantissa + 2) * scale
    den := if 0 ≤ power then 1 else powerOfTwo (-power).toNat
    closed := mantissa % 2 = 0 }

/-- The number `digits · 10 ^ exponent` times a denominator, compared without division:
numerator on the left, and the factor for the right-hand side. -/
def Scientific.cross (s : Scientific) (den : Nat) : Nat × Nat :=
  if 0 ≤ s.exponent then (s.digits * powerOfTen s.exponent.toNat * den, 1)
  else (s.digits * den, powerOfTen (-s.exponent).toNat)

/-- Whether a decimal lies in an interval. -/
def Interval.contains (i : Interval) (s : Scientific) : Bool :=
  let (left, factor) := s.cross i.den
  if i.closed then i.low * factor ≤ left && left ≤ i.high * factor
  else i.low * factor < left && left < i.high * factor

/-- The distance of a decimal from the number, over a denominator that only depends on the
decimal's exponent. -/
def Interval.distance (i : Interval) (s : Scientific) : Nat :=
  let (left, factor) := s.cross i.den
  (left - i.value * factor) + (i.value * factor - left)

/-- The number of decimal digits of a natural, at least one. -/
def digitCount (n : Nat) : Nat := (Nat.toDigits 10 n).length

/-- The power of ten of the number's first digit: `10 ^ e ≤ value < 10 ^ (e + 1)`. -/
def Interval.leadingExponent (i : Interval) : Int :=
  let guess : Int := (digitCount i.value : Int) - digitCount i.den
  let atLeast (e : Int) : Bool :=
    if 0 ≤ e then i.den * powerOfTen e.toNat ≤ i.value
    else i.den ≤ i.value * powerOfTen (-e).toNat
  if atLeast guess then guess else guess - 1

/-- The point of the grid `10 ^ exponent` at or below the number. -/
def Interval.gridFloor (i : Interval) (exponent : Int) : Scientific :=
  if 0 ≤ exponent then ⟨i.value / (i.den * powerOfTen exponent.toNat), exponent⟩
  else ⟨i.value * powerOfTen (-exponent).toNat / i.den, exponent⟩

/-- The point of one grid that reads back, if there is one: of two the nearer, and of two
equally near ones the even. -/
def Interval.onGrid? (i : Interval) (exponent : Int) : Option Scientific :=
  let below := i.gridFloor exponent
  let above : Scientific := { below with digits := below.digits + 1 }
  match i.contains below, i.contains above with
  | true, true =>
    let down := i.distance below
    let up := i.distance above
    if down < up || (down = up && below.digits % 2 = 0) then some below else some above
  | true, false => some below
  | false, true => some above
  | false, false => none

/-- The first of `count` ever finer grids, the first of them `10 ^ exponent`, that has a
point in the interval. -/
def Interval.search (i : Interval) (exponent : Int) : (count : Nat) → Scientific
  | 0 => i.gridFloor exponent
  | count + 1 => (i.onGrid? exponent).getD (i.search (exponent - 1) count)

/-- **The shortest decimal that reads back** as `mantissa · 2 ^ exponent`, for a positive
mantissa. -/
def shortest (mantissa : Nat) (exponent : Int) : Scientific :=
  let interval := Interval.around mantissa exponent
  interval.search interval.leadingExponent 17

/-! ### Layout -/

/-- How the digits of a number become its text. -/
structure Layout where
  /-- Numbers from this power of ten on are written with a point. -/
  lowestPositional : Int
  /-- Numbers up to this power of ten are written with a point. -/
  highestPositional : Int
  /-- The text of what is not a number. -/
  nan : String
  /-- The text of the positive infinity; the negative one has a minus sign before it. -/
  infinity : String

/-- Digits with a point: at least one digit on either side. -/
def positional (digits : List Char) (leading : Int) : List Char :=
  if leading < 0 then
    '0' :: '.' :: List.replicate (-leading - 1).toNat '0' ++ digits
  else
    let whole := leading.toNat + 1
    let tail := digits.drop whole
    digits.take whole ++ List.replicate (whole - digits.length) '0' ++
      '.' :: (if tail.isEmpty then ['0'] else tail)

/-- Digits with an exponent of at least two digits; the point only stands before a digit. -/
def exponential (digits : List Char) (leading : Int) : List Char :=
  let point := match digits with
    | first :: second :: rest => first :: '.' :: second :: rest
    | short => short
  let size := Nat.toDigits 10 leading.natAbs
  point ++ ['e', if leading < 0 then '-' else '+'] ++
    List.replicate (2 - size.length) '0' ++ size

/-- **The text of a floating-point number.** -/
def Layout.write (layout : Layout) (x : Binary64) : List Char :=
  let sign (negative : Bool) : List Char := if negative then ['-'] else []
  match x.content with
  | .nan => layout.nan.toList
  | .infinite negative => sign negative ++ layout.infinity.toList
  | .finite negative 0 _ => sign negative ++ ['0', '.', '0']
  | .finite negative mantissa exponent =>
    let decimal := shortest mantissa exponent
    let all := Nat.toDigits 10 decimal.digits
    let leading := decimal.exponent + (all.length : Int) - 1
    let kept := (all.reverse.dropWhile (· == '0')).reverse
    sign negative ++
      if layout.lowestPositional ≤ leading && leading ≤ layout.highestPositional then
        positional kept leading
      else exponential kept leading

end OperationCatalog.Decimal
