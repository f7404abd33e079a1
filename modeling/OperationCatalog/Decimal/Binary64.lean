import OperationCatalog.Decimal.Power

/-!
# Binary floating point in exact arithmetic

A number with a fraction is a 64-bit word: a sign, eleven bits of exponent and
fifty-two bits of fraction. Nothing here computes with the machine's floating-point
unit; every operation is a statement about naturals.

* `OperationCatalog.Binary64.content` reads a word as what it stands for: not a number,
  an infinity, or a sign with an integer and a power of two.
* `OperationCatalog.Binary64.ofRatio` is **the nearest word to a quotient of two naturals**,
  the even one of two that are equally near. Reading a decimal
  (`OperationCatalog.Binary64.ofDecimal`), adding and multiplying are each one exact
  quotient followed by this one rounding.

Equality of words is equality of bits, so the two zeros differ and a word that is
not a number equals itself. The numeric comparison is `OperationCatalog.Binary64.exactInt?`
together with `content`.
-/

namespace OperationCatalog

/-- A 64-bit floating-point number, by its bits. -/
structure Binary64 where
  /-- Sign, exponent and fraction, from the highest bit down. -/
  bits : UInt64
  deriving DecidableEq, Repr

namespace Binary64

/-- What a word stands for. -/
inductive Content where
  /-- Not a number. -/
  | nan
  /-- An infinity, negative or not. -/
  | infinite (negative : Bool)
  /-- `mantissa · 2 ^ exponent`, with a sign. -/
  | finite (negative : Bool) (mantissa : Nat) (exponent : Int)
  deriving DecidableEq, Repr

/-- The sign bit. -/
def isNegative (x : Binary64) : Bool :=
  powerOfTwo 63 ≤ x.bits.toNat

/-- The bits below the sign, as a number: words of one sign are ordered by it. -/
def magnitude (x : Binary64) : Nat :=
  x.bits.toNat % powerOfTwo 63

/-- The magnitude of the infinities: every exponent bit set, and no other. -/
def infiniteMagnitude : Nat :=
  0x7ff * powerOfTwo 52

/-- **What a word stands for.** The smallest exponent is shared by the numbers that
lack the leading bit and by the first block of those that have it. -/
def content (x : Binary64) : Content :=
  let exponent : Nat := x.magnitude / powerOfTwo 52
  let fraction : Nat := x.magnitude % powerOfTwo 52
  if exponent = 0x7ff then
    if fraction = 0 then .infinite x.isNegative else .nan
  else if exponent = 0 then .finite x.isNegative fraction (-1074)
  else .finite x.isNegative (powerOfTwo 52 + fraction) ((exponent : Int) - 1075)

/-- The word with a sign and a magnitude. -/
def ofMagnitude (negative : Bool) (magnitude : Nat) : Binary64 :=
  ⟨UInt64.ofNat ((if negative then powerOfTwo 63 else 0) + magnitude)⟩

/-- The word that is written when a result is not a number. -/
def nan : Binary64 := ofMagnitude false (0x7ff * powerOfTwo 52 + powerOfTwo 51)

/-- The infinity of a sign. -/
def infinite (negative : Bool) : Binary64 := ofMagnitude negative infiniteMagnitude

/-- The zero of a sign. -/
def zero (negative : Bool) : Binary64 := ofMagnitude negative 0

/-! ### Rounding -/

/-- **A quotient rounded to the nearest natural**, a half to the even neighbour. -/
def roundDiv (num den : Nat) : Nat :=
  let floor := num / den
  let twice := 2 * (num % den)
  if den < twice || (twice = den && floor % 2 = 1) then floor + 1 else floor

/-- A quotient divided by a power of two, as a numerator and a denominator. -/
def scaleDown (num den : Nat) (exponent : Int) : Nat × Nat :=
  if 0 ≤ exponent then (num, den * powerOfTwo exponent.toNat)
  else (num * powerOfTwo (-exponent).toNat, den)

/-- **The nearest word to a quotient.** The power of two is chosen so that the integer
part of the scaled quotient has fifty-three bits, and never below the smallest
exponent. Rounding up to the next power of two carries into the exponent field, which
is what it should do. -/
def ofRatio (negative : Bool) (num den : Nat) : Binary64 :=
  if num = 0 || den = 0 then zero negative
  else
    let guess : Int := max (-1074) ((num.log2 : Int) - den.log2 - 53)
    let (n, d) := scaleDown num den guess
    let exponent := if powerOfTwo 53 ≤ n / d then guess + 1 else guess
    let (n, d) := scaleDown num den exponent
    let magnitude := (exponent + 1074).toNat * powerOfTwo 52 + roundDiv n d
    ofMagnitude negative (min magnitude infiniteMagnitude)

/-- **The nearest word to a decimal** `digits · 10 ^ exponent`. Beyond the range of the
format the answer is known without computing the power of ten. -/
def ofDecimal (negative : Bool) (digits : Nat) (exponent : Int) : Binary64 :=
  if digits = 0 then zero negative
  else if 400 < ((digits.log2 * 3 / 10 : Nat) : Int) + exponent then infinite negative
  else if ((digits.log2 / 3 : Nat) : Int) + exponent < -400 then zero negative
  else if 0 ≤ exponent then ofRatio negative (digits * powerOfTen exponent.toNat) 1
  else ofRatio negative digits (powerOfTen (-exponent).toNat)

/-! ### Arithmetic -/

/-- Whether the word is not a number. -/
def isNaN (x : Binary64) : Bool := x.content == .nan

/-- The same number with the other sign. -/
def neg (x : Binary64) : Binary64 := ofMagnitude (!x.isNegative) x.magnitude

/-- A signed multiple of a power of two, rounded. -/
def ofScaled (value : Int) (exponent : Int) : Binary64 :=
  if 0 ≤ exponent then ofRatio (value < 0) (value.natAbs * powerOfTwo exponent.toNat) 1
  else ofRatio (value < 0) value.natAbs (powerOfTwo (-exponent).toNat)

/-- An integer with a sign of its own. -/
def signed (negative : Bool) (n : Nat) : Int := if negative then -n else n

/-- The sum: exact, then rounded. A sum that vanishes is the positive zero unless both
terms are negative zeros. -/
def add (x y : Binary64) : Binary64 :=
  match x.content, y.content with
  | .nan, _ | _, .nan => nan
  | .infinite a, .infinite b => if a = b then infinite a else nan
  | .infinite a, _ => infinite a
  | _, .infinite b => infinite b
  | .finite a m e, .finite b n f =>
    let low := min e f
    let total :=
      signed a (m * powerOfTwo (e - low).toNat) + signed b (n * powerOfTwo (f - low).toNat)
    if total = 0 then zero (a && b) else ofScaled total low

/-- The product: exact, then rounded. -/
def mul (x y : Binary64) : Binary64 :=
  match x.content, y.content with
  | .nan, _ | _, .nan => nan
  | .infinite a, .infinite b => infinite (a != b)
  | .infinite a, .finite b n _ => if n = 0 then nan else infinite (a != b)
  | .finite a m _, .infinite b => if m = 0 then nan else infinite (a != b)
  | .finite a m e, .finite b n f =>
    if m * n = 0 then zero (a != b) else ofScaled (signed (a != b) (m * n)) (e + f)

/-- **The integer that a word is**, when it is one. -/
def exactInt? (x : Binary64) : Option Int :=
  match x.content with
  | .finite negative m e =>
    if 0 ≤ e then some (signed negative (m * powerOfTwo e.toNat))
    else if m % powerOfTwo (-e).toNat = 0 then some (signed negative (m / powerOfTwo (-e).toNat))
    else none
  | _ => none

/-- Numeric equality: the zeros are equal, and what is not a number equals nothing. -/
def numericallyEqual (x y : Binary64) : Bool :=
  !x.isNaN && !y.isNaN && (x == y || (x.magnitude == 0 && y.magnitude == 0))

end Binary64

end OperationCatalog
