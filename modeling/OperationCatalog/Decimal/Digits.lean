import OperationCatalog.Decimal.Power

/-!
# Decimal digits

The ten digits are written in many scripts, and in each they have ten consecutive
codes from zero to nine. So a digit is known from the code of the zero of its script, and
the table of those is that of version 14 of the Unicode standard: the general category Nd.
-/

namespace OperationCatalog.Decimal

/-- The largest number of decimal digits of an integer that is written or read. -/
def maxDigits : Nat := 4300

/-- Whether an integer has a decimal text. A number of few binary digits has few decimal ones, so
the power is rarely computed. -/
def isWritable (i : Int) : Bool :=
  i.natAbs.log2 < 3 * maxDigits || i.natAbs < powerOfTen maxDigits

/-- The codes of zero, script by script. -/
def zeros : List Nat :=
  [0x30, 0x660, 0x6f0, 0x7c0, 0x966, 0x9e6, 0xa66, 0xae6, 0xb66, 0xbe6, 0xc66, 0xce6, 0xd66, 0xde6,
    0xe50, 0xed0, 0xf20, 0x1040, 0x1090, 0x17e0, 0x1810, 0x1946, 0x19d0, 0x1a80, 0x1a90, 0x1b50,
    0x1bb0, 0x1c40, 0x1c50, 0xa620, 0xa8d0, 0xa900, 0xa9d0, 0xa9f0, 0xaa50, 0xabf0, 0xff10, 0x104a0,
    0x10d30, 0x11066, 0x110f0, 0x11136, 0x111d0, 0x112f0, 0x11450, 0x114d0, 0x11650, 0x116c0,
    0x11730, 0x118e0, 0x11950, 0x11c50, 0x11d50, 0x11da0, 0x16a60, 0x16ac0, 0x16b50, 0x1d7ce,
    0x1d7d8, 0x1d7e2, 0x1d7ec, 0x1d7f6, 0x1e140, 0x1e2f0, 0x1e950, 0x1fbf0]

/-- **The value of a decimal digit** of any script. -/
def digitValue? (c : Char) : Option Nat :=
  (zeros.find? fun first => first ≤ c.toNat && c.toNat < first + 10).map (c.toNat - ·)

/-- A text with the digits of all scripts written as those of ASCII. -/
def plainDigits (s : List Char) : List Char :=
  s.map fun c => ((digitValue? c).map fun d => Char.ofNat (48 + d)).getD c

end OperationCatalog.Decimal
