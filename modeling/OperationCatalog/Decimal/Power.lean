/-!
# Powers of two and ten

Binary words are made of powers of two and decimals of powers of ten. The two functions here are all
that the arithmetic of numbers uses of powers, and the step from one power to the next and their
being positive are all that is needed about them.
-/

namespace OperationCatalog

/-- A power of two. -/
def powerOfTwo (exponent : Nat) : Nat := Nat.pow 2 exponent

/-- A power of ten. -/
def powerOfTen (exponent : Nat) : Nat := Nat.pow 10 exponent

@[simp] theorem powerOfTwo_zero : powerOfTwo 0 = 1 := rfl

@[simp] theorem powerOfTen_zero : powerOfTen 0 = 1 := rfl

/-- The next power of two is twice as great. -/
theorem powerOfTwo_succ (n : Nat) : powerOfTwo (n + 1) = powerOfTwo n * 2 := rfl

/-- The next power of ten is ten times as great. -/
theorem powerOfTen_succ (n : Nat) : powerOfTen (n + 1) = powerOfTen n * 10 := rfl

/-- No power of two is zero. -/
theorem powerOfTwo_pos (n : Nat) : 0 < powerOfTwo n := by
  induction n with
  | zero => exact Nat.one_pos
  | succ n ih => exact Nat.mul_pos ih Nat.two_pos

/-- No power of ten is zero. -/
theorem powerOfTen_pos (n : Nat) : 0 < powerOfTen n := by
  induction n with
  | zero => exact Nat.one_pos
  | succ n ih => exact Nat.mul_pos ih (Nat.succ_pos 9)

end OperationCatalog
