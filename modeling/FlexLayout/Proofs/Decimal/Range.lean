import FlexLayout.Decimal.Shortest
import Mathlib.Algebra.Order.Ring.Nat

/-!
# The range of doubles

The greatest double in binary and in decimal, and how far each power of ten can be scaled up without
leaving the range. Everything is exact arithmetic on natural numbers, and the powers of ten are gone
through one by one.
-/

namespace FlexLayout.Rounding

/-! ## The greatest double -/

/-- The greatest double. -/
def greatest : Nat := (2 ^ 53 - 1) * 2 ^ 971

/-- The greatest double has 309 digits, and these are the first 17. -/
theorem greatest_digits : greatest < 10 ^ 309 ∧ 17976931348623157 * 10 ^ 292 ≤ greatest ∧
    greatest < 17976931348623158 * 10 ^ 292 := by
  decide +kernel

theorem shortest_greatest :
    Decimal.shortest .even (2 ^ 53 - 1) 971 = ⟨17976931348623157, 292⟩ := by
  decide +kernel

theorem greatest_lt_pow {e : Nat} (h : 308 < e) : greatest < 10 ^ e := by
  obtain ⟨k, hk, hle⟩ : ∃ k, greatest < 10 ^ k ∧ k ≤ e := ⟨309, greatest_digits.1, h⟩
  exact hk.trans_le (Nat.pow_le_pow_right (by decide) hle)

/-- The last 971 bits of the greatest double are zero. Without `k` of them it bounds what can be
shifted by `k`. -/
theorem mul_two_pow_le_greatest {n k : Nat} (hk : k ≤ 971)
    (hn : n ≤ (2 ^ 53 - 1) * 2 ^ (971 - k)) : n * 2 ^ k ≤ greatest := by
  have hgreatest : (2 ^ 53 - 1) * 2 ^ (971 - k + k) = greatest :=
    congrArg (fun j => (2 ^ 53 - 1) * 2 ^ j) (Nat.sub_add_cancel hk)
  rw [← hgreatest, Nat.pow_add, ← Nat.mul_assoc]
  exact Nat.mul_le_mul_right _ hn

/-! ## Powers of ten -/

/-- The least number of 53 bits that is not below `10 ^ e`, with its power of two. The quotient is
close enough to the logarithm of ten for all powers of ten that are doubles. -/
def ceilingOfTen (e : Nat) : Nat × Nat :=
  let j := 217706 * e / 65536 - 52
  ((10 ^ e + 2 ^ j - 1) / 2 ^ j, j)

theorem ceilingOfTen_spec : ∀ e : Fin 309, (ceilingOfTen e).1 < 2 ^ 53 ∧ (ceilingOfTen e).2 ≤ 971 ∧
    10 ^ e.val ≤ (ceilingOfTen e).1 * 2 ^ (ceilingOfTen e).2 := by
  decide +kernel

/-- The most that a power of ten is multiplied by: up to `10 ^ 291` there is room for 57 bits, and
from `10 ^ 293` on for as much as goes into the greatest double. In between the last unit of a
significand is two. -/
def room (e : Nat) : Nat × Nat :=
  if e ≤ 291 then (1, 57) else if e = 292 then (8988465674311578, 1) else (greatest / 10 ^ e, 0)

theorem room_spec : ∀ e : Fin 309, (room e).1 < 2 ^ 53 ∧ (room e).2 ≤ 971 ∧
    (room e).1 * 2 ^ (room e).2 * ((ceilingOfTen e).1 * 2 ^ (ceilingOfTen e).2) ≤ greatest := by
  decide +kernel

end FlexLayout.Rounding
