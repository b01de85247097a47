import FlexLayout.Length
import FlexLayout.Proofs.Decimal.Value

/-!
# Whole numbers in texts

A whole number is written as a 64-bit integer. Within the range of these it is written as it is, and
beyond it as the end of the range (`numberText_eq_toString_iff`). So two whole numbers are written
alike exactly if they are equal or lie at or beyond the same end (`numberText_eq_iff`), with a unit
behind them as without one.
-/

namespace FlexLayout

variable {x y : Float} {k n : Int}

/-! ## Integers -/

/-- Within the range of signed 64-bit integers. -/
def IsInt64 (n : Int) : Prop := Int64.minValue.toInt ≤ n ∧ n ≤ Int64.maxValue.toInt

/-- At or beyond the same end of the range of signed 64-bit integers. -/
def SameEnd (k n : Int) : Prop :=
  Int64.maxValue.toInt ≤ k ∧ Int64.maxValue.toInt ≤ n ∨
    k ≤ Int64.minValue.toInt ∧ n ≤ Int64.minValue.toInt

instance : DecidablePred IsInt64 := fun _ => instDecidableAnd

instance (k n : Int) : Decidable (SameEnd k n) := instDecidableOr

theorem minInt64_lt_maxInt64 : Int64.minValue.toInt < Int64.maxValue.toInt := by decide

theorem clampInt64_eq_self_iff : clampInt64 n = n ↔ IsInt64 n := by
  have hlt := minInt64_lt_maxInt64
  unfold clampInt64 IsInt64
  omega

/-- Only what lies at or beyond an end of the range is moved to the same integer as another. -/
theorem clampInt64_inj : clampInt64 k = clampInt64 n ↔ k = n ∨ SameEnd k n := by
  have hlt := minInt64_lt_maxInt64
  unfold clampInt64 SameEnd
  omega

theorem toString_int_inj : toString k = toString n ↔ k = n := Int.repr_inj

/-! ## Numbers -/

theorem Integral.numberText_eq (h : Integral x n) : numberText x = toString (clampInt64 n) := by
  unfold numberText
  rw [integral_iff.mp h]

/-- A whole number is written as it is within the range of 64-bit integers only. -/
theorem Integral.numberText_eq_toString_iff (h : Integral x n) :
    numberText x = toString n ↔ IsInt64 n := by
  rw [h.numberText_eq, toString_int_inj, clampInt64_eq_self_iff]

theorem Integral.numberText_eq_iff (hx : Integral x k) (hy : Integral y n) :
    numberText x = numberText y ↔ k = n ∨ SameEnd k n := by
  rw [hx.numberText_eq, hy.numberText_eq, toString_int_inj, clampInt64_inj]

example : numberText 1e19 = "9223372036854775807" := by decide +kernel

/-! ## Lengths -/

namespace Length

theorem text_px_inj : (px x).text = (px y).text ↔ numberText x = numberText y :=
  String.append_left_inj "px"

theorem text_percent_inj : (percent x).text = (percent y).text ↔ numberText x = numberText y :=
  String.append_left_inj "%"

end Length

end FlexLayout
