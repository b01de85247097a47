import FlexLayout.Growth
import FlexLayout.Proofs.Length.Number

/-!
# Growth as a number

Every growth but the default is a number, and is written as one. The growth that an author asks for
with a whole number from zero on is this number, whether it has a case of its own or not
(`number?_ofFlex`).
-/

namespace FlexLayout.Growth

variable {x : Float} {n : Int}

/-- The number that a growth is, unless the kind of the component decides. -/
def number? : Growth → Option Float
  | default => .none
  | g => some g.amount

theorem toFloat_eq_ofInt (w : UInt8) : w.toFloat = Float.ofInt w.toNat := by
  have hmodel : w.toFloat.toModel = (Float.ofInt w.toNat).toModel := by
    rw [Rounding.toModel_ofInt (by have := w.toNat_lt; omega)]
    rfl
  exact congrArg Float.ofModel hmodel

theorem integral_weight (w : UInt8) : Integral w.toFloat w.toNat := by
  rw [toFloat_eq_ofInt]
  exact .ofInt (by have := w.toNat_lt; omega)

/-- A growth is written as its number. -/
theorem text_eq_numberText {g : Growth} (h : g.number? = some x) : g.text = numberText x := by
  cases g with
  | default => cases h
  | none =>
    cases h
    decide +kernel
  | weight w =>
    cases h
    have hfits : IsInt64 w.toNat := by
      have hw := w.toNat_lt
      have hmin : Int64.minValue.toInt ≤ 0 := by decide
      have hmax : 256 ≤ Int64.maxValue.toInt := by decide
      unfold IsInt64
      omega
    exact ((integral_weight w).numberText_eq_toString_iff.mpr hfits).symm
  | factor y =>
    cases h
    rfl

/-- The growth asked for with a whole number from zero on is this number. -/
theorem number?_ofFlex (hx : Integral x n) (hn : 0 ≤ n) :
    ∃ y, (ofFlex (some x)).number? = some y ∧ Integral y n := by
  have hguard : (x.isNaN || decide (x < 0)) = false := by
    rw [hx.not_isNaN, Bool.false_or, decide_eq_false_iff_not, hx.lt_zero_iff]
    omega
  unfold ofFlex
  simp only [hguard, Bool.false_eq_true, if_false]
  split_ifs with h0 h1 h2 h3
  · exact ⟨0, rfl, hx.of_beq h0⟩
  · exact ⟨1, by decide +kernel, hx.of_beq h1⟩
  · exact ⟨2, by decide +kernel, hx.of_beq h2⟩
  · exact ⟨3, by decide +kernel, hx.of_beq h3⟩
  · exact ⟨x, rfl, hx⟩

theorem number?_orEqual {g : Growth} (h : g.number? = some x) : g.orEqual.number? = some x := by
  cases g with
  | default => cases h
  | _ => exact h

end FlexLayout.Growth
