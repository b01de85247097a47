import Mathlib

/-!
# Signs

A number is negative, zero or positive (`neg_or_zero_or_pos`). Rounding and packing keep the sign of
a number. So a product with a positive factor is positive only if the other factor is, and a
quotient with a positive divisor only if the dividend is.
-/

namespace FlexLayout.Rounding

open Float.Model Float.Model.UnpackedFloat

/-- Above zero. -/
def positive : UnpackedFloat → Bool
  | .infinity .positive | .finite .positive .. => true
  | _ => false

theorem lt_iff_compare {x y : Float} :
    x < y ↔ x.toModel.unpack.compare y.toModel.unpack = some .lt := by
  show decide (x.toModel.unpack.lt y.toModel.unpack = true) = true ↔ _
  rw [decide_eq_true_eq]
  exact beq_iff_eq

theorem unpack_zero : (0 : Float).toModel.unpack = .zero .positive := rfl

theorem zero_lt_iff {x : Float} : 0 < x ↔ positive x.toModel.unpack = true := by
  rw [lt_iff_compare, unpack_zero]
  generalize x.toModel.unpack = u
  cases u with
  | notANumber | zero s => simp [UnpackedFloat.compare, positive]
  | infinity s | finite s => cases s <;> simp [UnpackedFloat.compare, positive]

theorem compare_zero {u : UnpackedFloat} (h : u.isNaN = false) :
    u.compare (.zero .positive) = some .lt ∨ u.compare (.zero .positive) = some .eq ∨
      (UnpackedFloat.zero .positive).compare u = some .lt := by
  cases u with
  | notANumber => cases h
  | zero s => exact .inr (.inl rfl)
  | infinity s | finite s =>
    cases s with
    | positive => exact .inr (.inr rfl)
    | negative => exact .inl rfl

/-- A number is negative, zero or positive. -/
theorem neg_or_zero_or_pos {x : Float} (h : x.isNaN = false) :
    x < 0 ∨ (x == 0) = true ∨ 0 < x := by
  have heq : (x == 0) = true ↔ x.toModel.unpack.compare (0 : Float).toModel.unpack = some .eq := by
    show (x.toModel.unpack.compare (0 : Float).toModel.unpack == some .eq) = true ↔ _
    exact beq_iff_eq
  rw [lt_iff_compare, lt_iff_compare, heq, unpack_zero]
  exact compare_zero h

/-- What is packed with a negative sign is unpacked with it. -/
theorem not_positive_unpack_negative (e : BitVec 11) (m : BitVec 52) :
    ¬ positive (UnpackedFloat.unpack Format.binary64
      (packComponents Format.binary64 .negative e m)) = true := by
  unfold UnpackedFloat.unpack
  simp only [unpackMantissa_packComponents, unpackExponent_packComponents,
    unpackSign_packComponents, Sign.ofBitVec_toBitVec]
  split_ifs <;> exact Bool.false_ne_true

/-- Packing makes no number positive. -/
theorem positive_of_pack {u : UnpackedFloat}
    (h : positive (Float.Model.pack u).unpack = true) : positive u = true := by
  cases u with
  | notANumber => exact h
  | zero s => cases s <;> exact h
  | infinity s => cases s <;> exact h
  | finite s m e hm =>
    cases s with
    | positive => rfl
    | negative =>
      change positive (UnpackedFloat.unpack Format.binary64
        (UnpackedFloat.pack Format.binary64 _)) = true at h
      unfold UnpackedFloat.pack at h
      dsimp only at h
      split_ifs at h
      all_goals exact absurd h (not_positive_unpack_negative _ _)

/-- Rounding keeps the sign. -/
theorem eq_positive_of_round {s : Sign} {m : Nat} {e : Int} {a : Accuracy}
    (h : positive (roundWithAccuracy Format.binary64 s m e a) = true) : s = .positive := by
  unfold roundWithAccuracy at h
  dsimp only at h
  cases s with
  | positive => rfl
  | negative => split at h <;> cases h

/-! ## Products -/

theorem positive_of_mul {u v : UnpackedFloat} (hv : positive v = true)
    (h : positive (UnpackedFloat.mul Format.binary64 u v) = true) : positive u = true := by
  cases v with
  | notANumber | zero t => cases hv
  | infinity t =>
    cases t with
    | negative => cases hv
    | positive =>
      cases u with
      | notANumber | zero s => cases h
      | infinity s | finite s => cases s <;> exact h
  | finite t n f hn =>
    cases t with
    | negative => cases hv
    | positive =>
      cases u with
      | notANumber | zero s => cases h
      | infinity s => cases s <;> exact h
      | finite s m e hm =>
        have hs := eq_positive_of_round h
        cases s with
        | positive => rfl
        | negative => cases hs

/-! ## Quotients -/

theorem positive_of_div {u v : UnpackedFloat} (hv : positive v = true)
    (h : positive (UnpackedFloat.div Format.binary64 u v) = true) :
    positive u = true ∧ v.isFinite = true := by
  cases v with
  | notANumber | zero t => cases hv
  | infinity t => cases u <;> cases h
  | finite t n f hn =>
    cases t with
    | negative => cases hv
    | positive =>
      refine ⟨?_, rfl⟩
      cases u with
      | notANumber | zero s => cases h
      | infinity s => cases s <;> exact h
      | finite s m e hm =>
        have hs := eq_positive_of_round h
        cases s with
        | positive => rfl
        | negative => cases hs

/-! ## Doubles -/

theorem pos_of_mul_pos {x y : Float} (hy : 0 < y) (h : 0 < x * y) : 0 < x := by
  rw [zero_lt_iff] at hy h ⊢
  exact positive_of_mul hy (positive_of_pack h)

/-- A positive quotient with a positive divisor has a positive dividend and a finite divisor. -/
theorem pos_of_div_pos {x y : Float} (hy : 0 < y) (h : 0 < x / y) :
    0 < x ∧ y.isFinite = true := by
  rw [zero_lt_iff] at hy h ⊢
  exact positive_of_div hy (positive_of_pack h)

end FlexLayout.Rounding
