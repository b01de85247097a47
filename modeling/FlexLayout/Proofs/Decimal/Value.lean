import FlexLayout.Proofs.Decimal.Integer
import FlexLayout.Proofs.Decimal.Sign

/-!
# The values of doubles

A finite double stands for a rational number. `integer?` finds this number exactly if it is an
integer (`integral_iff`). Doubles that compare equal stand for the same number, and a double is
below zero exactly if its number is.
-/

namespace FlexLayout

namespace Binary

open Float.Model Float.Model.UnpackedFloat

/-- A number with a sign. -/
def signed {α : Type} [Neg α] (negative : Bool) (a : α) : α := if negative then -a else a

/-- The number that a finite double stands for. -/
def value? : Binary → Option ℚ
  | nan | infinite _ => none
  | finite negative significand exponent => some (signed negative (significand * 2 ^ exponent))

/-! ## Integers -/

/-- A magnitude is a natural number if its fraction has no remainder. -/
theorem magnitude_eq_natCast_iff {significand q : Nat} {e : Int} :
    (significand : ℚ) * 2 ^ e = q ↔
      (fraction significand e).1 = q * (fraction significand e).2 := by
  have hden : ((fraction significand e).2 : ℚ) ≠ 0 :=
    Nat.cast_ne_zero.mpr (Nat.two_pow_pos _).ne'
  rw [← mul_left_inj' hden, Decimal.value_fraction]
  exact_mod_cast Iff.rfl

/-- An integer with the sign taken off is a natural number, if it is not negative. -/
theorem signed_eq_intCast_iff {negative : Bool} {r : ℚ} (hr : 0 ≤ r) {n : Int} :
    signed negative r = n ↔ ∃ q : Nat, r = q ∧ signed negative (q : Int) = n := by
  constructor
  · intro h
    have hn : r = (signed negative n : Int) := by
      cases negative
      · exact h
      · show r = ((-n : Int) : ℚ)
        rw [Int.cast_neg, ← h]
        exact (neg_neg r).symm
    rw [hn, Int.cast_nonneg_iff] at hr
    obtain ⟨q, hq⟩ := Int.eq_ofNat_of_zero_le hr
    refine ⟨q, by rw [hn, hq]; rfl, ?_⟩
    rw [← hq]
    cases negative
    · rfl
    · exact neg_neg n
  · rintro ⟨q, rfl, rfl⟩
    cases negative
    · rfl
    · exact (Int.cast_neg _).symm

theorem integer?_eq_some_iff {b : Binary} {n : Int} :
    b.integer? = some n ↔ b.value? = some (n : ℚ) := by
  cases b with
  | nan | infinite => exact iff_of_false nofun nofun
  | finite negative significand e =>
    have hnonneg : (0 : ℚ) ≤ significand * 2 ^ e := by positivity
    have hden : 0 < (fraction significand e).2 := Nat.two_pow_pos _
    rw [value?, Option.some_inj, signed_eq_intCast_iff hnonneg]
    simp only [magnitude_eq_natCast_iff]
    unfold integer?
    dsimp only
    generalize fraction significand e = f at hden ⊢
    split
    · rename_i hmod
      have hdiv : f.1 = f.1 / f.2 * f.2 := (Nat.div_mul_cancel (Nat.dvd_of_mod_eq_zero hmod)).symm
      rw [Option.some_inj]
      constructor
      · exact fun h => ⟨f.1 / f.2, hdiv, h⟩
      · rintro ⟨q, hq, rfl⟩
        rw [hq, Nat.mul_div_cancel _ hden]
        rfl
    · rename_i hmod
      refine iff_of_false nofun ?_
      rintro ⟨q, hq, -⟩
      exact hmod (by rw [hq, Nat.mul_mod_left])

/-! ## Comparisons -/

theorem value?_zero (s : Sign) : (ofUnpacked (.zero s)).value? = some 0 := by
  cases s <;> simp [ofUnpacked, value?, signed]

/-- Unpacked doubles that compare equal stand for the same number. -/
theorem value?_eq_of_compare {u v : UnpackedFloat} (h : u.compare v = some .eq) :
    (ofUnpacked u).value? = (ofUnpacked v).value? := by
  cases u with
  | notANumber => cases h
  | infinity s =>
    cases v with
    | infinity t => rfl
    | notANumber | zero t | finite t => cases s <;> cases h
  | zero s =>
    cases v with
    | notANumber => cases h
    | infinity t | finite t => cases t <;> cases h
    | zero t => rw [value?_zero, value?_zero]
  | finite s m e hm =>
    cases v with
    | notANumber => cases s <;> cases h
    | infinity t | zero t => cases s <;> cases t <;> cases h
    | finite t n f hn =>
      cases s <;> cases t
      case positive.negative | negative.positive => cases h
      all_goals
        simp only [UnpackedFloat.compare, Option.some_inj, Ordering.swap_eq_eq,
          Ordering.then_eq_eq, Std.LawfulEqCmp.compare_eq_iff_eq] at h
        obtain ⟨rfl, rfl⟩ := h
        rfl

/-- An unpacked double is below zero if its number is. -/
theorem compare_zero_iff {u : UnpackedFloat} {q : ℚ} (h : (ofUnpacked u).value? = some q) :
    u.compare (.zero .positive) = some .lt ↔ q < 0 := by
  cases u with
  | notANumber | infinity => cases h
  | zero s =>
    have hq : q = 0 := Option.some_inj.mp (h.symm.trans (value?_zero s))
    refine iff_of_false (fun hlt => ?_) hq.not_lt
    cases s <;> cases hlt
  | finite s m e hm =>
    cases h
    have hpos : (0 : ℚ) < m * 2 ^ e := mul_pos (Nat.cast_pos.mpr hm) (zpow_pos two_pos _)
    cases s with
    | negative => exact iff_of_true rfl (neg_lt_zero.mpr hpos)
    | positive =>
      refine iff_of_false (fun hlt => ?_) (not_lt.mpr hpos.le)
      cases hlt

end Binary

/-- The double is equal to the integer. -/
def Integral (x : Float) (n : Int) : Prop := (Binary.ofFloat x).value? = some (n : ℚ)

theorem integral_iff {x : Float} {n : Int} :
    Integral x n ↔ (Binary.ofFloat x).integer? = some n := Binary.integer?_eq_some_iff.symm

instance (x : Float) (n : Int) : Decidable (Integral x n) := decidable_of_iff _ integral_iff.symm

namespace Integral

variable {x y : Float} {n : Int}

theorem of_beq (h : Integral x n) (hxy : (x == y) = true) : Integral y n := by
  have hcompare : x.toModel.unpack.compare y.toModel.unpack = some .eq := beq_iff_eq.mp hxy
  have hvalue := Binary.value?_eq_of_compare hcompare
  rw [← Binary.ofFloat_eq, ← Binary.ofFloat_eq] at hvalue
  exact hvalue.symm.trans h

theorem lt_zero_iff (h : Integral x n) : x < 0 ↔ n < 0 := by
  rw [Integral, Binary.ofFloat_eq] at h
  rw [Rounding.lt_iff_compare, Rounding.unpack_zero, Binary.compare_zero_iff h]
  exact Int.cast_lt_zero

theorem not_isNaN (h : Integral x n) : x.isNaN = false := by
  rw [Integral, Binary.ofFloat_eq] at h
  show x.toModel.unpack.isNaN = false
  generalize x.toModel.unpack = u at h
  cases u with
  | notANumber => cases h
  | _ => rfl

/-- An integer of at most 53 bits is equal to its double. -/
theorem ofInt (hn : n.natAbs < 2 ^ 53) : Integral (.ofInt n) n :=
  integral_iff.mpr (Binary.integer?_ofInt hn)

end Integral

end FlexLayout
