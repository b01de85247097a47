import FlexLayout.Proofs.Decimal.Rounding

/-!
# Quotients stay in range

A finite double divided by a double from one on is finite: the exact quotient is at most the
dividend, and what the greatest double bounds is not rounded beyond it. Unlike products of numbers
from one on, quotients may be subnormal, so only the upper end of the range is kept here.
-/

namespace FlexLayout.Rounding

open Float.Model Float.Model.UnpackedFloat

/-! ## The upper end of the range -/

/-- Zero, or a number whose significand and exponent are not too large for a double. -/
def InRange : UnpackedFloat → Prop
  | .zero _ => True
  | .finite _ m e _ => m < 2 ^ 53 ∧ e ≤ 971
  | _ => False

theorem InRange.isFinite {u : UnpackedFloat} (h : InRange u) : u.isFinite = true := by
  cases u with
  | zero s => rfl
  | finite s m e hm => rfl
  | infinity s => exact h.elim
  | notANumber => exact h.elim

theorem InRange.neg {u : UnpackedFloat} (h : InRange u) : InRange u.neg := by
  cases u with
  | zero s => trivial
  | finite s m e hm => exact h
  | infinity s => exact h.elim
  | notANumber => exact h.elim

/-- Packed parts are a finite double unless the exponent is the greatest one. -/
theorem isFinite_packComponents (s : Sign) {b : BitVec 11} (hb : b ≠ -1#11) (m : BitVec 52) :
    (UnpackedFloat.unpack Format.binary64
      (packComponents Format.binary64 s b m)).isFinite = true := by
  unfold UnpackedFloat.unpack
  simp only [unpackMantissa_packComponents, unpackExponent_packComponents, if_neg hb]
  split_ifs <;> rfl

/-- Packing does not turn a number in range into an infinity. -/
theorem InRange.isFinite_pack {u : UnpackedFloat} (h : InRange u) :
    (Float.Model.pack u).unpack.isFinite = true := by
  cases u with
  | infinity s => exact h.elim
  | notANumber => exact h.elim
  | zero s => cases s <;> rfl
  | finite s m e hm =>
    have hbiased : (e + (Format.binary64.exponentBias : Int) + (52 : Nat)).toNat < 2047 := by
      show (e + 1023 + 52).toNat < 2047
      have := h.2
      omega
    show (UnpackedFloat.unpack Format.binary64 (UnpackedFloat.pack Format.binary64 _)).isFinite = _
    unfold UnpackedFloat.pack
    generalize (e + (Format.binary64.exponentBias : Int) + (52 : Nat)).toNat = b at hbiased
    have hb : BitVec.ofNat 11 b ≠ -1#11 := by
      intro heq
      have := congrArg BitVec.toNat heq
      rw [BitVec.toNat_ofNat, Nat.mod_eq_of_lt (by omega)] at this
      exact absurd this hbiased.ne
    dsimp only
    rw [if_neg (by omega)]
    split_ifs
    · exact isFinite_packComponents s hb _
    · exact isFinite_packComponents s (by decide) _

/-- What is unpacked as a finite number is in range. -/
theorem inRange_unpack (b : BitVec Format.binary64.numBits)
    (h : (UnpackedFloat.unpack Format.binary64 b).isFinite = true) :
    InRange (UnpackedFloat.unpack Format.binary64 b) := by
  have hexponent : (unpackExponent b).toNat < 2 ^ 11 := (unpackExponent b).isLt
  have hsignificand : (unpackMantissa b).toNat < 2 ^ 52 := (unpackMantissa b).isLt
  have hleading : (1#1 ++ unpackMantissa b).toNat < 2 ^ 53 := (1#1 ++ unpackMantissa b).isLt
  revert h
  unfold UnpackedFloat.unpack
  dsimp only
  split_ifs with hones hzero hleast
  · rintro ⟨⟩
  · rintro ⟨⟩
  · exact fun _ => trivial
  · refine fun _ => ⟨by omega, ?_⟩
    rw [hleast]
    decide
  · refine fun _ => ⟨hleading, ?_⟩
    have hne : (unpackExponent b).toNat ≠ 2047 := fun h => hones (BitVec.eq_of_toNat_eq h)
    show ((unpackExponent b).toNat : Int) - (1023 + 52) ≤ 971
    omega

/-! ## Rounding -/

/-- The significand of the greatest double at the exponent `e`, which may need more bits. -/
def greatestAt (e : Int) : Nat := (2 ^ 53 - 1) * 2 ^ (971 - e).toNat

theorem greatestAt_add {e : Int} {k : Nat} (h : e + k ≤ 971) :
    greatestAt e = greatestAt (e + k) * 2 ^ k := by
  have hk : (971 - e).toNat = (971 - (e + k)).toNat + k := by omega
  unfold greatestAt
  rw [hk, Nat.pow_add, Nat.mul_assoc]

/-- A significand that the greatest double bounds needs no exponent above that of the greatest
double. -/
theorem log2_add_le {m : Nat} {e : Int} (he : e ≤ 971) (hm : m ≤ greatestAt e) :
    m.log2 + e ≤ 1023 := by
  rcases Nat.eq_zero_or_pos m with rfl | hpos
  · rw [Nat.log2_zero]
    omega
  · have hlt : m < 2 ^ (53 + (971 - e).toNat) := by
      rw [Nat.pow_add]
      exact hm.trans_lt (Nat.mul_lt_mul_of_pos_right (by decide) (Nat.two_pow_pos _))
    have := (Nat.log2_lt hpos.ne').mpr hlt
    omega

theorem mantissa_ofMantissaAndAccuracy (m : Nat) (a : Accuracy) :
    (ExtendedMantissa.ofMantissaAndAccuracy m a).mantissa = m := by
  rcases a with _ | o
  · rfl
  · cases o <;> rfl

theorem Covers.mantissa_le {n : Nat} {em : ExtendedMantissa} (h : Covers n em) :
    em.mantissa ≤ n := h.elim le_of_lt fun heq => heq.1.le

/-- One shift leaves at most 53 bits, and stays below the greatest double. -/
theorem shiftToTargetExponent_inRange {m : Nat} {e : Int} {a : Accuracy} (he : e ≤ 971)
    (h : Covers (greatestAt e) (.ofMantissaAndAccuracy m a)) :
    (shiftToTargetExponent Format.binary64 m e a).1.mantissa < 2 ^ 53 ∧
      (shiftToTargetExponent Format.binary64 m e a).2 ≤ 971 ∧
      Covers (greatestAt (shiftToTargetExponent Format.binary64 m e a).2)
        (shiftToTargetExponent Format.binary64 m e a).1 := by
  have hm : m ≤ greatestAt e := mantissa_ofMantissaAndAccuracy m a ▸ h.mantissa_le
  have hlog := log2_add_le he hm
  unfold shiftToTargetExponent shiftToExponent
  have hk : e + (Format.binary64.targetExponent (totalExponent m e) - e).toNat ≤ 971 ∧
      m.log2 + 1 ≤ 53 + (Format.binary64.targetExponent (totalExponent m e) - e).toNat := by
    simp only [Format.targetExponent, totalExponent, Format.mantissaBits, Format.minExponent]
    norm_num
    omega
  dsimp only
  generalize (Format.binary64.targetExponent (totalExponent m e) - e).toNat = k at hk
  obtain ⟨hroom, hbits⟩ := hk
  refine ⟨?_, hroom, (greatestAt_add hroom ▸ h).shiftRight k⟩
  rw [mantissa_shiftRight, mantissa_ofMantissaAndAccuracy]
  refine Nat.div_lt_of_lt_mul ?_
  rw [← Nat.pow_add, Nat.add_comm k]
  exact Nat.lt_log2_self.trans_le (Nat.pow_le_pow_right (by decide) hbits)

/-- What the greatest double bounds is rounded to a number in range. -/
theorem inRange_round {m : Nat} {e : Int} {a : Accuracy} (s : Sign) (he : e ≤ 971)
    (h : Covers (greatestAt e) (.ofMantissaAndAccuracy m a)) :
    InRange (roundWithAccuracy Format.binary64 s m e a) := by
  obtain ⟨-, hf, hcovers⟩ := shiftToTargetExponent_inRange he h
  have hrounded : Covers (greatestAt (shiftToTargetExponent Format.binary64 m e a).2)
      (.ofMantissaAndAccuracy
        (shiftToTargetExponent Format.binary64 m e a).1.roundedMantissa .exact) :=
    hcovers.roundedMantissa_le.lt_or_eq.imp id fun heq => ⟨heq, rfl, rfl⟩
  obtain ⟨hmantissa, hf', -⟩ := shiftToTargetExponent_inRange hf hrounded
  unfold roundWithAccuracy
  dsimp only
  split_ifs
  · trivial
  · exact ⟨hmantissa, hf'⟩

/-! ## Quotients -/

/-- What bounds the exact quotient covers the whole quotient with its remainder. -/
theorem covers_quotient {m d n : Nat} (h : m ≤ n * d) :
    Covers n (.ofMantissaAndAccuracy (m / d) (accuracyOfFraction (m % d) d)) := by
  rcases (Nat.div_le_of_le_mul (h.trans_eq (Nat.mul_comm n d))).lt_or_eq with hlt | heq
  · refine .inl ?_
    rwa [mantissa_ofMantissaAndAccuracy]
  · have hexact : m % d = 0 := by
      have := Nat.div_add_mod m d
      rw [heq, Nat.mul_comm] at this
      omega
    rw [hexact, heq]
    exact .inr ⟨rfl, rfl, rfl⟩

/-- A normal number from one on. -/
def atLeastOne : UnpackedFloat → Bool
  | .finite _ m e _ => m.log2 == 52 && -52 ≤ e
  | _ => false

/-- A number in range divided by a number from one on is in range. -/
theorem InRange.div {u v : UnpackedFloat} (hu : InRange u) (hv : atLeastOne v = true) :
    InRange (UnpackedFloat.div Format.binary64 u v) := by
  cases v with
  | zero t => cases hv
  | infinity t => cases hv
  | notANumber => cases hv
  | finite t n f hn =>
    cases u with
    | zero s => trivial
    | infinity s => exact hu.elim
    | notANumber => exact hu.elim
    | finite s m e hm =>
      simp only [atLeastOne, Bool.and_eq_true, beq_iff_eq, decide_eq_true_eq] at hv
      obtain ⟨hlog, hf⟩ := hv
      obtain ⟨hm53, he⟩ := hu
      have hmlog : m.log2 ≤ 52 := Nat.le_of_lt_succ ((Nat.log2_lt hm.ne').mpr hm53)
      have hn52 : 2 ^ 52 ≤ n := hlog ▸ Nat.log2_self_le hn.ne'
      unfold UnpackedFloat.div divCore
      have ht : min (e - f) (Format.binary64.targetExponent
          (totalExponent m e - totalExponent n f)) ≤ 971 := by
        simp only [Format.targetExponent, totalExponent, Format.mantissaBits, Format.minExponent]
        norm_num
        omega
      dsimp only
      generalize min (e - f) (Format.binary64.targetExponent
        (totalExponent m e - totalExponent n f)) = g at ht
      refine inRange_round _ ht (covers_quotient ?_)
      have hshift : (e - f - g).toNat ≤ (971 - g).toNat + 52 := by omega
      calc m <<< (e - f - g).toNat = m * 2 ^ (e - f - g).toNat := Nat.shiftLeft_eq _ _
        _ ≤ (2 ^ 53 - 1) * 2 ^ ((971 - g).toNat + 52) :=
          Nat.mul_le_mul (Nat.le_sub_one_of_lt hm53) (Nat.pow_le_pow_right (by decide) hshift)
        _ = greatestAt g * 2 ^ 52 := by rw [Nat.pow_add, ← Nat.mul_assoc, greatestAt]
        _ ≤ greatestAt g * n := Nat.mul_le_mul_left _ hn52

/-! ## Doubles -/

theorem isFinite_neg {x : Float} (h : x.isFinite = true) : (-x).isFinite = true :=
  (inRange_unpack _ h).neg.isFinite_pack

theorem isFinite_div {x y : Float} (hx : x.isFinite = true)
    (hy : atLeastOne y.toModel.unpack = true) : (x / y).isFinite = true :=
  ((inRange_unpack _ hx).div hy).isFinite_pack

/-- The small powers of ten are products of exact doubles. -/
theorem atLeastOne_powerOfTen_small : ∀ e : Fin 23,
    atLeastOne (Json.Numeral.powerOfTen e).toModel.unpack = true := by
  decide +kernel

/-- All powers of ten that are doubles are numbers from one on. -/
theorem atLeastOne_powerOfTen {e : Nat} (he : e ≤ 308) :
    atLeastOne (Json.Numeral.powerOfTen e).toModel.unpack = true := by
  rcases Nat.lt_or_ge e 23 with hsmall | hlarge
  · exact atLeastOne_powerOfTen_small ⟨e, hsmall⟩
  · obtain ⟨hceiling, hceiling', hten⟩ := ceilingOfTen_spec ⟨e, by omega⟩
    simp only at hceiling hceiling' hten
    have hup : UpTo ((ceilingOfTen e).1 * 2 ^ ((ceilingOfTen e).2 : Int))
        (UnpackedFloat.ofScientific Format.binary64 1 e) := by
      refine upTo_ofScientific_unpacked one_ne_zero (by omega) hceiling ?_
      rw [Nat.cast_one, one_mul, zpow_natCast]
      exact_mod_cast hten
    obtain ⟨hlog, hround⟩ := ofScientific_eq_round one_ne_zero (by omega : e ≤ 2048)
    obtain ⟨k, hk⟩ := Nat.exists_eq_add_of_le (le_trans (by decide : 52 ≤ 53) hlog)
    obtain ⟨r, f, hr, heq, hr52, hf, -⟩ := roundWithAccuracy_eq (e := -53) .positive hk (by decide)
    have hpower : (Json.Numeral.powerOfTen e).toModel =
        Float.Model.pack (UnpackedFloat.ofScientific Format.binary64 1 e) := by
      unfold Json.Numeral.powerOfTen Float.ofScientific
      rw [dif_neg (by omega)]
      rfl
    rw [hpower, hup.unpack_pack hceiling (by omega), hround, heq]
    simp only [atLeastOne, hr52, beq_self_eq_true, Bool.true_and, decide_eq_true_eq]
    omega

end FlexLayout.Rounding
