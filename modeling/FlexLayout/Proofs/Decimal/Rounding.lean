import FlexLayout.Json.Numeral
import FlexLayout.Proofs.Decimal.Range
import Mathlib

/-!
# Rounding keeps bounds

A number that is a double of its own bounds whatever rounds from below it. So a product of doubles
is finite when a double bounds the exact product, and this is settled in exact arithmetic. An integer
of at most 53 bits is a double of its own (`ofInt_apply`).

Only numbers from one on are needed here, which keeps subnormal numbers out of the way.
-/

namespace FlexLayout.Rounding

open Float.Model Float.Model.UnpackedFloat

/-! ## Shifting and rounding a significand -/

/-- The number that a significand and its residual bits stand for is at most `n`. -/
def Covers (n : Nat) (em : ExtendedMantissa) : Prop :=
  em.mantissa < n ∨ em.mantissa = n ∧ em.roundBit = false ∧ em.stickyBit = false

theorem Covers.shiftRightOne {n : Nat} {em : ExtendedMantissa} (h : Covers (n * 2) em) :
    Covers n em.shiftRightOne := by
  rcases h with hlt | ⟨heq, hround, hsticky⟩
  · exact .inl (Nat.div_lt_of_lt_mul (by omega))
  · refine .inr ⟨?_, ?_, ?_⟩
    · show em.mantissa / 2 = n
      omega
    · show (em.mantissa % 2 != 0) = false
      rw [heq, Nat.mul_mod_left]
      rfl
    · show (em.roundBit || em.stickyBit) = false
      rw [hround, hsticky]
      rfl

theorem Covers.shiftRight {n : Nat} {em : ExtendedMantissa} (k : Nat)
    (h : Covers (n * 2 ^ k) em) : Covers n (em >>> k) := by
  induction k generalizing n with
  | zero =>
    rw [Nat.pow_zero, Nat.mul_one] at h
    exact h
  | succ k ih =>
    refine Covers.shiftRightOne (ih ?_)
    rwa [Nat.mul_assoc, ← Nat.pow_succ']

theorem mantissa_shiftRight (em : ExtendedMantissa) (k : Nat) :
    (em >>> k).mantissa = em.mantissa / 2 ^ k := by
  induction k with
  | zero => exact (Nat.div_one _).symm
  | succ k ih =>
    show (em >>> k).mantissa / 2 = _
    rw [ih, Nat.div_div_eq_div_mul, ← Nat.pow_succ]

theorem mantissa_le_roundedMantissa (em : ExtendedMantissa) : em.mantissa ≤ em.roundedMantissa := by
  obtain ⟨m, round, sticky⟩ := em
  cases round <;> cases sticky <;>
    simp [ExtendedMantissa.roundedMantissa, ExtendedMantissa.accuracy, Accuracy.roundToNearestEven]

theorem Covers.roundedMantissa_le {n : Nat} {em : ExtendedMantissa} (h : Covers n em) :
    em.roundedMantissa ≤ n := by
  obtain ⟨m, round, sticky⟩ := em
  simp only [Covers] at h
  cases round <;> cases sticky <;>
    simp [ExtendedMantissa.roundedMantissa, ExtendedMantissa.accuracy,
      Accuracy.roundToNearestEven] at h ⊢ <;> omega

/-- An exact significand of more than 53 bits loses the bits that are too many. -/
theorem shiftToTargetExponent_eq {m k : Nat} {e : Int} (hm : m.log2 = 52 + k) (he : -1074 ≤ e) :
    shiftToTargetExponent Format.binary64 m e .exact =
      ((ExtendedMantissa.mk m false false) >>> k, e + k) := by
  have hk : (Format.binary64.targetExponent (totalExponent m e) - e).toNat = k := by
    simp only [Format.targetExponent, totalExponent, Format.mantissaBits, Format.minExponent, hm]
    norm_num
    omega
  unfold shiftToTargetExponent shiftToExponent
  simp only [hk]
  rfl

/-- Rounding to 53 bits leaves 53 bits, and stays within every bound on their grid. -/
theorem roundWithAccuracy_eq {m k : Nat} {e : Int} (s : Sign) (hm : m.log2 = 52 + k)
    (he : -1074 ≤ e) :
    ∃ r f h, roundWithAccuracy Format.binary64 s m e .exact = .finite s r f h ∧ r.log2 = 52 ∧
      e + k ≤ f ∧ ∀ n, m ≤ n * 2 ^ k → (r : ℚ) * 2 ^ f ≤ n * 2 ^ (e + k) := by
  have hm0 : m ≠ 0 := by
    rintro rfl
    rw [Nat.log2_zero] at hm
    omega
  generalize hem : (ExtendedMantissa.mk m false false) >>> k = em
  have hbound (n : Nat) (hn : m ≤ n * 2 ^ k) : em.roundedMantissa ≤ n := by
    have hcovers : Covers (n * 2 ^ k) (.mk m false false) := by
      rcases Nat.lt_or_eq_of_le hn with hlt | heq
      · exact .inl hlt
      · exact .inr ⟨heq, rfl, rfl⟩
    rw [← hem]
    exact (hcovers.shiftRight k).roundedMantissa_le
  have hlow : 2 ^ 52 ≤ em.roundedMantissa := by
    refine le_trans ?_ (mantissa_le_roundedMantissa em)
    rw [← hem, mantissa_shiftRight, Nat.le_div_iff_mul_le (Nat.two_pow_pos k), ← Nat.pow_add, ← hm]
    exact Nat.log2_self_le hm0
  have hhigh : em.roundedMantissa ≤ 2 ^ 53 := by
    refine hbound _ ?_
    have := Nat.lt_log2_self (n := m)
    rw [← Nat.pow_add, show 53 + k = m.log2 + 1 by omega]
    exact this.le
  have hround : ∀ j : Nat, em.roundedMantissa.log2 = 52 + j →
      roundWithAccuracy Format.binary64 s m e .exact =
        if h : em.roundedMantissa / 2 ^ j = 0 then .zero s
        else .finite s (em.roundedMantissa / 2 ^ j) (e + k + j) (Nat.pos_of_ne_zero h) := by
    intro j hj
    unfold roundWithAccuracy
    simp only [shiftToTargetExponent_eq hm he, hem,
      shiftToTargetExponent_eq hj (by omega : -1074 ≤ e + k), mantissa_shiftRight]
  rcases Nat.lt_or_eq_of_le hhigh with hlt | heq
  · have hlog : em.roundedMantissa.log2 = 52 := (Nat.log2_eq_iff (by omega)).mpr ⟨hlow, hlt⟩
    have h := hround 0 hlog
    rw [Nat.pow_zero, Nat.div_one, Int.natCast_zero, Int.add_zero, dif_neg (by omega)] at h
    refine ⟨_, _, _, h, hlog, le_rfl, fun n hn => ?_⟩
    have := hbound n hn
    gcongr
  · have h := hround 1 (by rw [heq]; decide)
    rw [dif_neg (by rw [heq]; decide)] at h
    refine ⟨_, _, _, h, by rw [heq]; decide, by omega, fun n hn => ?_⟩
    have hn := hbound n hn
    have hdiv : ((em.roundedMantissa / 2 ^ 1 : Nat) : ℚ) * 2 ^ (e + k + (1 : Nat)) =
        em.roundedMantissa * 2 ^ (e + k) := by
      rw [heq, zpow_add₀ two_ne_zero]
      norm_num
      ring
    rw [hdiv]
    gcongr

/-! ## Bounds -/

/-- Zero, or a normal number of magnitude from one up to `q`. -/
def UpTo (q : ℚ) : UnpackedFloat → Prop
  | .zero _ => True
  | .finite _ m e _ => m.log2 = 52 ∧ -52 ≤ e ∧ (m : ℚ) * 2 ^ e ≤ q
  | _ => False

theorem UpTo.isFinite {q : ℚ} {u : UnpackedFloat} (h : UpTo q u) : u.isFinite = true := by
  cases u with
  | zero s => rfl
  | finite s m e hm => rfl
  | infinity s => exact h.elim
  | notANumber => exact h.elim

/-- A number below a double of 53 bits has no greater exponent than the double. -/
theorem exponent_le {m c : Nat} {e j : Int} (hm : m ≠ 0) (hc : c < 2 ^ 53)
    (hle : (m : ℚ) * 2 ^ e ≤ c * 2 ^ j) : m.log2 + e ≤ 52 + j := by
  by_contra hlt
  have hpow : (2 : ℚ) ^ (m.log2 : Int) ≤ m := by exact_mod_cast Nat.log2_self_le hm
  have hc' : (c : ℚ) < 2 ^ (53 : Int) := by exact_mod_cast hc
  have : (c : ℚ) * 2 ^ j < m * 2 ^ e := calc
    (c : ℚ) * 2 ^ j < 2 ^ (53 : Int) * 2 ^ j := by gcongr
    _ = 2 ^ (53 + j) := (zpow_add₀ two_ne_zero _ _).symm
    _ ≤ 2 ^ (m.log2 + e) := zpow_le_zpow_right₀ one_le_two (by omega)
    _ = 2 ^ (m.log2 : Int) * 2 ^ e := zpow_add₀ two_ne_zero _ _
    _ ≤ m * 2 ^ e := by gcongr
  exact absurd hle (not_le.mpr this)

/-- What rounds from below a double of 53 bits stays below it. -/
theorem upTo_round {m c : Nat} {e j : Int} (s : Sign) (hm : 52 ≤ m.log2) (hone : 0 ≤ m.log2 + e)
    (he : -1074 ≤ e) (hc : c < 2 ^ 53) (hle : (m : ℚ) * 2 ^ e ≤ c * 2 ^ j) :
    UpTo (c * 2 ^ j) (roundWithAccuracy Format.binary64 s m e .exact) := by
  obtain ⟨k, hk⟩ := Nat.exists_eq_add_of_le hm
  obtain ⟨r, f, hr, heq, hlog, hf, hbound⟩ := roundWithAccuracy_eq s hk he
  have hm0 : m ≠ 0 := by
    rintro rfl
    rw [Nat.log2_zero] at hm
    omega
  have hgrid := exponent_le hm0 hc hle
  obtain ⟨d, hd⟩ := Int.eq_ofNat_of_zero_le (by omega : 0 ≤ j - (e + k))
  have hj : (2 : ℚ) ^ j = 2 ^ d * 2 ^ (e + k) := by
    rw [← zpow_natCast, ← zpow_add₀ two_ne_zero]
    exact congrArg _ (by omega)
  have hn : m ≤ c * 2 ^ d * 2 ^ k := by
    rw [hj, zpow_add₀ two_ne_zero, zpow_natCast] at hle
    have hpos : (0 : ℚ) < 2 ^ e := by positivity
    have : (m : ℚ) ≤ c * 2 ^ d * 2 ^ k := by
      refine le_of_mul_le_mul_right ?_ hpos
      linarith
    exact_mod_cast this
  rw [heq]
  refine ⟨hlog, by omega, (hbound _ hn).trans_eq ?_⟩
  rw [hj]
  push_cast
  ring

/-! ## Packing -/

/-- The leading bit of a normal significand is not stored. -/
theorem toNat_leading_append {m : Nat} (hlog : m.log2 = 52) :
    (1#1 ++ BitVec.ofNat 52 m).toNat = m := by
  have hm : m ≠ 0 := by
    rintro rfl
    cases hlog
  have hlow := Nat.log2_self_le hm
  have hhigh := Nat.lt_log2_self (n := m)
  rw [hlog] at hlow hhigh
  rw [BitVec.toNat_append, ← Nat.shiftLeft_add_eq_or_of_lt (BitVec.isLt _), BitVec.toNat_ofNat]
  show 1 <<< 52 + m % 2 ^ 52 = m
  omega

/-- Packing loses nothing of a normal number. -/
theorem unpack_pack_normal (s : Sign) {m : Nat} {e : Int} (hm : 0 < m) (hlog : m.log2 = 52)
    (hlow : -1074 ≤ e) (hhigh : e ≤ 971) :
    (Float.Model.pack (.finite s m e hm)).unpack = .finite s m e hm := by
  obtain ⟨b, hb⟩ := Int.eq_ofNat_of_zero_le (by omega : 0 ≤ e + 1075)
  have hbiased : (e + (Format.binary64.exponentBias : Int) + (52 : Nat)).toNat = b := by
    show (e + 1023 + 52).toNat = b
    omega
  have hexponent : (BitVec.ofNat 11 b).toNat = b := by
    rw [BitVec.toNat_ofNat, Nat.mod_eq_of_lt (by omega)]
  have hnot (n : Nat) (hn : b ≠ n) (hlt : n < 2 ^ 11) : BitVec.ofNat 11 b ≠ BitVec.ofNat 11 n := by
    intro h
    have := congrArg BitVec.toNat h
    rw [hexponent, BitVec.toNat_ofNat, Nat.mod_eq_of_lt hlt] at this
    exact hn this
  have hpack : UnpackedFloat.pack Format.binary64 (.finite s m e hm) =
      packComponents Format.binary64 s (BitVec.ofNat 11 b) (BitVec.ofNat 52 m) := by
    unfold UnpackedFloat.pack
    simp only [hbiased]
    rw [if_neg (by omega), if_pos (by rw [hlog]; rfl)]
  show UnpackedFloat.unpack Format.binary64 (UnpackedFloat.pack Format.binary64 _) = _
  rw [hpack]
  unfold UnpackedFloat.unpack
  simp only [unpackMantissa_packComponents, unpackExponent_packComponents,
    unpackSign_packComponents, Sign.ofBitVec_toBitVec]
  have hones : (-1#11) = BitVec.ofNat 11 2047 := rfl
  rw [hones, if_neg (hnot 2047 (by omega) (by decide)), if_neg (hnot 0 (by omega) (by decide))]
  simp only [toNat_leading_append hlog, hexponent]
  congr 1
  show (b : Int) - (1023 + 52) = e
  omega

/-- Packing loses nothing of a number in range. -/
theorem UpTo.unpack_pack {c : Nat} {j : Int} {u : UnpackedFloat} (h : UpTo (c * 2 ^ j) u)
    (hc : c < 2 ^ 53) (hj : j ≤ 971) : (Float.Model.pack u).unpack = u := by
  cases u with
  | zero s => cases s <;> rfl
  | infinity s => exact h.elim
  | notANumber => exact h.elim
  | finite s m e hm =>
    obtain ⟨hlog, he, hle⟩ := h
    have := exponent_le hm.ne' hc hle
    exact unpack_pack_normal s hm hlog (by omega) (by omega)

/-! ## Products -/

/-- The exact product of two numbers bounds the rounded one where a double bounds it. -/
theorem UpTo.mul {q r : ℚ} {c : Nat} {j : Int} {u v : UnpackedFloat} (hu : UpTo q u)
    (hv : UpTo r v) (hc : c < 2 ^ 53) (hle : q * r ≤ c * 2 ^ j) :
    UpTo (c * 2 ^ j) (UnpackedFloat.mul Format.binary64 u v) := by
  cases u with
  | infinity s => exact hu.elim
  | notANumber => exact hu.elim
  | zero s =>
    cases v with
    | infinity t => exact hv.elim
    | notANumber => exact hv.elim
    | zero t => trivial
    | finite t n f hn => trivial
  | finite s m e hm =>
    cases v with
    | infinity t => exact hv.elim
    | notANumber => exact hv.elim
    | zero t => trivial
    | finite t n f hn =>
      obtain ⟨hlog, he, hm'⟩ := hu
      obtain ⟨hlog', hf, hn'⟩ := hv
      have hlarge : 104 ≤ (m * n).log2 := by
        have hm52 := Nat.log2_self_le hm.ne'
        have hn52 := Nat.log2_self_le hn.ne'
        rw [hlog] at hm52
        rw [hlog'] at hn52
        rw [Nat.le_log2 (Nat.mul_pos hm hn).ne']
        calc 2 ^ 104 = 2 ^ 52 * 2 ^ 52 := by decide
          _ ≤ m * n := Nat.mul_le_mul hm52 hn52
      refine upTo_round (s * t) (by omega) (by omega) (by omega) hc (le_trans ?_ hle)
      have : ((m * n : Nat) : ℚ) * 2 ^ (e + f) = (m * 2 ^ e) * (n * 2 ^ f) := by
        rw [zpow_add₀ two_ne_zero]
        push_cast
        ring
      have hq : 0 ≤ q := le_trans (by positivity) hm'
      rw [this]
      gcongr

/-! ## Integers -/

theorem shiftRight_exact (c k : Nat) :
    ExtendedMantissa.mk (c * 2 ^ k) false false >>> k = .mk c false false := by
  induction k generalizing c with
  | zero =>
    rw [Nat.pow_zero, Nat.mul_one]
    rfl
  | succ k ih =>
    have hk : ExtendedMantissa.mk (c * 2 ^ (k + 1)) false false >>> k =
        .mk (c * 2) false false := by
      rw [Nat.pow_succ', ← Nat.mul_assoc]
      exact ih (c * 2)
    show (ExtendedMantissa.mk (c * 2 ^ (k + 1)) false false >>> k).shiftRightOne = _
    rw [hk, ExtendedMantissa.shiftRightOne]
    simp

theorem log2_shiftLeft {n : Nat} (hn : n ≠ 0) (k : Nat) : (n <<< k).log2 = n.log2 + k := by
  induction k with
  | zero => rfl
  | succ k ih =>
    rw [Nat.shiftLeft_succ, Nat.log2_two_mul (by simpa using hn), ih]
    rfl

theorem log2_mul_two_pow {a : Nat} (ha : 0 < a) (k : Nat) : (a * 2 ^ k).log2 = a.log2 + k := by
  rw [← Nat.shiftLeft_eq, log2_shiftLeft ha.ne']

/-- A significand of 53 bits stays as it is, whatever number of zeros stands behind it. -/
theorem roundWithAccuracy_exact (s : Sign) {c : Nat} (k : Nat) {e : Int} (hpos : 0 < c)
    (hc : c.log2 = 52) (he : -1074 ≤ e) :
    roundWithAccuracy Format.binary64 s (c * 2 ^ k) e .exact = .finite s c (e + k) hpos := by
  have hlog : (c * 2 ^ k).log2 = 52 + k := by rw [log2_mul_two_pow hpos, hc]
  have hagain := shiftToTargetExponent_eq (k := 0) (e := e + k) hc (by omega)
  unfold roundWithAccuracy
  simp only [shiftToTargetExponent_eq hlog he, shiftRight_exact]
  have hrounded : (ExtendedMantissa.mk c false false).roundedMantissa = c := rfl
  simp only [hrounded, hagain]
  have hzero : ExtendedMantissa.mk c false false >>> 0 = .mk c false false := rfl
  simp only [hzero, dif_neg hpos.ne', Int.natCast_zero, Int.add_zero]

/-- The double of 53 bits that is an integer of at most 53 bits. -/
def whole (s : Sign) (a : Nat) (ha : 0 < a) : UnpackedFloat :=
  .finite s (a * 2 ^ (52 - a.log2)) (-(52 - a.log2 : Nat)) (Nat.mul_pos ha (Nat.two_pow_pos _))

theorem log2_whole {a : Nat} (ha : 0 < a) (h : a < 2 ^ 53) :
    (a * 2 ^ (52 - a.log2)).log2 = 52 := by
  have hlog : a.log2 < 53 := (Nat.log2_lt ha.ne').mpr h
  rw [log2_mul_two_pow ha]
  omega

theorem round_whole (s : Sign) {a : Nat} (ha : 0 < a) (h : a < 2 ^ 53) {k : Nat} (hk : k ≤ 1000) :
    round Format.binary64 s (a * 2 ^ k) (-k) = whole s a ha := by
  have hlog : a.log2 < 53 := (Nat.log2_lt ha.ne').mpr h
  obtain ⟨d, hd⟩ : ∃ d, d = 52 - a.log2 := ⟨_, rfl⟩
  have htarget : Format.binary64.targetExponent (totalExponent (a * 2 ^ k) (-k)) = -d := by
    simp only [Format.targetExponent, totalExponent, Format.mantissaBits, Format.minExponent,
      log2_mul_two_pow ha]
    norm_num
    omega
  have hshift : (-(k : Int) - -d).toNat = d - k := by omega
  -- either the number gets zeros, or it has too many of them
  have hpow : a * 2 ^ k * 2 ^ (d - k) = a * 2 ^ d * 2 ^ (k - d) := by
    rw [Nat.mul_assoc, Nat.mul_assoc, ← Nat.pow_add, ← Nat.pow_add]
    congr 2
    omega
  have hwhole : (a * 2 ^ d).log2 = 52 := hd ▸ log2_whole ha h
  unfold UnpackedFloat.round decreaseExponent
  simp only [htarget, hshift, Nat.shiftLeft_eq, hpow]
  rw [roundWithAccuracy_exact s _ (Nat.mul_pos ha (Nat.two_pow_pos _)) hwhole (by omega)]
  subst hd
  unfold whole
  congr 1
  omega

theorem normalize_apply (s : Sign) {a : Nat} (ha : 0 < a) (h : a < 2 ^ 53) {k : Nat}
    (hk : k ≤ 1000) :
    normalize Format.binary64 (s.apply a * 2 ^ k) (-k) .positive = whole s a ha := by
  have hpos : (0 : Int) < a * 2 ^ k := by positivity
  have htoNat : ((a : Int) * 2 ^ k).toNat = a * 2 ^ k := by
    rw [← Int.toNat_natCast (a * 2 ^ k)]
    push_cast
    rfl
  unfold UnpackedFloat.normalize
  cases s with
  | positive =>
    rw [Sign.apply, Int.compare_eq_gt.mpr hpos]
    simp only [htoNat]
    exact round_whole .positive ha h hk
  | negative =>
    rw [Sign.apply, Int.neg_mul, Int.compare_eq_lt.mpr (by omega)]
    simp only [Int.neg_neg, htoNat]
    exact round_whole .negative ha h hk

theorem ofInt_apply (s : Sign) {a : Nat} (ha : 0 < a) (h : a < 2 ^ 53) :
    UnpackedFloat.ofInt Format.binary64 (s.apply a) = whole s a ha := by
  have := normalize_apply s ha h (k := 0) (by decide)
  rwa [pow_zero, mul_one] at this

theorem exists_apply {p : Int} (hp : p ≠ 0) :
    ∃ s a, 0 < a ∧ a = p.natAbs ∧ p = Sign.apply s a := by
  rcases Int.lt_or_gt_of_ne hp with hlt | hgt
  · exact ⟨.negative, p.natAbs, by omega, rfl, by rw [Sign.apply]; omega⟩
  · exact ⟨.positive, p.natAbs, by omega, rfl, by rw [Sign.apply]; omega⟩

theorem upTo_whole (s : Sign) {a : Nat} (ha : 0 < a) (h : a < 2 ^ 53) :
    UpTo (a * 2 ^ (0 : Int)) (whole s a ha) := by
  refine ⟨log2_whole ha h, by omega, le_of_eq ?_⟩
  rw [zpow_neg, zpow_natCast, zpow_zero, mul_one]
  push_cast
  rw [mul_assoc, mul_inv_cancel₀ (by positivity), mul_one]

/-- An integer of at most 53 bits is a double. -/
theorem upTo_ofNat {n : Nat} (hn : n < 2 ^ 53) :
    UpTo (n * 2 ^ (0 : Int)) (UnpackedFloat.ofNat Format.binary64 n) := by
  rcases Nat.eq_zero_or_pos n with rfl | hpos
  · trivial
  · rw [UnpackedFloat.ofNat, show (n : Int) = Sign.apply .positive n from rfl,
      ofInt_apply .positive hpos hn]
    exact upTo_whole .positive hpos hn

/-! ## Decimals -/

/-- A decimal without a fraction is rounded from its exact value, with bits to spare. -/
theorem ofScientific_eq_round {n e : Nat} (hn : n ≠ 0) (he : e ≤ 2048) :
    53 ≤ (n <<< 53 * 10 ^ e).log2 ∧ UnpackedFloat.ofScientific Format.binary64 n e =
      roundWithAccuracy Format.binary64 .positive (n <<< 53 * 10 ^ e) (-53) .exact := by
  constructor
  · have hpos : 0 < 10 ^ e := Nat.pow_pos (by decide)
    have hn' : 0 < n <<< 53 := by rw [Nat.shiftLeft_eq]; omega
    rw [Nat.le_log2 (Nat.mul_pos hn' hpos).ne']
    calc 2 ^ 53 ≤ n <<< 53 := by rw [Nat.shiftLeft_eq]; omega
      _ ≤ n <<< 53 * 10 ^ e := Nat.le_mul_of_pos_right _ hpos
  · unfold UnpackedFloat.ofScientific
    rw [dif_neg hn, if_neg (by simp; omega), if_neg (by simp; omega), if_pos (by omega)]
    rfl

/-- The exact value of a decimal bounds its double where a double bounds it. -/
theorem upTo_ofScientific_unpacked {n e c : Nat} {j : Int} (hn : n ≠ 0) (he : e ≤ 2048)
    (hc : c < 2 ^ 53) (hle : (n : ℚ) * 10 ^ e ≤ c * 2 ^ j) :
    UpTo (c * 2 ^ j) (UnpackedFloat.ofScientific Format.binary64 n e) := by
  obtain ⟨hlarge, hround⟩ := ofScientific_eq_round hn he
  rw [hround]
  refine upTo_round .positive (by omega) (by omega) (by omega) hc (le_trans (le_of_eq ?_) hle)
  rw [Nat.shiftLeft_eq]
  push_cast
  norm_num
  ring

/-- The bound as a computation. -/
def upTo (q : Nat) : UnpackedFloat → Bool
  | .zero _ => true
  | .finite _ m e _ => m.log2 == 52 && -52 ≤ e && m * 2 ^ (e + 52).toNat ≤ q * 2 ^ 52
  | _ => false

theorem upTo_of_upTo {q : Nat} {u : UnpackedFloat} (h : upTo q u = true) : UpTo q u := by
  cases u with
  | zero s => trivial
  | infinity s => cases h
  | notANumber => cases h
  | finite s m e hm =>
    simp only [upTo, Bool.and_eq_true, beq_iff_eq, decide_eq_true_eq] at h
    obtain ⟨⟨hlog, he⟩, hle⟩ := h
    refine ⟨hlog, he, ?_⟩
    obtain ⟨k, hk⟩ := Int.eq_ofNat_of_zero_le (by omega : 0 ≤ e + 52)
    rw [hk, Int.toNat_natCast] at hle
    have hpow : (2 : ℚ) ^ e * 2 ^ 52 = 2 ^ k := by
      rw [← zpow_natCast, ← zpow_natCast, ← zpow_add₀ two_ne_zero]
      exact congrArg _ hk
    have hle' : (m : ℚ) * 2 ^ k ≤ q * 2 ^ 52 := by exact_mod_cast hle
    rw [← hpow, ← mul_assoc] at hle'
    exact le_of_mul_le_mul_right hle' (by positivity)

/-- The small powers of ten are doubles. -/
theorem upTo_exactlyRepresentablePowersOfTen : ∀ e : Fin 23,
    upTo (10 ^ e.val) Float.exactlyRepresentablePowersOfTen[e].toModel.unpack = true := by
  decide

/-- The exact value of a decimal bounds its double where a double bounds it. -/
theorem upTo_ofScientific {n e c : Nat} {j : Int} (he : e ≤ 2048) (hc : c < 2 ^ 53) (hj : j ≤ 971)
    (hle : (n : ℚ) * 10 ^ e ≤ c * 2 ^ j) :
    UpTo (c * 2 ^ j) (Float.ofScientific n false e).toModel.unpack := by
  unfold Float.ofScientific
  split
  · rename_i h
    have hn : UpTo n n.toUInt64.toFloat.toModel.unpack := by
      have h0 := upTo_ofNat h.1
      have htoNat : n.toUInt64.toNat = n := Nat.mod_eq_of_lt (by omega)
      show UpTo n (Float.Model.pack (UnpackedFloat.ofNat Format.binary64 n.toUInt64.toNat)).unpack
      rw [htoNat, h0.unpack_pack h.1 (by decide)]
      rw [zpow_zero, mul_one] at h0
      exact h0
    have hten := upTo_of_upTo (upTo_exactlyRepresentablePowersOfTen ⟨e, by omega⟩)
    push_cast at hten
    have hmul := hn.mul hten hc hle
    exact (hmul.unpack_pack hc hj).symm ▸ hmul
  · rename_i h
    by_cases hn : n = 0
    · subst hn
      show UpTo _ (Float.Model.pack (UnpackedFloat.ofScientific Format.binary64 0 e)).unpack
      rw [UnpackedFloat.ofScientific, dif_pos rfl]
      trivial
    · have := upTo_ofScientific_unpacked hn he hc hle
      exact (this.unpack_pack hc hj).symm ▸ this

/-! ## Scaling -/

theorem isFinite_ofNat_mul {n e : Nat} (he : e ≤ 308) (hn : n ≤ (room e).1 * 2 ^ (room e).2) :
    (Float.ofNat n * Json.Numeral.powerOfTen e).isFinite = true := by
  obtain ⟨hroom, hroom', hfits⟩ := room_spec ⟨e, by omega⟩
  obtain ⟨hceiling, hceiling', hten⟩ := ceilingOfTen_spec ⟨e, by omega⟩
  simp only at hroom hroom' hfits hceiling hceiling' hten
  have hleft : UpTo ((room e).1 * 2 ^ ((room e).2 : Int)) (Float.ofNat n).toModel.unpack := by
    refine upTo_ofScientific (j := (room e).2) (by decide) hroom (by omega) ?_
    rw [pow_zero, mul_one, zpow_natCast]
    exact_mod_cast hn
  have hright : UpTo ((ceilingOfTen e).1 * 2 ^ ((ceilingOfTen e).2 : Int))
      (Json.Numeral.powerOfTen e).toModel.unpack := by
    refine upTo_ofScientific (j := (ceilingOfTen e).2) (by omega) hceiling (by omega) ?_
    rw [Nat.cast_one, one_mul, zpow_natCast]
    exact_mod_cast hten
  have hmul := hleft.mul hright (c := 2 ^ 53 - 1) (j := (971 : Nat)) (by decide) (by
    rw [zpow_natCast, zpow_natCast, zpow_natCast]
    exact_mod_cast hfits)
  have := (hmul.unpack_pack (by decide) le_rfl).symm ▸ hmul.isFinite
  exact this

/-- A decimal of at most 17 digits that is not above the greatest double is a double. -/
theorem isFinite_ofNat_mul_powerOfTen {n e : Nat} (he : e ≤ 308) (hn : n ≤ 10 ^ 17)
    (hle : n * 10 ^ e ≤ greatest) :
    (Float.ofNat n * Json.Numeral.powerOfTen e).isFinite = true := by
  rcases Nat.lt_trichotomy e 292 with hlt | rfl | hgt
  · refine isFinite_ofNat_mul he ?_
    rw [room, if_pos (by omega)]
    exact hn.trans (by decide)
  · have hmost := Nat.lt_of_mul_lt_mul_right (hle.trans_lt greatest_digits.2.2)
    by_cases hn : n = 17976931348623157
    · rw [hn, show Float.ofNat 17976931348623157 = Float.ofNat 17976931348623156 from rfl]
      exact isFinite_ofNat_mul he (by decide)
    · refine isFinite_ofNat_mul he ?_
      exact Nat.le_sub_one_of_lt (lt_of_le_of_ne (Nat.le_of_lt_succ hmost) hn)
  · refine isFinite_ofNat_mul he ?_
    rw [room, if_neg (by omega), if_neg (by omega), Nat.pow_zero, Nat.mul_one]
    exact (Nat.le_div_iff_mul_le (Nat.pow_pos (by decide))).mpr hle

end FlexLayout.Rounding
