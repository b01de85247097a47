import FlexLayout.Decimal.Shortest
import FlexLayout.Proofs.Decimal.Rounding

/-!
# Bounds of the shortest decimal

The shortest decimal of a double lies in the interval of the double, so it is hardly greater than
the double. It has at most seventeen digits, because the grids that are searched start at the
leading digit of the double.
-/

namespace FlexLayout

/-! ## Finite doubles -/

namespace Binary

open Float.Model Float.Model.UnpackedFloat

theorem toNat_unpackExponent (b : BitVec Format.binary64.numBits) :
    (@unpackExponent Format.binary64 b).toNat = b.toNat / hiddenBit % 2048 := by
  show (b.extractLsb 62 52).toNat = _
  rw [BitVec.extractLsb_toNat, Nat.shiftRight_eq_div_pow]
  rfl

theorem biased_ne_of_isFinite {x : Float} (h : x.isFinite = true) :
    x.toBits.toNat / hiddenBit % 2048 ≠ 2047 := by
  intro heq
  have hexponent : @unpackExponent Format.binary64 x.toBits.toBitVec = -1#_ := by
    refine BitVec.eq_of_toNat_eq ?_
    rw [toNat_unpackExponent]
    exact heq
  change (UnpackedFloat.unpack Format.binary64 x.toBits.toBitVec).isFinite = true at h
  unfold UnpackedFloat.unpack at h
  simp only [hexponent, if_true] at h
  split at h <;> cases h

/-- A finite double has a significand of 53 bits and an exponent in range. -/
theorem exists_ofFloat_eq {x : Float} (h : x.isFinite = true) :
    ∃ negative significand e, ofFloat x = .finite negative significand e ∧
      significand < 2 ^ 53 ∧ e ≤ 971 := by
  have hbiased := biased_ne_of_isFinite h
  have hlt : x.toBits.toNat / hiddenBit % 2048 < 2048 := Nat.mod_lt _ (by decide)
  have hfraction : x.toBits.toNat % hiddenBit < 2 ^ 52 := Nat.mod_lt _ (by decide)
  unfold ofFloat
  dsimp only
  rw [if_neg hbiased]
  split
  · exact ⟨_, _, _, rfl, by omega, by omega⟩
  · refine ⟨_, _, _, rfl, ?_, by omega⟩
    unfold hiddenBit at *
    omega

end Binary

/-! ## Digits and magnitudes -/

namespace Decimal

theorem width_pos (n : Nat) : 0 < width n := Nat.length_toDigits_pos

theorem lt_pow_width (n : Nat) : n < 10 ^ width n :=
  (Nat.length_toDigits_le_iff (by decide) (width_pos n)).mp le_rfl

theorem pow_width_le {n : Nat} (hn : 0 < n) : 10 ^ (width n - 1) ≤ n := by
  by_contra hlt
  rcases Nat.eq_zero_or_pos (width n - 1) with h | h
  · rw [h] at hlt
    omega
  · have := (Nat.length_toDigits_le_iff (by decide) h).mpr (not_le.mp hlt)
    have hw := width_pos n
    unfold width at *
    omega

/-- A fraction is less than the power of ten after its magnitude. -/
theorem lt_pow_magnitude {num den : Nat} (hnum : 0 < num) (hden : 0 < den) :
    (num : ℚ) < 10 ^ (magnitude num den + 1) * den := by
  unfold magnitude
  split
  · rw [sub_add_cancel, zpow_natCast]
    exact_mod_cast (Nat.div_lt_iff_lt_mul hden).mp (lt_pow_width (num / den))
  · rename_i hlt
    generalize hq : (den + num - 1) / num - 1 = q
    obtain ⟨hqpos, hqden⟩ : 0 < q ∧ q * num < den := by
      have hdiv := Nat.div_mul_le_self (den + num - 1) num
      have htwo : 2 ≤ (den + num - 1) / num := by
        rw [Nat.le_div_iff_mul_le hnum]
        omega
      refine ⟨by omega, ?_⟩
      rw [← hq, Nat.sub_mul]
      omega
    obtain ⟨w, hw⟩ := Nat.exists_eq_succ_of_ne_zero (width_pos q).ne'
    have hpow := pow_width_le hqpos
    rw [hw, Nat.succ_sub_one] at hpow
    have : num * 10 ^ w < den := calc
      num * 10 ^ w ≤ num * q := Nat.mul_le_mul_left num hpow
      _ = q * num := Nat.mul_comm _ _
      _ < den := hqden
    have hcast : (num : ℚ) * 10 ^ w < den := by exact_mod_cast this
    rw [hw, show -((w.succ : Nat) : Int) + 1 = -(w : Int) by push_cast; ring, zpow_neg,
      zpow_natCast, ← div_eq_inv_mul, lt_div_iff₀ (by positivity)]
    exact hcast

/-! ## Values -/

/-- The number that a decimal stands for. -/
def value (d : Decimal) : ℚ := d.digits * 10 ^ d.exponent

theorem value_go (n : Nat) (d : Decimal) : (trim.go n d).value = d.value := by
  induction n generalizing d with
  | zero => rfl
  | succ n ih =>
    unfold trim.go
    split
    · rename_i h
      rw [ih]
      obtain ⟨k, hk⟩ := Nat.dvd_of_mod_eq_zero h.2
      unfold value
      rw [hk, Nat.mul_div_cancel_left k (by decide), zpow_add₀ (by norm_num), zpow_one]
      push_cast
      ring
    · rfl

theorem digits_go_le (n : Nat) (d : Decimal) : (trim.go n d).digits ≤ d.digits := by
  induction n generalizing d with
  | zero => exact le_rfl
  | succ n ih =>
    unfold trim.go
    split
    · exact (ih _).trans (Nat.div_le_self _ _)
    · exact le_rfl

/-- Zeros at the end add nothing to the value. -/
theorem value_trim (d : Decimal) : d.trim.value = d.value := value_go _ d

theorem digits_trim_le (d : Decimal) : d.trim.digits ≤ d.digits := digits_go_le _ d

/-! ## Points of a grid -/

theorem pow_toNat {b : ℚ} (hb : b ≠ 0) (k : Int) :
    b ^ k.toNat = b ^ k * b ^ (-k).toNat := by
  rw [← zpow_natCast, ← zpow_natCast, ← zpow_add₀ hb]
  exact congrArg _ (by omega)

/-- Multiples of `2 ^ e` and of `10 ^ t` are natural numbers on a common grid. -/
theorem exists_common_grid (e t : Int) : ∃ k : ℚ, 0 < k ∧
    (∀ a : Nat, ((a * (Nat.pow 2 (-e).toNat * Nat.pow 10 t.toNat) : Nat) : ℚ) = a * 10 ^ t * k) ∧
      ∀ a : Nat, ((a * (Nat.pow 2 e.toNat * Nat.pow 10 (-t).toNat) : Nat) : ℚ) = a * 2 ^ e * k := by
  refine ⟨2 ^ (-e).toNat * 10 ^ (-t).toNat, by positivity, fun a => ?_, fun a => ?_⟩
  · show ((a * (2 ^ (-e).toNat * 10 ^ t.toNat) : Nat) : ℚ) = _
    push_cast
    rw [pow_toNat (by norm_num) t]
    ring
  · show ((a * (2 ^ e.toNat * 10 ^ (-t).toNat) : Nat) : ℚ) = _
    push_cast
    rw [pow_toNat two_ne_zero e]
    ring

/-- A point that is found lies in the interval, at most one step above the value. -/
theorem onGrid_spec {tie : Tie} {i : Interval} {e t : Int} {d : Decimal}
    (h : onGrid tie i e t = some d) :
    i.low * 2 ^ e ≤ d.value ∧ d.value ≤ i.high * 2 ^ e ∧
      ∃ below : Nat, d.digits ≤ below + 1 ∧ (below : ℚ) * 10 ^ t ≤ i.value * 2 ^ e := by
  obtain ⟨k, hk, hunit, hscale⟩ := exists_common_grid e t
  unfold onGrid at h
  extract_lets scale unit below within down up upper at h
  have hupper {a b : Nat} (hle : a * unit ≤ b * scale) : (a : ℚ) * 10 ^ t ≤ b * 2 ^ e := by
    rw [← Nat.cast_le (α := ℚ), hunit, hscale] at hle
    exact le_of_mul_le_mul_right hle hk
  have hlower {a b : Nat} (hle : b * scale ≤ a * unit) : (b : ℚ) * 2 ^ e ≤ a * 10 ^ t := by
    rw [← Nat.cast_le (α := ℚ), hunit, hscale] at hle
    exact le_of_mul_le_mul_right hle hk
  have hpoint {point : Nat} (hwithin : within point = true) (hstep : point ≤ below + 1) :
      i.low * 2 ^ e ≤ (Decimal.mk point t).value ∧ (Decimal.mk point t).value ≤ i.high * 2 ^ e ∧
        ∃ below : Nat, point ≤ below + 1 ∧ (below : ℚ) * 10 ^ t ≤ i.value * 2 ^ e := by
    simp only [within] at hwithin
    split at hwithin <;> simp only [decide_eq_true_eq] at hwithin
    · exact ⟨hlower hwithin.1, hupper hwithin.2, below, hstep, hupper (Nat.div_mul_le_self _ _)⟩
    · exact ⟨hlower hwithin.1.le, hupper hwithin.2.le, below, hstep,
        hupper (Nat.div_mul_le_self _ _)⟩
  split at h <;> cases h
  · rename_i hdown hup
    cases upper
    · exact hpoint hdown (Nat.le_succ below)
    · exact hpoint hup le_rfl
  · exact hpoint ‹_› (Nat.le_succ below)
  · exact hpoint ‹_› le_rfl

/-! ## The shortest decimal -/

/-- The shortest decimal comes from a grid that starts at the leading digit, less its zeros at the
end, or it is zero. -/
theorem shortest_cases (tie : Tie) {significand : Nat} {e : Int} (h : significand ≠ 0) :
    (∃ n : Nat, n < 17 ∧ ∃ d, onGrid tie (Interval.around significand e) (e - 2)
        (magnitude (Binary.fraction significand e).1 (Binary.fraction significand e).2 - n) =
          some d ∧
      shortest tie significand e = d.trim) ∨ shortest tie significand e = ⟨0, 0⟩ := by
  unfold shortest
  rw [if_neg h]
  dsimp only
  generalize hfound : (List.range 17).findSome? _ = found
  cases found with
  | none => exact .inr rfl
  | some d =>
    obtain ⟨n, hn, hd⟩ := List.exists_of_findSome?_eq_some hfound
    exact .inl ⟨n, List.mem_range.mp hn, d, hd, rfl⟩

theorem value_fraction (significand : Nat) (e : Int) :
    (significand : ℚ) * 2 ^ e * (Binary.fraction significand e).2 =
      (Binary.fraction significand e).1 := by
  show (significand : ℚ) * 2 ^ e * ((2 ^ (-e).toNat : Nat) : ℚ) =
    ((significand * 2 ^ e.toNat : Nat) : ℚ)
  push_cast
  rw [pow_toNat two_ne_zero e]
  ring

/-- In quarters of the last place. -/
theorem quarter (a : Nat) (e : Int) : ((4 * a : Nat) : ℚ) * 2 ^ (e - 2) = a * 2 ^ e := by
  rw [zpow_sub₀ two_ne_zero]
  push_cast
  ring

/-- The shortest decimal is at most half a unit of the last place above the double. -/
theorem value_shortest_le (tie : Tie) (significand : Nat) (e : Int) :
    (shortest tie significand e).value ≤ (2 * significand + 1) * 2 ^ (e - 1) := by
  have hzero : (Decimal.mk 0 0).value ≤ (2 * significand + 1) * 2 ^ (e - 1) := by
    unfold value
    rw [Nat.cast_zero, zero_mul]
    positivity
  by_cases h : significand = 0
  · unfold shortest
    rw [if_pos h]
    exact hzero
  · rcases shortest_cases tie h with ⟨n, hn, d, hd, hshortest⟩ | hshortest
    · rw [hshortest, value_trim]
      obtain ⟨-, hle, -⟩ := onGrid_spec hd
      refine hle.trans_eq ?_
      show ((4 * significand + 2 : Nat) : ℚ) * 2 ^ (e - 2) = _
      rw [show e - 1 = e - 2 + 1 by omega, zpow_add₀ two_ne_zero]
      push_cast
      ring
    · rw [hshortest]
      exact hzero

/-- Only zero is written without a digit that counts. -/
theorem exponent_shortest_of_digits (tie : Tie) (significand : Nat) (e : Int)
    (h : (shortest tie significand e).digits = 0) : (shortest tie significand e).exponent = 0 := by
  by_cases hzero : significand = 0
  · unfold shortest
    rw [if_pos hzero]
  · rcases shortest_cases tie hzero with ⟨n, hn, d, hd, hshortest⟩ | hshortest
    · obtain ⟨hlow, -, -⟩ := onGrid_spec hd
      have hvalue : d.value = 0 := by
        rw [← value_trim, ← hshortest, value, h, Nat.cast_zero, zero_mul]
      have hpos : 0 < (Interval.around significand e).low := by
        unfold Interval.around
        dsimp only
        split <;> omega
      rw [hvalue] at hlow
      have : (0 : ℚ) < (Interval.around significand e).low * 2 ^ (e - 2) :=
        mul_pos (Nat.cast_pos.mpr hpos) (zpow_pos two_pos _)
      exact absurd hlow (not_le.mpr this)
    · rw [hshortest]

/-- Seventeen digits, or the power of ten after them. -/
theorem digits_shortest_le (tie : Tie) (significand : Nat) (e : Int) :
    (shortest tie significand e).digits ≤ 10 ^ 17 := by
  by_cases h : significand = 0
  · unfold shortest
    rw [if_pos h]
    exact Nat.zero_le _
  rcases shortest_cases tie h with ⟨n, hn, d, hd, hshortest⟩ | hshortest
  · rw [hshortest]
    refine (digits_trim_le d).trans ?_
    obtain ⟨-, -, below, hdigits, hbelow⟩ := onGrid_spec hd
    generalize hf : Binary.fraction significand e = f at *
    have hden : 0 < f.2 := by
      rw [← hf]
      exact Nat.two_pow_pos _
    have hnum : 0 < f.1 := by
      rw [← hf]
      exact Nat.mul_pos (Nat.pos_of_ne_zero h) (Nat.two_pow_pos _)
    have hvalue : (significand : ℚ) * 2 ^ e < 10 ^ (magnitude f.1 f.2 + 1) := by
      have hlt := lt_pow_magnitude hnum hden
      have hfraction := value_fraction significand e
      rw [hf] at hfraction
      rw [← hfraction] at hlt
      exact lt_of_mul_lt_mul_right hlt (Nat.cast_nonneg _)
    have hten : (10 : ℚ) ^ (magnitude f.1 f.2 + 1) =
        10 ^ (n + 1) * 10 ^ (magnitude f.1 f.2 - n) := by
      rw [← zpow_natCast, ← zpow_add₀ (by norm_num)]
      exact congrArg _ (by push_cast; ring)
    have hlt : (below : ℚ) < 10 ^ (n + 1) := by
      have hle : (below : ℚ) * 10 ^ (magnitude f.1 f.2 - n) ≤ significand * 2 ^ e :=
        hbelow.trans_eq (quarter significand e)
      rw [hten] at hvalue
      exact lt_of_mul_lt_mul_right (hle.trans_lt hvalue) (by positivity)
    have hpow : 10 ^ (n + 1) ≤ 10 ^ 17 := Nat.pow_le_pow_right (by decide) (by omega)
    have : below < 10 ^ (n + 1) := by exact_mod_cast hlt
    omega
  · rw [hshortest]
    exact Nat.zero_le _

/-- With a natural exponent a bound on the value is one on natural numbers. -/
theorem value_le_iff {d : Decimal} {k n : Nat} (hk : d.exponent = k) :
    d.value ≤ n ↔ d.digits * 10 ^ k ≤ n := by
  unfold value
  rw [hk, zpow_natCast, ← Nat.cast_le (α := ℚ)]
  push_cast
  rfl

/-- The shortest decimal of a double is not above the greatest double: for that one the interval
goes further, but the decimal does not, and every other interval ends before it. -/
theorem value_shortest_le_greatest {significand : Nat} {e : Int} (hs : significand < 2 ^ 53)
    (he : e ≤ 971) : (shortest .even significand e).value ≤ Rounding.greatest := by
  by_cases hgreatest : significand = 2 ^ 53 - 1 ∧ e = 971
  · rw [hgreatest.1, hgreatest.2, Rounding.shortest_greatest]
    refine (value_le_iff (k := 292) rfl).mpr ?_
    dsimp only
    exact Rounding.greatest_digits.2.1
  · refine (value_shortest_le .even significand e).trans ?_
    obtain ⟨n, k, hn, hk, hle⟩ : ∃ n k : Nat, 2 * significand + 1 ≤ n ∧ e - 1 ≤ k ∧
        n * 2 ^ k ≤ Rounding.greatest := by
      by_cases h : e = 971
      · exact ⟨2 ^ 54 - 3, 970, by omega, by omega,
          Rounding.mul_two_pow_le_greatest (by decide) (by decide)⟩
      · exact ⟨2 ^ 54 - 1, 969, by omega, by omega,
          Rounding.mul_two_pow_le_greatest (by decide) (by decide)⟩
    have hn' : (2 * significand + 1 : ℚ) ≤ n := by exact_mod_cast hn
    have hpow : (2 : ℚ) ^ (e - 1) ≤ 2 ^ k := by
      rw [← zpow_natCast]
      exact zpow_le_zpow_right₀ one_le_two hk
    calc (2 * significand + 1 : ℚ) * 2 ^ (e - 1) ≤ n * 2 ^ k :=
          mul_le_mul hn' hpow (by positivity) (Nat.cast_nonneg n)
      _ = (n * 2 ^ k : Nat) := by push_cast; rfl
      _ ≤ Rounding.greatest := Nat.cast_le.mpr hle

end Decimal

end FlexLayout
