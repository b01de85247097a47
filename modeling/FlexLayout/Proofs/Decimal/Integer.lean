import FlexLayout.Proofs.Decimal.Shortest

/-!
# Integers as doubles

An integer of at most 53 bits is a double. The sum of two such integers is exact if it has at most
53 bits too (`ofInt_add_ofInt`), and the integer is got back from the bits of the double
(`integer?_ofInt`).
-/

namespace FlexLayout.Rounding

open Float.Model Float.Model.UnpackedFloat

/-! ## Sums -/

/-- A number with the zeros that bring it to a common exponent. -/
theorem decreaseExponent_whole (a : Nat) {d k : Nat} (h : d ≤ k) :
    (decreaseExponent (a * 2 ^ d) (-d) (-k)).1 = a * 2 ^ k := by
  have hshift : (-(d : Int) - -k).toNat = k - d := by omega
  unfold decreaseExponent
  dsimp only
  rw [hshift, Nat.shiftLeft_eq, Nat.mul_assoc, ← Nat.pow_add, Nat.add_sub_cancel' h]

theorem add_whole {s t : Sign} {a b : Nat} (ha : 0 < a) (hb : 0 < b) :
    ∃ k : Nat, k ≤ 52 ∧ UnpackedFloat.add Format.binary64 (whole s a ha) (whole t b hb) =
      normalize Format.binary64 ((s.apply a + t.apply b) * 2 ^ k) (-(k : Nat)) .positive := by
  obtain ⟨d, hd⟩ : ∃ d, d = 52 - a.log2 := ⟨_, rfl⟩
  obtain ⟨f, hf⟩ : ∃ f, f = 52 - b.log2 := ⟨_, rfl⟩
  have happly (s : Sign) (n k : Nat) : s.apply (n * 2 ^ k : Nat) = s.apply n * 2 ^ k := by
    cases s <;> simp [Sign.apply]
  refine ⟨max d f, by omega, ?_⟩
  have hmin : min (-(d : Int)) (-f) = -((max d f : Nat) : Int) := by omega
  unfold whole UnpackedFloat.add
  simp only [← hd, ← hf, hmin, decreaseExponent_whole a (Nat.le_max_left d f),
    decreaseExponent_whole b (Nat.le_max_right d f), happly, Int.add_mul]

theorem ofInt_zero : UnpackedFloat.ofInt Format.binary64 0 = .zero .positive := rfl

theorem add_ofInt {p q : Int} (hp : p.natAbs < 2 ^ 53) (hq : q.natAbs < 2 ^ 53)
    (hpq : (p + q).natAbs < 2 ^ 53) :
    UnpackedFloat.add Format.binary64 (UnpackedFloat.ofInt Format.binary64 p)
      (UnpackedFloat.ofInt Format.binary64 q) = UnpackedFloat.ofInt Format.binary64 (p + q) := by
  rcases eq_or_ne p 0 with rfl | hp0
  · rcases eq_or_ne q 0 with rfl | hq0
    · rfl
    · obtain ⟨t, b, hb, rfl, hqb⟩ := exists_apply hq0
      rw [Int.zero_add, hqb, ofInt_apply t hb hq]
      rfl
  · obtain ⟨s, a, ha, rfl, hpa⟩ := exists_apply hp0
    rcases eq_or_ne q 0 with rfl | hq0
    · rw [Int.add_zero, hpa, ofInt_apply s ha hp]
      rfl
    · obtain ⟨t, b, hb, rfl, hqb⟩ := exists_apply hq0
      obtain ⟨k, hk, hadd⟩ := add_whole (s := s) (t := t) ha hb
      have hsum : UnpackedFloat.add Format.binary64 (UnpackedFloat.ofInt Format.binary64 p)
          (UnpackedFloat.ofInt Format.binary64 q) =
            normalize Format.binary64 ((p + q) * 2 ^ k) (-k) .positive := by
        rw [hpa, hqb, ofInt_apply s ha hp, ofInt_apply t hb hq]
        exact hadd
      rw [hsum]
      rcases eq_or_ne (p + q) 0 with hzero | hpq0
      · rw [hzero, Int.zero_mul]
        rfl
      · obtain ⟨r, c, hc, rfl, hrc⟩ := exists_apply hpq0
        rw [hrc, normalize_apply r hc hpq (by omega), ofInt_apply r hc hpq]

/-! ## Doubles -/

theorem unpack_pack_ofInt {p : Int} (hp : p.natAbs < 2 ^ 53) :
    (Float.Model.pack (UnpackedFloat.ofInt Format.binary64 p)).unpack =
      UnpackedFloat.ofInt Format.binary64 p := by
  rcases eq_or_ne p 0 with rfl | hp0
  · rfl
  · obtain ⟨s, a, ha, rfl, hpa⟩ := exists_apply hp0
    rw [hpa, ofInt_apply s ha hp]
    exact unpack_pack_normal s _ (log2_whole ha hp) (by omega) (by omega)

/-- Times one. -/
theorem mul_one_whole {a : Nat} (h : a < 2 ^ 53) :
    UnpackedFloat.mul Format.binary64 (UnpackedFloat.ofInt Format.binary64 a)
      (whole .positive 1 Nat.one_pos) = UnpackedFloat.ofInt Format.binary64 a := by
  rcases Nat.eq_zero_or_pos a with rfl | ha
  · rfl
  · rw [show (a : Int) = Sign.apply .positive a from rfl, ofInt_apply .positive ha h]
    have hpos : 0 < a * 2 ^ (52 - a.log2) := Nat.mul_pos ha (Nat.two_pow_pos _)
    show roundWithAccuracy Format.binary64 .positive (a * 2 ^ (52 - a.log2) * (1 * 2 ^ 52))
      (-(52 - a.log2 : Nat) + -(52 : Nat)) .exact = _
    rw [Nat.one_mul, roundWithAccuracy_exact .positive 52 hpos (log2_whole ha h) (by omega)]
    unfold whole
    congr 1
    omega

theorem toModel_ofNat {a : Nat} (h : a < 2 ^ 53) :
    (Float.ofNat a).toModel = Float.Model.pack (UnpackedFloat.ofInt Format.binary64 a) := by
  have htoNat : a.toUInt64.toNat = a := Nat.mod_eq_of_lt (by omega)
  have hone : (Float.exactlyRepresentablePowersOfTen[0]).toModel.unpack =
      whole .positive 1 Nat.one_pos := by rfl
  show (Float.ofScientific a false 0).toModel = _
  unfold Float.ofScientific
  rw [dif_pos ⟨h, by decide⟩]
  show Float.Model.pack (UnpackedFloat.mul Format.binary64
    (Float.Model.pack (UnpackedFloat.ofNat Format.binary64 a.toUInt64.toNat)).unpack
    (Float.exactlyRepresentablePowersOfTen[0]).toModel.unpack) = _
  rw [htoNat, UnpackedFloat.ofNat, unpack_pack_ofInt (by simpa using h), hone, mul_one_whole h]

theorem toModel_ofInt {p : Int} (hp : p.natAbs < 2 ^ 53) :
    (Float.ofInt p).toModel = Float.Model.pack (UnpackedFloat.ofInt Format.binary64 p) := by
  cases p with
  | ofNat a => exact toModel_ofNat hp
  | negSucc a =>
    have ha : a + 1 < 2 ^ 53 := hp
    show Float.Model.pack (Float.ofNat (a + 1)).toModel.unpack.neg = _
    rw [toModel_ofNat ha, unpack_pack_ofInt (p := (a + 1 : Nat)) ha, Int.negSucc_eq]
    exact congrArg Float.Model.pack <| calc
      (UnpackedFloat.ofInt Format.binary64 (a + 1 : Nat)).neg
        = (whole .positive (a + 1) a.succ_pos).neg :=
          congrArg _ (ofInt_apply .positive a.succ_pos ha)
      _ = whole .negative (a + 1) a.succ_pos := rfl
      _ = _ := (ofInt_apply .negative a.succ_pos ha).symm

/-- Sums of integers of at most 53 bits are exact as far as they have at most 53 bits. -/
theorem ofInt_add_ofInt {p q : Int} (hp : p.natAbs < 2 ^ 53) (hq : q.natAbs < 2 ^ 53)
    (hpq : (p + q).natAbs < 2 ^ 53) : Float.ofInt p + Float.ofInt q = Float.ofInt (p + q) := by
  have hmodel : (Float.ofInt p + Float.ofInt q).toModel = (Float.ofInt (p + q)).toModel := by
    show Float.Model.pack (UnpackedFloat.add Format.binary64 (Float.ofInt p).toModel.unpack
      (Float.ofInt q).toModel.unpack) = _
    rw [toModel_ofInt hp, toModel_ofInt hq, toModel_ofInt hpq, unpack_pack_ofInt hp,
      unpack_pack_ofInt hq, add_ofInt hp hq hpq]
  exact congrArg Float.ofModel hmodel

end FlexLayout.Rounding

namespace FlexLayout.Binary

open Float.Model Float.Model.UnpackedFloat Rounding

/-! ## Bits -/

/-- What an unpacked double stands for. -/
def ofUnpacked : UnpackedFloat → Binary
  | .notANumber => nan
  | .infinity s => infinite (s == .negative)
  | .zero s => finite (s == .negative) 0 (-1074)
  | .finite s m e _ => finite (s == .negative) m e

theorem toNat_unpackMantissa (b : BitVec Format.binary64.numBits) :
    (@unpackMantissa Format.binary64 b).toNat = b.toNat % hiddenBit := by
  show (b.extractLsb 51 0).toNat = _
  rw [BitVec.extractLsb_toNat]
  rfl

theorem unpackSign_eq (b : BitVec Format.binary64.numBits) :
    (Sign.ofBitVec (@unpackSign Format.binary64 b) == .negative) =
      decide (b.toNat / hiddenBit / 2048 = 1) := by
  have hsign : (@unpackSign Format.binary64 b).toNat = b.toNat / hiddenBit / 2048 := by
    show (b.extractLsb 63 63).toNat = _
    rw [BitVec.extractLsb_toNat, Nat.shiftRight_eq_div_pow, Nat.div_div_eq_div_mul]
    have hlt : b.toNat < 2 ^ 64 := b.isLt
    show b.toNat / 2 ^ 63 % 2 = b.toNat / 2 ^ 63
    omega
  rw [← hsign]
  generalize @unpackSign Format.binary64 b = v
  revert v
  decide

/-- The bits of a double are taken apart as a double is unpacked. -/
theorem ofFloat_eq (x : Float) : ofFloat x = ofUnpacked x.toModel.unpack := by
  obtain ⟨bits, hbits⟩ : ∃ bits, bits = x.toBits.toBitVec := ⟨_, rfl⟩
  have htoNat : x.toBits.toNat = bits.toNat := congrArg BitVec.toNat hbits.symm
  have hones : @unpackExponent Format.binary64 bits = -1#_ ↔
      bits.toNat / hiddenBit % 2048 = 2047 := by
    rw [← BitVec.toNat_inj, toNat_unpackExponent]
    rfl
  have hzeros : @unpackExponent Format.binary64 bits = 0#_ ↔
      bits.toNat / hiddenBit % 2048 = 0 := by
    rw [← BitVec.toNat_inj, toNat_unpackExponent]
    rfl
  have hnone : @unpackMantissa Format.binary64 bits = 0#_ ↔ bits.toNat % hiddenBit = 0 := by
    rw [← BitVec.toNat_inj, toNat_unpackMantissa]
    rfl
  have happend : (1#1 ++ @unpackMantissa Format.binary64 bits).toNat =
      hiddenBit + bits.toNat % hiddenBit := by
    rw [BitVec.toNat_append, ← Nat.shiftLeft_add_eq_or_of_lt (BitVec.isLt _),
      toNat_unpackMantissa]
    rfl
  show _ = ofUnpacked (UnpackedFloat.unpack Format.binary64 x.toBits.toBitVec)
  unfold ofFloat UnpackedFloat.unpack
  rw [← hbits, htoNat]
  simp only [hones, hzeros, hnone, happend, toNat_unpackExponent, toNat_unpackMantissa]
  split_ifs with hinfinite hfraction hsmall hfraction
  · exact congrArg infinite (unpackSign_eq bits).symm
  · rfl
  · rw [hfraction, ofUnpacked, unpackSign_eq]
  · rw [hsmall, ofUnpacked, unpackSign_eq]
    rfl
  · rw [ofUnpacked, unpackSign_eq]
    rfl

/-- An integer of at most 53 bits is got back from its double. -/
theorem integer?_ofInt {p : Int} (hp : p.natAbs < 2 ^ 53) :
    (ofFloat (Float.ofInt p)).integer? = some p := by
  rw [ofFloat_eq, toModel_ofInt hp, unpack_pack_ofInt hp]
  rcases eq_or_ne p 0 with rfl | hp0
  · rw [ofInt_zero, ofUnpacked, integer?, fraction]
    simp only [Nat.zero_mul, Nat.zero_mod, Nat.zero_div, if_true]
    rfl
  · obtain ⟨s, a, ha, hap, rfl⟩ := exists_apply hp0
    rw [← hap] at hp
    obtain ⟨d, hd⟩ : ∃ d, d = 52 - a.log2 := ⟨_, rfl⟩
    have hden : Nat.pow 2 (- -(d : Int)).toNat = 2 ^ d := by
      rw [Int.neg_neg, Int.toNat_natCast]
      rfl
    have hnum : a * 2 ^ d * Nat.pow 2 (-(d : Int)).toNat = a * 2 ^ d := by
      rw [show (-(d : Int)).toNat = 0 by omega]
      exact Nat.mul_one _
    have hvalue : a * 2 ^ d / 2 ^ d = a := Nat.mul_div_cancel _ (Nat.two_pow_pos d)
    rw [ofInt_apply s ha hp, whole, ofUnpacked, integer?, fraction, ← hd]
    simp only [hden, hnum, hvalue, Nat.mul_mod_left, if_true]
    cases s <;> rfl

end FlexLayout.Binary
