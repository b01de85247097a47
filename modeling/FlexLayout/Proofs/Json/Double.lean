import FlexLayout.Proofs.Decimal.Shortest
import FlexLayout.Proofs.Json.Numeral

/-!
# Finite doubles are read

The text of a finite double is a numeral with a point or an exponent, and the numeral is read as
some double: its digits fit 64 bits, and scaling them does not overflow. The double that is read
need not be the one that was written.
-/

namespace FlexLayout.Json

namespace Numeral

/-! ## The value of a numeral -/

theorem le_ofDigitChars (cs : List Char) (n : Nat) : n ≤ Nat.ofDigitChars 10 cs n := by
  rw [Nat.ofDigitChars_eq_ofDigitChars_zero]
  exact (Nat.le_mul_of_pos_left n (Nat.pow_pos (by decide))).trans (Nat.le_add_right _ _)

/-- Digits that fit 64 bits are gathered to the last. -/
theorem gather_eq {cs : List Char} {n : Nat} (h : Nat.ofDigitChars 10 cs n < UInt64.size) :
    gather n cs = (Nat.ofDigitChars 10 cs n, []) := by
  induction cs generalizing n with
  | nil => rfl
  | cons c cs ih =>
    rw [Nat.ofDigitChars_cons] at h ⊢
    unfold gather
    rw [if_pos ((le_ofDigitChars cs _).trans_lt h)]
    exact ih h

theorem scaled_eq {n : Numeral}
    (h : Nat.ofDigitChars 10 (n.whole ++ n.fraction.getD []) 0 < UInt64.size) :
    n.scaled = (Nat.ofDigitChars 10 (n.whole ++ n.fraction.getD []) 0,
      n.exponent.getD 0 - (n.fraction.getD []).length) := by
  rw [Nat.ofDigitChars_append] at h ⊢
  have hwhole := gather_eq ((le_ofDigitChars _ _).trans_lt h)
  unfold scaled
  simp only [hwhole, gather_eq h, List.length_nil]
  simp

theorem isSome_scale_of_neg (x : Float) {e : Int} (h : e < 0) : (scale x e).isSome = true := by
  unfold scale
  rw [if_neg (by omega), if_neg (by omega)]
  split
  · rfl
  · split <;> rfl

/-- A decimal of at most 17 digits that is not above the greatest double is scaled. -/
theorem isSome_scale {n e : Nat} (hn : n ≤ 10 ^ 17) (hle : n * 10 ^ e ≤ Rounding.greatest) :
    (scale (Float.ofNat n) e).isSome = true := by
  unfold scale
  split
  · rename_i hlarge
    rcases Nat.eq_zero_or_pos n with rfl | hpos
    · rw [if_pos (by decide)]
      rfl
    · have hmul := Nat.le_mul_of_pos_left (10 ^ e) hpos
      have hlt := Rounding.greatest_lt_pow (e := e) (by omega)
      exact absurd (hmul.trans hle) (not_le.mpr hlt)
  · rw [if_pos (by omega), Int.toNat_natCast]
    simp only [Rounding.isFinite_ofNat_mul_powerOfTen (by omega) hn hle]
    rfl

theorem isSome_value? {n : Numeral} (h : n.fraction.isSome ∨ n.exponent.isSome) :
    n.value?.isSome = (scale (Float.ofNat n.scaled.1) n.scaled.2).isSome := by
  have hint : n.integer? = none := by
    unfold integer?
    exact if_pos (by simpa using h)
  unfold value?
  rw [hint]
  exact Option.isSome_map

/-! ## The numeral of a decimal -/

/-- Digits with the point placed after the digit of exponent zero. -/
def positional (negative : Bool) (digits : List Char) (top : Int) : Numeral :=
  if top < 0 then ⟨negative, ['0'], some (List.replicate (-top - 1).toNat '0' ++ digits), none⟩
  else if digits.length ≤ top.toNat + 1 then
    ⟨negative, digits ++ List.replicate (top.toNat + 1 - digits.length) '0', some ['0'], none⟩
  else ⟨negative, digits.take (top.toNat + 1), some (digits.drop (top.toNat + 1)), none⟩

/-- Digits with one digit before the point. -/
def scientific (negative : Bool) (digits : List Char) (top : Int) : Numeral :=
  ⟨negative, digits.take 1, if digits.drop 1 = [] then none else some (digits.drop 1), some top⟩

/-- The numeral that a decimal is written as. -/
def ofDecimal (negative : Bool) (d : Decimal) : Numeral :=
  let digits := Nat.toDigits 10 d.digits
  let top := d.exponent + digits.length - 1
  if -5 ≤ top ∧ top ≤ 15 then positional negative digits top else scientific negative digits top

theorem toList_place (negative : Bool) (digits : String) (top : Int) :
    (if negative then ['-'] else []) ++ (NumberFormat.place true digits top).toList =
      (positional negative digits.toList top).word := by
  unfold NumberFormat.place positional
  dsimp only
  rw [← String.length_toList]
  by_cases hneg : top < 0
  · rw [if_pos hneg, if_pos hneg]
    simp [word]
  · rw [if_neg hneg, if_neg hneg]
    by_cases hwhole : digits.toList.length ≤ top.toNat + 1
    · rw [if_pos hwhole, if_pos hwhole]
      simp [word]
    · rw [if_neg hwhole, if_neg hwhole]
      simp [word]

theorem toList_scientific (negative : Bool) (digits : String) (top : Int) :
    (if negative then ['-'] else []) ++ (NumberFormat.scientific digits top).toList =
      (scientific negative digits.toList top).word := by
  have htop : (toString top.natAbs).toList = Nat.toDigits 10 top.natAbs := Nat.toList_repr
  have hsign : (if top < 0 then "-" else "+").toList = [if top < 0 then '-' else '+'] := by
    by_cases h : top < 0
    · rw [if_pos h, if_pos h]
      rfl
    · rw [if_neg h, if_neg h]
      rfl
  unfold NumberFormat.scientific scientific word exponentWord
  simp only [String.toList_append, String.toList_ofList, htop, hsign]
  generalize digits.toList.drop 1 = rest
  cases rest <;> simp

theorem toList_decimal (negative : Bool) (d : Decimal) :
    ((if negative then "-" else "") ++ NumberFormat.json.decimal d).toList =
      (ofDecimal negative d).word := by
  have hdigits : Nat.toDigits 10 d.digits = (toString d.digits).toList := Nat.toList_repr.symm
  have hsign : (if negative then "-" else "").toList = if negative then ['-'] else [] := by
    cases negative <;> rfl
  rw [String.toList_append, hsign]
  unfold NumberFormat.decimal ofDecimal NumberFormat.json
  simp only [decide_eq_true_eq, hdigits, String.length_toList]
  generalize d.exponent + ((toString d.digits).length : Int) - 1 = top
  by_cases h : -5 ≤ top ∧ top ≤ 15
  · rw [if_pos h, if_pos h]
    exact toList_place negative _ _
  · rw [if_neg h, if_neg h]
    exact toList_scientific negative _ _

/-! ## The digits of a decimal -/

section Digits

variable {negative : Bool} {digits : List Char} {top : Int}

theorem wellFormed_positional (hne : digits ≠ []) (hdigits : ∀ c ∈ digits, c.isDigit = true)
    (hzero : digits.head? = some '0' → digits = ['0'] ∧ top = 0) :
    (positional negative digits top).WellFormed := by
  have hzeros (n : Nat) : ∀ c ∈ List.replicate n '0', c.isDigit = true := by
    intro c hc
    rw [List.eq_of_mem_replicate hc]
    rfl
  unfold positional
  split
  · refine ⟨List.cons_ne_nil _ _, hzeros 1, fun _ => rfl, ?_, ?_⟩
    · rintro _ ⟨⟩
      exact List.append_ne_nil_of_right_ne_nil _ hne
    · rintro _ ⟨⟩ c hc
      exact (List.mem_append.mp hc).elim (hzeros _ c) (hdigits c)
  · split
    · refine ⟨List.append_ne_nil_of_left_ne_nil hne _, ?_, ?_, ?_, ?_⟩
      · intro c hc
        exact (List.mem_append.mp hc).elim (hdigits c) (hzeros _ c)
      · intro hhead
        rw [List.head?_append_of_ne_nil _ hne] at hhead
        obtain ⟨rfl, rfl⟩ := hzero hhead
        rfl
      · rintro _ ⟨⟩
        exact List.cons_ne_nil _ _
      · rintro _ ⟨⟩
        exact hzeros 1
    · rename_i hlong
      refine ⟨?_, fun c hc => hdigits c (List.mem_of_mem_take hc), ?_, ?_, ?_⟩
      · simpa using hne
      · intro hhead
        rw [List.head?_take, if_neg (by omega)] at hhead
        obtain ⟨rfl, rfl⟩ := hzero hhead
        exact (hlong le_rfl).elim
      · rintro _ ⟨⟩
        simpa using hlong
      · rintro _ ⟨⟩ c hc
        exact hdigits c (List.mem_of_mem_drop hc)

theorem wellFormed_scientific (hne : digits ≠ []) (hdigits : ∀ c ∈ digits, c.isDigit = true) :
    (scientific negative digits top).WellFormed := by
  obtain ⟨first, rest, rfl⟩ := List.exists_cons_of_ne_nil hne
  refine ⟨List.cons_ne_nil _ _, fun c hc => hdigits c (List.mem_of_mem_take hc), ?_, ?_, ?_⟩
  · rintro ⟨⟩
    rfl
  · intro cs hcs
    cases rest with
    | nil => cases hcs
    | cons c cs =>
      cases hcs
      exact List.cons_ne_nil _ _
  · intro cs hcs
    cases rest with
    | nil => cases hcs
    | cons c cs =>
      cases hcs
      exact fun c hc => hdigits c (List.mem_cons_of_mem _ hc)

/-- A positional numeral needs no power of ten, so it is read whenever its digits fit. -/
theorem isSome_value?_positional (hne : digits ≠ [])
    (hdigits : Nat.ofDigitChars 10 digits 0 < 10 ^ digits.length)
    (hfit : Nat.ofDigitChars 10 digits 0 < UInt64.size) (htop : top ≤ 15) :
    (positional negative digits top).value?.isSome = true := by
  have hread {n : Numeral}
      (hfit : Nat.ofDigitChars 10 (n.whole ++ n.fraction.getD []) 0 < UInt64.size)
      (hexponent : n.exponent = none) (hfraction : ∃ cs ≠ [], n.fraction = some cs) :
      n.value?.isSome = true := by
    obtain ⟨cs, hcs, hfraction⟩ := hfraction
    have := List.length_pos_iff.mpr hcs
    rw [isSome_value? (.inl (by rw [hfraction]; rfl)), scaled_eq hfit, hfraction, hexponent]
    exact isSome_scale_of_neg _ (by simp; omega)
  unfold positional
  split
  · refine hread ?_ rfl ⟨_, List.append_ne_nil_of_right_ne_nil _ hne, rfl⟩
    show Nat.ofDigitChars 10 (List.replicate 1 '0' ++ (List.replicate _ '0' ++ digits)) 0 < _
    rw [Nat.ofDigitChars_append, Nat.ofDigitChars_append, Nat.ofDigitChars_replicate_zero,
      Nat.ofDigitChars_replicate_zero, Nat.mul_zero]
    exact hfit
  · split
    · rename_i hshort
      refine hread ?_ rfl ⟨_, List.cons_ne_nil _ _, rfl⟩
      generalize hzeros : top.toNat + 1 - digits.length = zeros
      have hlt : 10 ^ zeros * Nat.ofDigitChars 10 digits 0 < 10 ^ 16 := calc
        10 ^ zeros * Nat.ofDigitChars 10 digits 0 < 10 ^ zeros * 10 ^ digits.length :=
          Nat.mul_lt_mul_of_pos_left hdigits (Nat.pow_pos (by decide))
        _ = 10 ^ (zeros + digits.length) := (Nat.pow_add ..).symm
        _ ≤ 10 ^ 16 := Nat.pow_le_pow_right (by decide) (by omega)
      show Nat.ofDigitChars 10 (digits ++ List.replicate zeros '0' ++ ['0']) 0 < _
      rw [Nat.ofDigitChars_append, Nat.ofDigitChars_append, Nat.ofDigitChars_replicate_zero]
      show 10 * (10 ^ zeros * Nat.ofDigitChars 10 digits 0) + 0 < 2 ^ 64
      omega
    · rename_i hlong
      refine hread ?_ rfl ⟨_, by simpa using hlong, rfl⟩
      show Nat.ofDigitChars 10 (digits.take _ ++ digits.drop _) 0 < _
      rw [List.take_append_drop]
      exact hfit

/-- A scientific numeral is read if its digits, scaled, are. -/
theorem isSome_value?_scientific (hfit : Nat.ofDigitChars 10 digits 0 < UInt64.size)
    (hscale : (scale (Float.ofNat (Nat.ofDigitChars 10 digits 0))
      (top - (digits.length - 1 : Nat))).isSome = true) :
    (scientific negative digits top).value?.isSome = true := by
  have hrest : (if digits.drop 1 = [] then none else some (digits.drop 1)).getD [] =
      digits.drop 1 := by
    split
    · rename_i h
      exact h.symm
    · rfl
  have hall : (scientific negative digits top).whole ++
      (scientific negative digits top).fraction.getD [] = digits := by
    show digits.take 1 ++ _ = digits
    rw [scientific, hrest, List.take_append_drop]
  rw [isSome_value? (.inr rfl), scaled_eq (by rw [hall]; exact hfit), hall]
  show (scale _ (top - (Option.getD _ []).length)).isSome = true
  rw [scientific, hrest, List.length_drop]
  exact hscale

end Digits

theorem wellFormed_ofDecimal (negative : Bool) {d : Decimal} (h : d.digits = 0 → d.exponent = 0) :
    (ofDecimal negative d).WellFormed := by
  have hdigits : ∀ c ∈ Nat.toDigits 10 d.digits, c.isDigit = true := fun c hc =>
    isDigit_of_mem_toDigits hc
  unfold ofDecimal
  dsimp only
  split
  · refine wellFormed_positional Nat.toDigits_ne_nil hdigits fun hhead => ?_
    have hzero := eq_zero_of_head_toDigits hhead
    rw [hzero, h hzero]
    exact ⟨Nat.toDigits_zero 10, rfl⟩
  · exact wellFormed_scientific Nat.toDigits_ne_nil hdigits

/-- The numeral of a decimal of at most 17 digits that is not above the greatest double is read. -/
theorem isSome_value?_ofDecimal (negative : Bool) {d : Decimal} (hdigits : d.digits ≤ 10 ^ 17)
    (hvalue : d.value ≤ Rounding.greatest) : (ofDecimal negative d).value?.isSome = true := by
  have hall : Nat.ofDigitChars 10 (Nat.toDigits 10 d.digits) 0 = d.digits :=
    Nat.ofDigitChars_ten_toDigits
  have hfit : d.digits < UInt64.size := hdigits.trans_lt (by decide)
  unfold ofDecimal
  dsimp only
  split
  · rename_i hpositional
    refine isSome_value?_positional Nat.toDigits_ne_nil ?_ (by rw [hall]; exact hfit) hpositional.2
    rw [hall]
    exact Decimal.lt_pow_width d.digits
  · refine isSome_value?_scientific (by rw [hall]; exact hfit) ?_
    have hpos := Decimal.width_pos d.digits
    have hexponent : d.exponent + ((Nat.toDigits 10 d.digits).length : Int) - 1 -
        ((Nat.toDigits 10 d.digits).length - 1 : Nat) = d.exponent := by
      unfold Decimal.width at hpos
      omega
    rw [hall, hexponent]
    rcases Int.lt_or_le d.exponent 0 with hneg | hnonneg
    · exact isSome_scale_of_neg _ hneg
    · obtain ⟨e, he⟩ := Int.eq_ofNat_of_zero_le hnonneg
      rw [he]
      exact isSome_scale hdigits ((Decimal.value_le_iff he).mp hvalue)

end Numeral

/-! ## Doubles -/

/-- The text of a finite double is read as some double. -/
theorem isSome_reread?_float {x : Float} (h : x.isFinite = true) :
    (reread? (.float x)).isSome = true := by
  obtain ⟨negative, significand, e, hx, hs, he⟩ := Binary.exists_ofFloat_eq h
  have htext : (writeNumber (.float x)).toList =
      (Numeral.ofDecimal negative (Decimal.shortest .even significand e)).word := by
    rw [← Numeral.toList_decimal]
    show (if x.isFinite then NumberFormat.json.write x else "null").toList = _
    unfold NumberFormat.write
    rw [if_pos h, hx]
    rfl
  have hformed := Numeral.wellFormed_ofDecimal negative
    (Decimal.exponent_shortest_of_digits .even significand e)
  obtain ⟨n, hn⟩ := Option.isSome_iff_exists.mp (Numeral.isSome_value?_ofDecimal negative
    (Decimal.digits_shortest_le .even significand e) (Decimal.value_shortest_le_greatest hs he))
  rw [reread?_eq_some_iff.mpr
    ⟨_, htext ▸ Token.ofWord?_of_numeral (Numeral.ofWord?_word hformed), hn⟩]
  rfl

end FlexLayout.Json
