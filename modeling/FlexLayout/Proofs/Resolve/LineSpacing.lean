import FlexLayout.Proofs.Decimal.Integer
import FlexLayout.Proofs.Resolve.Scan

/-!
# Line spacings

The line height of a text is its line spacing and the base if the spacing starts with an integer,
whatever follows. Any other spacing is noted as a warning, and the text has the default line height
(`lineHeight_spacing`).
-/

namespace FlexLayout.Resolve

open Decimal (SignMark withSign)

theorem lineHeight_of_some {s : String} {x : Float} (h : leadingInteger? s = some x) (path : Path) :
    lineHeight (some s) path = ⟨[], .ok (.px (x + lineSpacingBase))⟩ := by
  unfold lineHeight
  simp only [h]
  rfl

theorem lineHeight_of_none {s : String} (h : leadingInteger? s = none) (path : Path) :
    lineHeight (some s) path =
      ⟨[.lineSpacing s path], .ok (.multiplier defaultLineHeight)⟩ := by
  unfold lineHeight
  simp only [h]
  rfl

/-- A signed number of at most 53 bits with the base is the double of the sum. -/
theorem withSign_add_base (m : SignMark) {a : Nat} (ha : a ≤ 2 ^ 53 - 16) :
    withSign (decide (m = .minus)) (Float.ofNat a) + lineSpacingBase =
      Float.ofInt (m.apply a + 15) := by
  have hsum {p : Int} (hp : p.natAbs ≤ 2 ^ 53 - 16) :
      Float.ofInt p + Float.ofInt 15 = Float.ofInt (p + 15) :=
    Rounding.ofInt_add_ofInt (by omega) (by decide) (by omega)
  cases m with
  | none | plus => exact hsum (p := a) ha
  | minus =>
    cases a with
    -- the zero with a minus sign is another double, but its sum is not
    | zero => decide
    | succ a => exact hsum (p := .negSucc a) ha

/-- **Line spacings.** No line spacing is cut inside a character. It is read exactly if it starts,
after white space and at most one sign, with digits. The line height is then the integer and the
base, exactly for integers up to `2 ^ 53 - 16`, and nothing is logged. Otherwise the line height is
the default, and a warning is all that is logged. -/
theorem lineHeight_spacing (s : String) (path : Path) :
    (scanInteger? (Text.trimStart s.toList)).isSome = true ∧
      ((leadingInteger? s).isSome = true ↔ ∃ n, StartsWith s n) ∧
      (∀ n, StartsWith s n → ∃ x, lineHeight (some s) path = ⟨[], .ok (.px x)⟩ ∧
        (n.natAbs ≤ 2 ^ 53 - 16 →
          x = Float.ofInt (n + 15) ∧ (Binary.ofFloat x).integer? = some (n + 15))) ∧
      ((¬ ∃ n, StartsWith s n) → lineHeight (some s) path =
        ⟨[.lineSpacing s path], .ok (.multiplier defaultLineHeight)⟩) ∧
      (Event.lineSpacing s path).level = .warn := by
  refine ⟨isSome_scanInteger? _, isSome_leadingInteger?_iff, ?_, fun hnone => ?_, rfl⟩
  · rintro n ⟨blanks, m, digits, rest, hs, hblanks, hne, hdigits, hrest, rfl⟩
    have hread := leadingInteger?_eq m hs hblanks hne hdigits hrest
    refine ⟨_, lineHeight_of_some hread path, fun hn => ?_⟩
    have ha : Nat.ofDigitChars 10 digits 0 ≤ 2 ^ 53 - 16 := by
      rwa [m.natAbs_apply] at hn
    rw [withSign_add_base m ha]
    exact ⟨rfl, Binary.integer?_ofInt (by omega)⟩
  · refine lineHeight_of_none (Option.isNone_iff_eq_none.mp ?_) path
    rw [← Option.not_isSome, Bool.not_eq_true', Bool.eq_false_iff]
    exact fun hsome => hnone (isSome_leadingInteger?_iff.mp hsome)

theorem lineHeight_spacing_digits :
    StartsWith "\u3000 -07é5" (-7) ∧
      lineHeight (some "\u3000 -07é5") [] = ⟨[], .ok (.px (Float.ofInt 8))⟩ := by
  have hstarts : StartsWith "\u3000 -07é5" (-7) := by
    refine ⟨['\u3000', ' '], .minus, ['0', '7'], ['é', '5'], by decide,
      List.all_eq_true.mp (by decide), List.cons_ne_nil _ _, List.all_eq_true.mp (by decide), ?_,
      by decide⟩
    rintro c ⟨⟩
    decide
  obtain ⟨x, hx, hexact⟩ := (lineHeight_spacing "\u3000 -07é5" []).2.2.1 (-7) hstarts
  rw [hx, (hexact (by decide)).1]
  exact ⟨hstarts, rfl⟩

end FlexLayout.Resolve
