import FlexLayout.Aspect
import FlexLayout.Proofs.Decimal.Sign
import FlexLayout.Proofs.Text.Lines

/-!
# The language of aspect ratios

A ratio is well formed if it is two finite positive numbers with one colon between them. The two
readers of ratios both read every well-formed ratio as it is meant, and each reads more than these:
the percentage asks neither for a finite width nor for a positive height, and the factor asks for no
finite number and leaves what follows a second colon. Of the texts that are not well formed none has
a positive percentage but that of a square (`readers`).
-/

namespace FlexLayout

namespace Aspect

open Text (splitChars splitChars_eq_pair_iff exists_splitChars_eq_iff)

/-! ## Ratios -/

/-- The text writes the numbers `w` and `h` with a colon between them. Behind them it goes on with
`more`, which is empty or starts at a second colon. -/
def Writes (s : String) (w h : Float) (more : List Char) : Prop :=
  ∃ a b, s.toList = a ++ ':' :: (b ++ more) ∧ ':' ∉ a ∧ ':' ∉ b ∧
    (more = [] ∨ more.head? = some ':') ∧
    side? (String.ofList a) = some w ∧ side? (String.ofList b) = some h

/-- Two finite numbers above zero with one colon between them. -/
structure WellFormed (s : String) (w h : Float) : Prop where
  writes : Writes s w h []
  width_pos : 0 < w
  width_finite : w.isFinite = true
  height_pos : 0 < h
  height_finite : h.isFinite = true

/-- What a percentage is taken from. -/
structure PercentRatio (s : String) (w h : Float) : Prop where
  writes : Writes s w h []
  width_pos : 0 < w
  height_finite : h.isFinite = true

/-- What a factor is taken from. -/
structure FactorRatio (s : String) (w h : Float) : Prop where
  writes : ∃ more, Writes s w h more
  width_pos : 0 < w
  height_pos : 0 < h

variable {s : String} {w h : Float}

theorem writes_nil_iff : Writes s w h [] ↔ ∃ a b, splitChars ':' s.toList = [a, b] ∧
    side? (String.ofList a) = some w ∧ side? (String.ofList b) = some h := by
  simp only [splitChars_eq_pair_iff]
  constructor
  · rintro ⟨a, b, hs, ha, hb, -, hw, hh⟩
    rw [List.append_nil] at hs
    exact ⟨a, b, ⟨ha, hb, hs⟩, hw, hh⟩
  · rintro ⟨a, b, ⟨ha, hb, hs⟩, hw, hh⟩
    exact ⟨a, b, by rw [List.append_nil, hs], ha, hb, .inl rfl, hw, hh⟩

theorem exists_writes_iff : (∃ more, Writes s w h more) ↔
    ∃ a b rest, splitChars ':' s.toList = a :: b :: rest ∧
      side? (String.ofList a) = some w ∧ side? (String.ofList b) = some h := by
  constructor
  · rintro ⟨more, a, b, hs, ha, hb, hmore, hw, hh⟩
    obtain ⟨rest, hrest⟩ := exists_splitChars_eq_iff.mpr ⟨ha, hb, more, hs, hmore⟩
    exact ⟨a, b, rest, hrest, hw, hh⟩
  · rintro ⟨a, b, rest, hrest, hw, hh⟩
    obtain ⟨ha, hb, more, hs, hmore⟩ := exists_splitChars_eq_iff.mp ⟨rest, hrest⟩
    exact ⟨more, a, b, hs, ha, hb, hmore, hw, hh⟩

/-! ## The two readers -/

theorem percent_of_writes (hs : Writes s w h []) :
    percent (some s) = if 0 < w ∧ h.isFinite = true then h * 100 / w else defaultPercent := by
  obtain ⟨a, b, hsplit, hw, hh⟩ := writes_nil_iff.mp hs
  simp only [percent, Text.split, Option.map_some, hsplit, List.map_cons, List.map_nil, hw, hh,
    Bool.and_eq_true, decide_eq_true_eq]

theorem percent_of_not_writes (hs : ∀ w h, ¬ Writes s w h []) :
    percent (some s) = defaultPercent := by
  unfold percent Text.split
  rw [Option.map_some]
  rcases hsplit : splitChars ':' s.toList with _ | ⟨a, _ | ⟨b, _ | ⟨c, rest⟩⟩⟩
  case cons.cons.nil =>
    rcases hw : side? (String.ofList a) with _ | w
    · simp only [List.map_cons, List.map_nil, hw]
    · rcases hh : side? (String.ofList b) with _ | h
      · simp only [List.map_cons, List.map_nil, hw, hh]
      · exact absurd (writes_nil_iff.mpr ⟨a, b, hsplit, hw, hh⟩) (hs w h)
  all_goals rfl

theorem widthFactor_of_writes {more : List Char} (hs : Writes s w h more) :
    widthFactor (some s) = if 0 < w ∧ 0 < h then w / h else 1 := by
  obtain ⟨a, b, rest, hsplit, hw, hh⟩ := exists_writes_iff.mp ⟨more, hs⟩
  simp only [widthFactor, Text.split, Option.map_some, hsplit, List.map_cons, hw, hh,
    Bool.and_eq_true, decide_eq_true_eq]

theorem widthFactor_of_not_writes (hs : ∀ w h more, ¬ Writes s w h more) :
    widthFactor (some s) = 1 := by
  unfold widthFactor Text.split
  rw [Option.map_some]
  rcases hsplit : splitChars ':' s.toList with _ | ⟨a, _ | ⟨b, rest⟩⟩
  case cons.cons =>
    rcases hw : side? (String.ofList a) with _ | w
    · simp only [List.map_cons, hw]
    · rcases hh : side? (String.ofList b) with _ | h
      · simp only [List.map_cons, hw, hh]
      · obtain ⟨more, hmore⟩ := exists_writes_iff.mpr ⟨a, b, rest, hsplit, hw, hh⟩
        exact absurd hmore (hs w h more)
  all_goals rfl

theorem PercentRatio.percent_eq (hs : PercentRatio s w h) : percent (some s) = h * 100 / w := by
  rw [percent_of_writes hs.writes, if_pos ⟨hs.width_pos, hs.height_finite⟩]

theorem percent_eq_default (hs : ¬ ∃ w h, PercentRatio s w h) :
    percent (some s) = defaultPercent := by
  by_cases hwrites : ∃ w h, Writes s w h []
  · obtain ⟨w, h, hwrites⟩ := hwrites
    rw [percent_of_writes hwrites, if_neg fun hwh => hs ⟨w, h, hwrites, hwh.1, hwh.2⟩]
  · exact percent_of_not_writes fun w h h' => hwrites ⟨w, h, h'⟩

theorem FactorRatio.widthFactor_eq (hs : FactorRatio s w h) : widthFactor (some s) = w / h := by
  obtain ⟨more, hwrites⟩ := hs.writes
  rw [widthFactor_of_writes hwrites, if_pos ⟨hs.width_pos, hs.height_pos⟩]

theorem widthFactor_eq_one (hs : ¬ ∃ w h, FactorRatio s w h) : widthFactor (some s) = 1 := by
  by_cases hwrites : ∃ w h more, Writes s w h more
  · obtain ⟨w, h, more, hwrites⟩ := hwrites
    rw [widthFactor_of_writes hwrites, if_neg fun hwh => hs ⟨w, h, ⟨more, hwrites⟩, hwh.1, hwh.2⟩]
  · exact widthFactor_of_not_writes fun w h more h' => hwrites ⟨w, h, more, h'⟩

/-! ## Well-formed ratios -/

/-- Both readers read a well-formed ratio, and only an infinite width is left to tell it from the
other texts that both of them read. -/
theorem wellFormed_iff :
    WellFormed s w h ↔ PercentRatio s w h ∧ FactorRatio s w h ∧ w.isFinite = true :=
  ⟨fun hs => ⟨⟨hs.writes, hs.width_pos, hs.height_finite⟩,
    ⟨⟨[], hs.writes⟩, hs.width_pos, hs.height_pos⟩, hs.width_finite⟩,
   fun ⟨hp, hf, hw⟩ => ⟨hp.writes, hp.width_pos, hw, hf.height_pos, hp.height_finite⟩⟩

/-- A positive percentage comes from a well-formed ratio. -/
theorem PercentRatio.wellFormed (hs : PercentRatio s w h) (hpos : 0 < percent (some s)) :
    WellFormed s w h := by
  rw [hs.percent_eq] at hpos
  obtain ⟨hheight, hwidth⟩ := Rounding.pos_of_div_pos hs.width_pos hpos
  have hhundred : (0 : Float) < 100 := by decide +kernel
  exact ⟨hs.writes, hs.width_pos, hwidth, Rounding.pos_of_mul_pos hhundred hheight,
    hs.height_finite⟩

/-- **Aspect ratios.** The percentage is taken from two numbers with one colon between them, the
first positive and the second finite, and the factor from two positive numbers with a colon between
them, whatever follows a second colon; every other text counts as a square. Well-formed ratios are
those that both are taken from, as far as the width is finite. A text that is not well formed has
the percentage of a square or none above zero. -/
theorem readers (s : String) :
    (∀ w h, PercentRatio s w h → percent (some s) = h * 100 / w) ∧
      ((¬ ∃ w h, PercentRatio s w h) → percent (some s) = defaultPercent) ∧
      (∀ w h, FactorRatio s w h → widthFactor (some s) = w / h) ∧
      ((¬ ∃ w h, FactorRatio s w h) → widthFactor (some s) = 1) ∧
      (∀ w h, WellFormed s w h ↔
        PercentRatio s w h ∧ FactorRatio s w h ∧ w.isFinite = true) ∧
      ((¬ ∃ w h, WellFormed s w h) →
        percent (some s) = defaultPercent ∨ ¬ 0 < percent (some s)) := by
  refine ⟨fun w h => PercentRatio.percent_eq, percent_eq_default,
    fun w h => FactorRatio.widthFactor_eq, widthFactor_eq_one, fun w h => wellFormed_iff,
    fun hnot => ?_⟩
  by_cases hs : ∃ w h, PercentRatio s w h
  · obtain ⟨w, h, hs⟩ := hs
    exact .inr fun hpos => hnot ⟨w, h, hs.wellFormed hpos⟩
  · exact .inl (percent_eq_default hs)

theorem readers_wide : WellFormed " 16:9 " 16 9 ∧
    percent (some " 16:9 ") = 9 * 100 / 16 ∧ widthFactor (some " 16:9 ") = 16 / 9 := by
  have hs : WellFormed " 16:9 " 16 9 :=
    ⟨⟨[' ', '1', '6'], ['9', ' '], by decide +kernel⟩, by decide +kernel, by decide +kernel,
      by decide +kernel, by decide +kernel⟩
  obtain ⟨hpercent, -, hfactor, -, hwell, -⟩ := readers " 16:9 "
  obtain ⟨hp, hf, -⟩ := (hwell 16 9).mp hs
  exact ⟨hs, hpercent 16 9 hp, hfactor 16 9 hf⟩

/-- A text of two numbers is well formed only with these two. -/
theorem not_wellFormed {a b : List Char} {x y : Float} (hsplit : splitChars ':' s.toList = [a, b])
    (ha : side? (String.ofList a) = some x) (hb : side? (String.ofList b) = some y)
    (hxy : ¬ (x.isFinite = true ∧ 0 < y)) : ¬ ∃ w h, WellFormed s w h := by
  rintro ⟨w, h, hs⟩
  obtain ⟨a', b', hsplit', hw, hh⟩ := writes_nil_iff.mp hs.writes
  rw [hsplit] at hsplit'
  cases hsplit'
  rw [ha] at hw
  rw [hb] at hh
  cases hw
  cases hh
  exact hxy ⟨hs.width_finite, hs.height_pos⟩

/-- Texts that are not well formed and yet do not count as squares: a third part, no height, and an
infinite width. -/
theorem malformed_read :
    ((¬ ∃ w h, WellFormed "16:9:1" w h) ∧ widthFactor (some "16:9:1") ≠ 1) ∧
      ((¬ ∃ w h, WellFormed "1:0" w h) ∧ percent (some "1:0") ≠ defaultPercent) ∧
      (¬ ∃ w h, WellFormed "inf:1" w h) ∧ percent (some "inf:1") ≠ defaultPercent ∧
        widthFactor (some "inf:1") ≠ 1 := by
  have hparts : ¬ ∃ w h, WellFormed "16:9:1" w h := by
    rintro ⟨w, h, hs⟩
    obtain ⟨a, b, hsplit, -⟩ := writes_nil_iff.mp hs.writes
    have hlength : (splitChars ':' "16:9:1".toList).length ≠ 2 := by decide +kernel
    exact hlength (congrArg List.length hsplit)
  have hflat : ¬ ∃ w h, WellFormed "1:0" w h :=
    not_wellFormed (x := 1) (y := 0) (a := ['1']) (b := ['0']) (by decide +kernel)
      (by decide +kernel) (by decide +kernel) (by decide +kernel)
  have hwide : ¬ ∃ w h, WellFormed "inf:1" w h :=
    not_wellFormed (x := 1 / 0) (y := 1) (a := ['i', 'n', 'f']) (b := ['1']) (by decide +kernel)
      (by decide +kernel) (by decide +kernel) (by decide +kernel)
  exact ⟨⟨hparts, by decide +kernel⟩, ⟨hflat, by decide +kernel⟩, hwide, by decide +kernel,
    by decide +kernel⟩

end Aspect

end FlexLayout
