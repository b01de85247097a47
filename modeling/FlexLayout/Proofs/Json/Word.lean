import FlexLayout.Json.Numeral
import Mathlib.Data.List.TakeWhile

/-!
# The words of numerals

Sign, whole part, fraction and exponent of a numeral are written one after another. Every part ends
where the next one starts, so a well-formed numeral is read from its word again (`ofWord?_word`).
-/

namespace FlexLayout.Json

/-! ## Decimal digits -/

/-- Digits do not start with a needless zero. -/
theorem eq_zero_of_head_toDigits {n : Nat} (h : (Nat.toDigits 10 n).head? = some '0') : n = 0 := by
  have hdigit : ∀ d < 10, d.digitChar = '0' → d = 0 := by decide
  induction n using Nat.strongRecOn with
  | ind n ih =>
    by_cases hn : n < 10
    · rw [Nat.toDigits_of_lt_base hn, List.head?_cons, Option.some_inj] at h
      exact hdigit n hn h
    · rw [Nat.toDigits_of_base_le (by decide) (by omega), List.head?_append,
        Option.or_of_isSome (List.isSome_head?.mpr Nat.toDigits_ne_nil)] at h
      have := ih (n / 10) (by omega) h
      omega

theorem isDigit_of_mem_toDigits {n : Nat} {c : Char} (h : c ∈ Nat.toDigits 10 n) :
    c.isDigit = true :=
  Nat.isDigit_of_mem_toDigits (by decide) (by decide) h

namespace Numeral

/-! ## The word of a numeral -/

def exponentWord (e : Int) : List Char :=
  'e' :: (if e < 0 then '-' else '+') :: Nat.toDigits 10 e.natAbs

/-- A numeral with its parts one after another. -/
def word (n : Numeral) : List Char :=
  (if n.negative then ['-'] else []) ++ n.whole ++ (n.fraction.elim [] ('.' :: ·)) ++
    n.exponent.elim [] exponentWord

/-- The parts are digits, as many as a numeral has. -/
structure WellFormed (n : Numeral) : Prop where
  whole_ne : n.whole ≠ []
  whole_digits : ∀ c ∈ n.whole, c.isDigit = true
  whole_zero : n.whole.head? = some '0' → n.whole = ['0']
  fraction_ne : ∀ cs ∈ n.fraction, cs ≠ []
  fraction_digits : ∀ cs ∈ n.fraction, ∀ c ∈ cs, c.isDigit = true

/-- Digits are taken up to a text that does not start with one. -/
theorem takeWhile_digits {cs rest : List Char} (h : ∀ c ∈ cs, c.isDigit = true)
    (hrest : ∀ c ∈ rest.head?, c.isDigit = false) :
    (cs ++ rest).takeWhile Char.isDigit = cs ∧ (cs ++ rest).dropWhile Char.isDigit = rest := by
  have hnil : rest.takeWhile Char.isDigit = [] ∧ rest.dropWhile Char.isDigit = rest := by
    cases rest with
    | nil => exact ⟨rfl, rfl⟩
    | cons c rest =>
      have hc := hrest c rfl
      exact ⟨by rw [List.takeWhile_cons, hc]; rfl, by rw [List.dropWhile_cons, hc]; rfl⟩
  rw [List.takeWhile_append_of_pos h, List.dropWhile_append_of_pos h, hnil.1, hnil.2,
    List.append_nil]
  exact ⟨rfl, rfl⟩

theorem exponent?_exponentWord (e : Int) : Decimal.exponent? (exponentWord e) = some e := by
  have hall : (Nat.toDigits 10 e.natAbs).all Char.isDigit = true :=
    List.all_eq_true.mpr fun c hc => isDigit_of_mem_toDigits hc
  have hdigits : Decimal.ofDigits (Nat.toDigits 10 e.natAbs) = e.natAbs :=
    Nat.ofDigitChars_ten_toDigits
  unfold exponentWord
  split <;> rw [Decimal.exponent?, if_pos (.inl rfl)]
  · show (if _ then some (-(Decimal.ofDigits (Nat.toDigits 10 e.natAbs) : Int)) else none) = _
    rw [if_pos ⟨Nat.toDigits_ne_nil, hall⟩, hdigits]
    exact congrArg some (by omega)
  · show (if _ then some (Decimal.ofDigits (Nat.toDigits 10 e.natAbs) : Int) else none) = _
    rw [if_pos ⟨Nat.toDigits_ne_nil, hall⟩, hdigits]
    exact congrArg some (by omega)

theorem splitFraction_append {fraction : Option (List Char)} {rest : List Char}
    (hne : ∀ cs ∈ fraction, cs ≠ []) (hdigits : ∀ cs ∈ fraction, ∀ c ∈ cs, c.isDigit = true)
    (hrest : ∀ c ∈ rest.head?, c = 'e') :
    splitFraction (fraction.elim [] ('.' :: ·) ++ rest) = some (fraction, rest) := by
  cases fraction with
  | none =>
    show splitFraction rest = _
    unfold splitFraction
    split
    · cases hrest '.' rfl
    · rfl
  | some cs =>
    show splitFraction ('.' :: (cs ++ rest)) = _
    have hrest' : ∀ c ∈ rest.head?, c.isDigit = false := by
      intro c hc
      rw [hrest c hc]
      rfl
    have hboth := takeWhile_digits (hdigits cs rfl) hrest'
    simp only [splitFraction, hboth.1, hboth.2]
    exact if_neg (hne cs rfl)

/-- The word of a numeral is read as the numeral. -/
theorem ofWord?_word {n : Numeral} (h : n.WellFormed) : ofWord? n.word = some n := by
  obtain ⟨negative, whole, fraction, exponent⟩ := n
  obtain ⟨hwhole, hdigits, hzero, hne, hfraction⟩ := h
  simp only at hwhole hdigits hzero hne hfraction
  have hhead : ∀ c ∈ (exponent.elim [] exponentWord).head?, c = 'e' := by
    cases exponent with
    | none => rintro _ ⟨⟩
    | some e =>
      rintro _ ⟨⟩
      rfl
  have hsplit := splitFraction_append hne hfraction hhead
  generalize hmore : fraction.elim [] ('.' :: ·) ++ exponent.elim [] exponentWord = more at hsplit
  have hword : word ⟨negative, whole, fraction, exponent⟩ =
      (if negative then ['-'] else []) ++ (whole ++ more) := by
    subst hmore
    simp only [word, List.append_assoc]
  have hmore' : ∀ c ∈ more.head?, c.isDigit = false := by
    subst hmore
    cases fraction with
    | none =>
      intro c hc
      rw [hhead c hc]
      rfl
    | some cs =>
      rintro _ ⟨⟩
      rfl
  have hboth := takeWhile_digits hdigits hmore'
  have hminus : ∀ cs, whole ++ more ≠ '-' :: cs := by
    intro cs hcs
    obtain ⟨c, rest, rfl⟩ := List.exists_cons_of_ne_nil hwhole
    cases hcs
    have := hdigits '-' List.mem_cons_self
    cases this
  have hvalid : ¬ (whole = [] ∨ (whole.head? = some '0' ∧ whole ≠ ['0'])) := by
    rintro (hnil | ⟨hhead, hne⟩)
    · exact hwhole hnil
    · exact hne (hzero hhead)
  rw [hword]
  unfold ofWord?
  split
  rename_i sign cs heq
  obtain ⟨rfl, rfl⟩ : sign = negative ∧ cs = whole ++ more := by
    cases negative with
    | true =>
      cases (show (true, whole ++ more) = (sign, cs) from heq)
      exact ⟨rfl, rfl⟩
    | false =>
      split at heq
      · rename_i hcs
        exact (hminus _ hcs).elim
      · cases heq
        exact ⟨rfl, rfl⟩
  simp only [hboth.1, hboth.2, hsplit, Option.bind_eq_bind, Option.bind_some, if_neg hvalid]
  cases exponent with
  | none => rfl
  | some e =>
    have hword : exponentWord e ≠ [] := List.cons_ne_nil _ _
    show (if exponentWord e = [] then _ else _) = _
    rw [if_neg hword]
    show ((Decimal.exponent? (exponentWord e)).map some).bind _ = _
    rw [exponent?_exponentWord]
    rfl

/-- The digits of a natural number are a numeral without sign, fraction and exponent. -/
theorem ofWord?_toDigits (n : Nat) :
    ofWord? (Nat.toDigits 10 n) = some ⟨false, Nat.toDigits 10 n, none, none⟩ := by
  have hwell : WellFormed ⟨false, Nat.toDigits 10 n, none, none⟩ := by
    refine ⟨Nat.toDigits_ne_nil, fun c hc => isDigit_of_mem_toDigits hc, ?_, nofun, nofun⟩
    intro hhead
    rw [eq_zero_of_head_toDigits hhead]
    exact Nat.toDigits_zero 10
  simpa [word] using ofWord?_word hwell

end Numeral

end FlexLayout.Json
