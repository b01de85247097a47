import FlexLayout.Proofs.Json.Number
import FlexLayout.Resolve.Content

/-!
# Integers at the start of a text

A text is scanned for a sign and digits behind white space, by offsets in bytes. It is read exactly
if it starts with an integer (`isSome_leadingInteger?_iff`), and then as this integer, whatever
follows (`leadingInteger?_eq`).
-/

namespace FlexLayout

/-! ## Digits -/

/-- A text that cannot carry a run of digits on. -/
def NoDigitFirst (cs : List Char) : Prop := ∀ c ∈ cs.head?, c.isDigit = false

theorem takeWhile_isDigit_append {digits rest : List Char} (h : ∀ c ∈ digits, c.isDigit = true)
    (hrest : NoDigitFirst rest) : (digits ++ rest).takeWhile Char.isDigit = digits := by
  have hnil : rest.takeWhile Char.isDigit = [] := by
    cases rest with
    | nil => rfl
    | cons c rest => exact List.takeWhile_cons_of_neg (by rw [hrest c rfl]; exact Bool.false_ne_true)
  rw [List.takeWhile_append_of_pos h, hnil, List.append_nil]

namespace Decimal

/-- What stands before the digits of an integer. -/
inductive SignMark where
  | none | plus | minus
  deriving DecidableEq

namespace SignMark

def text : SignMark → List Char
  | none => []
  | plus => ['+']
  | minus => ['-']

/-- The integer of a magnitude. -/
def apply (m : SignMark) (a : Nat) : Int := if m = minus then -a else a

theorem natAbs_apply (m : SignMark) (a : Nat) : (m.apply a).natAbs = a := by
  unfold apply
  split_ifs <;> omega

end SignMark

variable {digits : List Char}

theorem splitSign_digits (m : SignMark) (hne : digits ≠ [])
    (hdigits : ∀ c ∈ digits, c.isDigit = true) :
    splitSign (m.text ++ digits) = (decide (m = .minus), digits) := by
  obtain ⟨c, rest, rfl⟩ := List.exists_cons_of_ne_nil hne
  have hc := hdigits c List.mem_cons_self
  cases m with
  | plus | minus => rfl
  | none =>
    rw [SignMark.text, List.nil_append]
    unfold splitSign
    -- a digit is no sign
    split
    · rename_i h
      cases h
      cases hc
    · rename_i h
      cases h
      cases hc
    · rfl

theorem magnitude?_digits (hne : digits ≠ []) (hdigits : ∀ c ∈ digits, c.isDigit = true) :
    magnitude? digits = some (Float.ofNat (Nat.ofDigitChars 10 digits 0)) := by
  have htake : (digits ++ []).takeWhile Char.isDigit = digits :=
    takeWhile_isDigit_append hdigits fun _ h => nomatch h
  have hdrop : (digits ++ []).dropWhile Char.isDigit = [] :=
    List.dropWhile_append_of_pos hdigits
  rw [List.append_nil] at htake hdrop
  have hvalue : ofDigits digits = Nat.ofDigitChars 10 digits 0 :=
    Nat.ofDigitChars_eq_foldl.symm
  unfold magnitude?
  simp only [htake, hdrop, exponent?, hne, false_and, if_false, List.append_nil, hvalue]
  rfl

/-- Digits are none of the words that numerals can be. -/
theorem not_mem_words (hne : digits ≠ []) (hdigits : ∀ c ∈ digits, c.isDigit = true) :
    String.ofList (digits.map Char.toLower) ∉ ["inf", "infinity", "nan"] := by
  obtain ⟨c, rest, rfl⟩ := List.exists_cons_of_ne_nil hne
  have hletters : NumberFormat.numerals.all fun c => c.toLower ≠ 'i' ∧ c.toLower ≠ 'n' := by
    decide
  obtain ⟨hi, hn⟩ := of_decide_eq_true (List.all_eq_true.mp hletters c
    (NumberFormat.mem_numerals_of_isDigit (hdigits c List.mem_cons_self)))
  intro hmem
  have hhead : (String.ofList ((c :: rest).map Char.toLower)).toList.head? = some c.toLower := by
    rw [String.toList_ofList]
    rfl
  simp only [List.mem_cons, List.not_mem_nil, or_false] at hmem
  obtain heq | heq | heq := hmem <;> rw [heq] at hhead
  · exact hi (Option.some.inj hhead).symm
  · exact hi (Option.some.inj hhead).symm
  · exact hn (Option.some.inj hhead).symm

/-- A sign and digits are a numeral. -/
theorem read?_digits (m : SignMark) (hne : digits ≠ [])
    (hdigits : ∀ c ∈ digits, c.isDigit = true) :
    read? (String.ofList (m.text ++ digits)) =
      some (withSign (decide (m = .minus)) (Float.ofNat (Nat.ofDigitChars 10 digits 0))) := by
  have hwords := not_mem_words hne hdigits
  simp only [List.mem_cons, List.not_mem_nil, or_false, not_or] at hwords
  unfold read?
  rw [String.toList_ofList, splitSign_digits m hne hdigits]
  dsimp only
  rw [if_neg (not_or.mpr ⟨hwords.1, hwords.2.1⟩), if_neg hwords.2.2,
    magnitude?_digits hne hdigits]
  rfl

end Decimal

namespace Resolve

open Decimal (SignMark)

/-! ## Texts that start with an integer -/

/-- The text starts, after white space and at most one sign, with a run of digits, and these write
the integer. -/
def StartsWith (s : String) (n : Int) : Prop :=
  ∃ (blanks : List Char) (m : SignMark) (digits rest : List Char),
    s.toList = blanks ++ (m.text ++ (digits ++ rest)) ∧
    (∀ c ∈ blanks, Text.isBlank c = true) ∧ digits ≠ [] ∧ (∀ c ∈ digits, c.isDigit = true) ∧
    NoDigitFirst rest ∧ n = m.apply (Nat.ofDigitChars 10 digits 0)

/-- Digits and signs are no white space. -/
theorem isBlank_eq_false {c : Char} (h : c ∈ NumberFormat.numerals) : Text.isBlank c = false := by
  have hall : NumberFormat.numerals.all (!Text.isBlank ·) = true := by decide
  simpa using List.all_eq_true.mp hall c h

section

variable {digits : List Char} (m : SignMark) (hne : digits ≠ [])
  (hdigits : ∀ c ∈ digits, c.isDigit = true)

include hne hdigits

theorem trimStart_append {blanks : List Char} (hblanks : ∀ c ∈ blanks, Text.isBlank c = true)
    (rest : List Char) : Text.trimStart (blanks ++ (m.text ++ (digits ++ rest))) =
      m.text ++ (digits ++ rest) := by
  have hstart : ∃ c cs, m.text ++ (digits ++ rest) = c :: cs ∧ c ∈ NumberFormat.numerals := by
    obtain ⟨d, ds, rfl⟩ := List.exists_cons_of_ne_nil hne
    cases m with
    | none =>
      exact ⟨_, _, rfl, NumberFormat.mem_numerals_of_isDigit (hdigits d List.mem_cons_self)⟩
    | plus | minus => exact ⟨_, _, rfl, by decide⟩
  obtain ⟨c, cs, heq, hc⟩ := hstart
  unfold Text.trimStart
  rw [List.dropWhile_append_of_pos hblanks, heq, List.dropWhile_cons_of_neg]
  rw [isBlank_eq_false hc]
  exact Bool.false_ne_true

theorem signOf_append (rest : List Char) : signOf (m.text ++ (digits ++ rest)) = m.text := by
  obtain ⟨d, ds, rfl⟩ := List.exists_cons_of_ne_nil hne
  cases m with
  | plus | minus => rfl
  | none =>
    have hd : ¬ ['-', '+'].contains d = true := by
      intro h
      have hd := hdigits d List.mem_cons_self
      have hmem := List.contains_iff_mem.mp h
      simp only [List.mem_cons, List.not_mem_nil, or_false] at hmem
      obtain rfl | rfl := hmem <;> cases hd
    exact if_neg hd

end

theorem exists_signOf_eq (cs : List Char) : ∃ m : SignMark, signOf cs = m.text := by
  cases cs with
  | nil => exact ⟨.none, rfl⟩
  | cons c cs =>
    rw [signOf]
    split_ifs with h
    · have hc := List.contains_iff_mem.mp h
      simp only [List.mem_cons, List.not_mem_nil, or_false] at hc
      obtain rfl | rfl := hc
      · exact ⟨.minus, rfl⟩
      · exact ⟨.plus, rfl⟩
    · exact ⟨.none, rfl⟩

theorem signOf_append_drop (cs : List Char) : signOf cs ++ cs.drop (signOf cs).length = cs := by
  cases cs with
  | nil => rfl
  | cons c cs =>
    rw [signOf]
    split_ifs <;> rfl

/-! ## Scans -/

/-- A text that starts with an integer is read as the integer, whatever follows. -/
theorem leadingInteger?_eq {blanks digits rest : List Char} {s : String} (m : SignMark)
    (hs : s.toList = blanks ++ (m.text ++ (digits ++ rest)))
    (hblanks : ∀ c ∈ blanks, Text.isBlank c = true) (hne : digits ≠ [])
    (hdigits : ∀ c ∈ digits, c.isDigit = true) (hrest : NoDigitFirst rest) :
    leadingInteger? s = some (Decimal.withSign (decide (m = .minus))
      (Float.ofNat (Nat.ofDigitChars 10 digits 0))) := by
  have htrim : Text.trimStart s.toList = m.text ++ (digits ++ rest) := by
    rw [hs, trimStart_append m hne hdigits hblanks]
  have hsignOf := signOf_append m hne hdigits rest
  have hrun : ((m.text ++ (digits ++ rest)).drop
      (signOf (m.text ++ (digits ++ rest))).length).takeWhile Char.isDigit = digits := by
    rw [hsignOf, List.drop_left, takeWhile_isDigit_append hdigits hrest]
  refine Option.get_of_eq_some _ ?_
  rw [htrim, scanInteger?_eq hrun, if_neg hne, hsignOf, Decimal.read?_digits m hne hdigits]

/-- Only a text that starts with an integer is read. -/
theorem isSome_leadingInteger?_iff {s : String} :
    (leadingInteger? s).isSome = true ↔ ∃ n, StartsWith s n := by
  constructor
  · intro h
    obtain ⟨cs, hcs⟩ : ∃ cs, cs = Text.trimStart s.toList := ⟨_, rfl⟩
    obtain ⟨tail, htail⟩ : ∃ tail, tail = cs.drop (signOf cs).length := ⟨_, rfl⟩
    obtain ⟨m, hm⟩ := exists_signOf_eq cs
    have hne : tail.takeWhile Char.isDigit ≠ [] := by
      intro hnil
      have hscan : scanInteger? cs = some none := by
        rw [scanInteger?_eq (htail ▸ hnil), if_pos rfl]
      have hnone : leadingInteger? s = none := Option.get_of_eq_some _ (hcs ▸ hscan)
      rw [hnone] at h
      cases h
    refine ⟨_, s.toList.takeWhile Text.isBlank, m, tail.takeWhile Char.isDigit,
      tail.dropWhile Char.isDigit, ?_, List.all_eq_true.mp List.all_takeWhile, hne,
      List.all_eq_true.mp List.all_takeWhile, ?_, rfl⟩
    · rw [List.takeWhile_append_dropWhile, htail, ← hm, signOf_append_drop, hcs, Text.trimStart,
        List.takeWhile_append_dropWhile]
    · intro c hc
      have hhead := List.head?_dropWhile_not Char.isDigit tail
      rw [hc] at hhead
      exact hhead
  · rintro ⟨n, blanks, m, digits, rest, hs, hblanks, hne, hdigits, hrest, -⟩
    rw [leadingInteger?_eq m hs hblanks hne hdigits hrest]
    rfl

instance (s : String) : Decidable (∃ n, StartsWith s n) :=
  decidable_of_iff _ isSome_leadingInteger?_iff

end Resolve

end FlexLayout
