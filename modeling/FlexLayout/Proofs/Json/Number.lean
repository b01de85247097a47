import FlexLayout.Json.Writing
import Mathlib.Tactic.SplitIfs

/-!
# Characters of written numbers

A number is written with the digits, the signs, the point and the letter of the exponent; the
words for what is not finite add a few letters. So a written number never contains a letter such
as `x`, `b` or `c`, nor anything that a reader takes for the end of a numeral.
-/

namespace FlexLayout

namespace NumberFormat

/-- The characters of a text are among the given ones. -/
def Spelled (alphabet : List Char) (s : String) : Prop := ∀ c ∈ s.toList, c ∈ alphabet

instance (alphabet : List Char) : DecidablePred (Spelled alphabet) := fun s =>
  List.decidableBAll (· ∈ alphabet) s.toList

namespace Spelled

variable {alphabet : List Char} {s t : String}

theorem append (hs : Spelled alphabet s) (ht : Spelled alphabet t) : Spelled alphabet (s ++ t) := by
  intro c hc
  rw [String.toList_append, List.mem_append] at hc
  exact hc.elim (hs c) (ht c)

theorem mono {alphabet' : List Char} (h : Spelled alphabet s) (hsub : alphabet ⊆ alphabet') :
    Spelled alphabet' s := fun c hc => hsub (h c hc)

theorem ofList {cs : List Char} (h : ∀ c ∈ cs, c ∈ alphabet) :
    Spelled alphabet (String.ofList cs) := by
  intro c hc
  rw [String.toList_ofList] at hc
  exact h c hc

end Spelled

/-- The characters that decimals are written with. -/
def numerals : List Char :=
  ['0', '1', '2', '3', '4', '5', '6', '7', '8', '9', '-', '+', '.', 'e']

/-- The characters that numbers are written with. -/
def characters : List Char := numerals ++ ['N', 'a', 'i', 'n', 'f', 'u', 'l']

theorem numerals_subset : numerals ⊆ characters := List.subset_append_left _ _

/-- The characters of a text are among those of numbers. -/
def Plain (s : String) : Prop := Spelled characters s

instance : DecidablePred Plain := fun s => inferInstanceAs (Decidable (Spelled characters s))

theorem Plain.append {s t : String} (hs : Plain s) (ht : Plain t) : Plain (s ++ t) :=
  Spelled.append hs ht

theorem mem_numerals_of_isDigit {c : Char} (h : c.isDigit = true) : c ∈ numerals := by
  have hall : ∀ n < 10, Char.ofNat (48 + n) ∈ numerals := by decide
  have hlow : 48 ≤ c.toNat ∧ c.toNat ≤ 57 := by
    simpa [Char.isDigit, UInt32.le_iff_toNat_le] using h
  have hc : c = Char.ofNat (48 + (c.toNat - 48)) := by
    rw [Nat.add_sub_cancel' hlow.1, Char.ofNat_toNat]
  rw [hc]
  exact hall _ (by omega)

theorem spelled_nat (n : Nat) : Spelled numerals (toString n) := by
  intro c h
  rw [Nat.toString_eq_repr, Nat.toList_repr] at h
  exact mem_numerals_of_isDigit (Nat.isDigit_of_mem_toDigits (by decide) (by decide) h)

theorem spelled_int (n : Int) : Spelled numerals (toString n) := by
  cases n with
  | ofNat n => exact spelled_nat n
  | negSucc n => exact (by decide : Spelled numerals "-").append (spelled_nat (n + 1))

theorem spelled_zeros (k : Nat) : Spelled numerals (String.ofList (List.replicate k '0')) := by
  refine .ofList fun c h => ?_
  rw [List.eq_of_mem_replicate h]
  decide

theorem spelled_place (point : Bool) {digits : String} (h : Spelled numerals digits) (top : Int) :
    Spelled numerals (place point digits top) := by
  unfold place
  dsimp only
  split_ifs
  · exact ((by decide : Spelled numerals "0.").append (spelled_zeros _)).append h
  · exact (h.append (spelled_zeros _)).append (by decide)
  · exact (h.append (spelled_zeros _)).append (by decide)
  · refine ((Spelled.ofList fun c hc => ?_).append (by decide : Spelled numerals ".")).append
      (.ofList fun c hc => ?_)
    · exact h c (List.mem_of_mem_take hc)
    · exact h c (List.mem_of_mem_drop hc)

theorem spelled_scientific {digits : String} (h : Spelled numerals digits) (top : Int) :
    Spelled numerals (scientific digits top) := by
  have hhead : Spelled numerals (String.ofList (digits.toList.take 1)) :=
    .ofList fun c hc => h c (List.mem_of_mem_take hc)
  have htail : Spelled numerals (String.ofList (digits.toList.drop 1)) :=
    .ofList fun c hc => h c (List.mem_of_mem_drop hc)
  have hpoint : Spelled numerals (if (digits.toList.drop 1).isEmpty then "" else
      "." ++ String.ofList (digits.toList.drop 1)) := by
    split
    · decide
    · exact (by decide : Spelled numerals ".").append htail
  have hsign : Spelled numerals (if top < 0 then "-" else "+") := by split <;> decide
  exact (((hhead.append hpoint).append (by decide : Spelled numerals "e")).append hsign).append
    (spelled_nat _)

theorem spelled_decimal (f : NumberFormat) (d : Decimal) : Spelled numerals (f.decimal d) := by
  unfold decimal
  dsimp only
  split_ifs
  · exact spelled_place _ (spelled_nat _) _
  · exact spelled_scientific (spelled_nat _) _

/-- What is not a nan is written with the characters of decimals and of the word for infinity. -/
theorem spelled_write (f : NumberFormat) {x : Float} (h : Binary.ofFloat x ≠ .nan) :
    Spelled (numerals ++ ['i', 'n', 'f']) (f.write x) := by
  unfold write
  split
  · contradiction
  · split <;> decide
  · refine Spelled.append (by split <;> decide) ?_
    exact (spelled_decimal _ _).mono (List.subset_append_left _ _)

/-- A double is written with the characters of numbers only, in every format. -/
theorem plain_write (f : NumberFormat) (x : Float) : Plain (f.write x) := by
  by_cases h : Binary.ofFloat x = .nan
  · rw [write, h]
    exact (by decide : Plain "NaN")
  · exact (spelled_write f h).mono (by decide)

end NumberFormat

namespace Json

open NumberFormat (Plain)

theorem plain_writeNumber (n : Number) : Plain (writeNumber n) := by
  cases n with
  | int i => exact (NumberFormat.spelled_int i).mono NumberFormat.numerals_subset
  | float x =>
    show Plain (if x.isFinite then NumberFormat.json.write x else "null")
    split_ifs
    · exact NumberFormat.plain_write _ _
    · decide

end Json

end FlexLayout
