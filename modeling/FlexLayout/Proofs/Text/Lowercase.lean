import FlexLayout.Proofs.Json.Number
import FlexLayout.Length
import FlexLayout.Text.Lowercase

/-!
# Lower case

The form of a character depends on its neighbours only for the capital sigma, and these are looked
at no further than the next character that is neither cased nor ignorable. So such a character parts
a text in two that are put into lower case by themselves. A text is its own lower case exactly if
each of its characters is (`lowercase_eq_self_iff`), as in all numbers but the word for a nan.
-/

namespace FlexLayout.Text

/-! ## Forms of characters -/

/-- The form of a character between its neighbours. -/
def formIn (before : List Char) (c : Char) (rest : List Char) : List Char :=
  if c = '\u03a3' then
    if meetsCased before && !meetsCased rest then ['\u03c2'] else ['\u03c3']
  else lowerChar c

theorem lowerFrom_cons (before : List Char) (c : Char) (rest : List Char) :
    lowerFrom before (c :: rest) = formIn before c rest ++ lowerFrom (c :: before) rest := rfl

/-! ## Barriers -/

/-- A character that has no case, and behind which no case is looked for. -/
structure Barrier (c : Char) : Prop where
  not_ignorable : caseIgnorable.has c = false
  not_cased : cased.has c = false

theorem barrier_equals : Barrier '=' := ⟨by decide +kernel, by decide +kernel⟩

theorem Barrier.ne_sigma {c : Char} (h : Barrier c) : c ≠ '\u03a3' := by
  rintro rfl
  exact absurd h.not_cased (by decide +kernel)

theorem meetsCased_append {c : Char} (h : Barrier c) (xs ys : List Char) :
    meetsCased (xs ++ c :: ys) = meetsCased xs := by
  unfold meetsCased
  induction xs with
  | nil =>
    rw [List.nil_append, List.dropWhile_cons_of_neg (by rw [h.not_ignorable]; decide)]
    exact h.not_cased
  | cons x xs ih =>
    rw [List.cons_append]
    by_cases hx : caseIgnorable.has x = true
    · rw [List.dropWhile_cons_of_pos hx, List.dropWhile_cons_of_pos hx]
      exact ih
    · rw [List.dropWhile_cons_of_neg hx, List.dropWhile_cons_of_neg hx]

theorem formIn_before {c : Char} (h : Barrier c) (xs ys : List Char) (d : Char) (rest : List Char) :
    formIn (xs ++ c :: ys) d rest = formIn xs d rest := by
  rw [formIn, meetsCased_append h]
  rfl

theorem formIn_behind {c : Char} (h : Barrier c) (before : List Char) (d : Char)
    (xs ys : List Char) :
    formIn before d (xs ++ c :: ys) = formIn before d xs := by
  rw [formIn, meetsCased_append h]
  rfl

/-- What stands before a barrier is out of sight. -/
theorem lowerFrom_before {c : Char} (h : Barrier c) (cs xs ys : List Char) :
    lowerFrom (xs ++ c :: ys) cs = lowerFrom xs cs := by
  induction cs generalizing xs with
  | nil => rfl
  | cons d cs ih =>
    have hnext : lowerFrom (d :: (xs ++ c :: ys)) cs = lowerFrom (d :: xs) cs := ih (d :: xs)
    rw [lowerFrom_cons, lowerFrom_cons, formIn_before h, hnext]

/-- A barrier parts a text in two. -/
theorem lowerFrom_append {c : Char} (h : Barrier c) (before xs ys : List Char) :
    lowerFrom before (xs ++ c :: ys) = lowerFrom before xs ++ lowerChar c ++ lowerFrom [] ys := by
  induction xs generalizing before with
  | nil =>
    have hform : formIn before c ys = lowerChar c := if_neg h.ne_sigma
    have hys : lowerFrom (c :: before) ys = lowerFrom [] ys := lowerFrom_before h ys [] before
    rw [List.nil_append, lowerFrom_cons, hform, hys]
    rfl
  | cons x xs ih =>
    rw [List.cons_append, lowerFrom_cons, lowerFrom_cons, formIn_behind h, ih]
    simp only [List.append_assoc]

theorem lowercase_append_equals (s t : String) :
    lowercase (s ++ "=" ++ t) = lowercase s ++ "=" ++ lowercase t := by
  have hlist : (s ++ "=" ++ t).toList = s.toList ++ '=' :: t.toList := by
    rw [String.toList_append, String.toList_append, List.append_assoc]
    rfl
  unfold lowercase
  rw [hlist, lowerFrom_append barrier_equals, String.ofList_append, String.ofList_append]
  rfl

/-! ## Texts without capitals -/

/-- A character that is its own lower case. -/
def IsSmall (c : Char) : Prop := lowerChar c = [c]

instance : DecidablePred IsSmall := fun c => inferInstanceAs (Decidable (lowerChar c = [c]))

theorem IsSmall.ne_sigma {c : Char} (h : IsSmall c) : c ≠ '\u03a3' := by
  rintro rfl
  exact absurd h (by decide +kernel)

theorem lowerChar_ne_nil (c : Char) : lowerChar c ≠ [] := by
  unfold lowerChar
  split_ifs
  · exact List.cons_ne_nil _ _
  · exact List.cons_ne_nil _ _
  · split <;> exact List.cons_ne_nil _ _

theorem formIn_ne_nil (before : List Char) (c : Char) (rest : List Char) :
    formIn before c rest ≠ [] := by
  unfold formIn
  split_ifs
  · exact List.cons_ne_nil _ _
  · exact List.cons_ne_nil _ _
  · exact lowerChar_ne_nil c

/-- In no place a capital keeps its form. -/
theorem formIn_eq_self_iff (before : List Char) (c : Char) (rest : List Char) :
    formIn before c rest = [c] ↔ IsSmall c := by
  unfold formIn
  split_ifs with hsigma hfinal
  · exact iff_of_false (by rw [hsigma]; decide) fun h => h.ne_sigma hsigma
  · exact iff_of_false (by rw [hsigma]; decide) fun h => h.ne_sigma hsigma
  · rfl

theorem length_le_length_lowerFrom (before cs : List Char) :
    cs.length ≤ (lowerFrom before cs).length := by
  induction cs generalizing before with
  | nil => exact Nat.zero_le _
  | cons c cs ih =>
    have hform := List.length_pos_iff.mpr (formIn_ne_nil before c cs)
    have hrest := ih (c :: before)
    rw [lowerFrom_cons, List.length_append, List.length_cons]
    omega

theorem lowerFrom_eq_self_iff {before cs : List Char} :
    lowerFrom before cs = cs ↔ ∀ c ∈ cs, IsSmall c := by
  induction cs generalizing before with
  | nil => simp [lowerFrom]
  | cons c cs ih =>
    have hcs : lowerFrom (c :: before) cs = cs ↔ ∀ c ∈ cs, IsSmall c := ih
    rw [lowerFrom_cons, List.forall_mem_cons, ← hcs, ← formIn_eq_self_iff before c cs]
    constructor
    · intro h
      -- a form of two characters would make the whole text longer
      have hlength := congrArg List.length h
      rw [List.length_append, List.length_cons] at hlength
      have hrest := length_le_length_lowerFrom (c :: before) cs
      have hpos := List.length_pos_iff.mpr (formIn_ne_nil before c cs)
      obtain ⟨x, hx⟩ := List.length_eq_one_iff.mp (by omega : (formIn before c cs).length = 1)
      rw [hx, List.singleton_append, List.cons.injEq] at h
      exact ⟨by rw [hx, h.1], h.2⟩
    · rintro ⟨hform, hrest⟩
      rw [hform, hrest, List.singleton_append]

/-- A text without capitals. -/
def Small (s : String) : Prop := ∀ c ∈ s.toList, IsSmall c

instance : DecidablePred Small := fun s => List.decidableBAll IsSmall s.toList

theorem lowercase_eq_self_iff {s : String} : lowercase s = s ↔ Small s := by
  rw [← String.toList_inj, lowercase, String.toList_ofList]
  exact lowerFrom_eq_self_iff

@[simp] theorem small_append {s t : String} : Small (s ++ t) ↔ Small s ∧ Small t := by
  unfold Small
  rw [String.toList_append, List.forall_mem_append]

/-! ## Numbers -/

/-- The letters of decimals and of the word for infinity are small ones. -/
theorem small_of_spelled {s : String}
    (h : NumberFormat.Spelled (NumberFormat.numerals ++ ['i', 'n', 'f']) s) : Small s := by
  have hsmall : Small (String.ofList (NumberFormat.numerals ++ ['i', 'n', 'f'])) := by
    decide +kernel
  rw [Small, String.toList_ofList] at hsmall
  exact fun c hc => hsmall c (h c hc)

theorem numberText_nan {x : Float} (h : Binary.ofFloat x = .nan) : numberText x = "NaN" := by
  unfold numberText NumberFormat.write
  rw [h]
  rfl

/-- Of all numbers only a nan is written with capitals. -/
theorem small_numberText_iff {x : Float} : Small (numberText x) ↔ Binary.ofFloat x ≠ .nan := by
  constructor
  · intro h hnan
    rw [numberText_nan hnan] at h
    exact absurd h (by decide +kernel)
  · intro h
    unfold numberText
    split
    · exact small_of_spelled ((NumberFormat.spelled_int _).mono (List.subset_append_left _ _))
    · exact small_of_spelled (NumberFormat.spelled_write _ h)

end FlexLayout.Text
