import FlexLayout.Length
import FlexLayout.Proofs.Json.Number
import FlexLayout.Text.Lowercase
import FlexLayout.Text.Quoted
import FlexLayout.Text.Split

/-!
# Lines

A text on one line holds no line feed. Numbers and quoted texts are on one line whatever they stand
for, and lower case keeps a text on one line. Lines that are closed by a line feed each are taken
apart again by splitting (`split_closed`).
-/

namespace FlexLayout.Text

/-- A text without a line feed. -/
def OneLine (s : String) : Prop := '\n' ∉ s.toList

instance : DecidablePred OneLine := fun s => inferInstanceAs (Decidable ('\n' ∉ s.toList))

@[simp] theorem oneLine_append {s t : String} : OneLine (s ++ t) ↔ OneLine s ∧ OneLine t := by
  unfold OneLine
  rw [String.toList_append, List.mem_append, not_or]

theorem oneLine_ofList {cs : List Char} : OneLine (String.ofList cs) ↔ '\n' ∉ cs := by
  unfold OneLine
  rw [String.toList_ofList]

/-! ## Numbers -/

theorem OneLine.of_plain {s : String} (h : NumberFormat.Plain s) : OneLine s := by
  intro hmem
  have hnot : '\n' ∉ NumberFormat.characters := by decide
  exact hnot (h '\n' hmem)

@[simp] theorem oneLine_toString_nat (n : Nat) : OneLine (toString n) :=
  .of_plain ((NumberFormat.spelled_nat n).mono NumberFormat.numerals_subset)

@[simp] theorem oneLine_toString_int (n : Int) : OneLine (toString n) :=
  .of_plain ((NumberFormat.spelled_int n).mono NumberFormat.numerals_subset)

@[simp] theorem oneLine_numberText (x : Float) : OneLine (numberText x) := by
  unfold numberText
  split
  · exact oneLine_toString_int _
  · exact .of_plain (NumberFormat.plain_write _ x)

/-! ## Quoted texts and lower case -/

theorem exists_digit_of_mem_toDigits {b n : Nat} (hb : 1 < b) {c : Char}
    (h : c ∈ Nat.toDigits b n) : ∃ d < b, c = d.digitChar := by
  induction n using Nat.strongRecOn with
  | ind n ih =>
    by_cases hn : n < b
    · rw [Nat.toDigits_of_lt_base hn, List.mem_singleton] at h
      exact ⟨n, hn, h⟩
    · have hn : b ≤ n := Nat.le_of_not_lt hn
      rw [Nat.toDigits_of_base_le hb hn, List.mem_append, List.mem_singleton] at h
      rcases h with h | h
      · exact ih (n / b) (Nat.div_lt_self (by omega) hb) h
      · exact ⟨n % b, Nat.mod_lt n (by omega), h⟩

theorem not_mem_escape (c : Char) : '\n' ∉ escape c := by
  have hdigit : ∀ d < 16, '\n' ≠ d.digitChar := by decide
  have hdigits : '\n' ∉ Nat.toDigits 16 c.toNat := by
    intro hmem
    obtain ⟨d, hd, heq⟩ := exists_digit_of_mem_toDigits (by decide) hmem
    exact hdigit d hd heq
  unfold escape
  split
  case h_7 =>
    split
    · rw [List.mem_singleton]
      rintro rfl
      contradiction
    · simp [hdigits]
  all_goals decide

theorem oneLine_quote (s : String) : OneLine (quote s) := by
  unfold quote
  rw [oneLine_ofList]
  simp [not_mem_escape]

theorem ofNat_ne_newLine {n : Nat} (h : 0x20 < n) : Char.ofNat n ≠ '\n' := by
  intro heq
  unfold Char.ofNat at heq
  by_cases hvalid : n.isValidChar
  · rw [dif_pos hvalid] at heq
    have hcode : n = 10 := congrArg Char.toNat heq
    omega
  · rw [dif_neg hvalid] at heq
    cases heq

/-- Only the line feed itself has the line feed as its lower-case form. -/
theorem not_mem_lowerChar {c : Char} (h : c ≠ '\n') : '\n' ∉ lowerChar c := by
  have hascii : ∀ n < 0x80, Char.ofNat n ≠ '\n' → (Char.ofNat n).toLower ≠ '\n' := by decide
  have hruns : ∀ r ∈ caseRuns, 0x20 < (r.first : Int) + r.shift := by decide +kernel
  unfold lowerChar
  split
  · rename_i hlt
    rw [List.mem_singleton]
    have hc := hascii c.toNat hlt
    rw [Char.ofNat_toNat] at hc
    exact (hc h).symm
  · split
    · decide
    · split
      · rename_i r hr
        have hrun := hruns r (List.mem_of_find?_eq_some hr)
        have hfirst := List.find?_some hr
        simp only [Bool.and_eq_true, decide_eq_true_eq] at hfirst
        rw [List.mem_singleton]
        exact (ofNat_ne_newLine (by omega)).symm
      · rw [List.mem_singleton]
        exact Ne.symm h

theorem not_mem_lowerFrom {cs : List Char} (h : '\n' ∉ cs) (before : List Char) :
    '\n' ∉ lowerFrom before cs := by
  induction cs generalizing before with
  | nil => exact List.not_mem_nil
  | cons c rest ih =>
    rw [List.mem_cons, not_or] at h
    rw [lowerFrom, List.mem_append, not_or]
    refine ⟨?_, ih h.2 _⟩
    split
    · split <;> decide
    · exact not_mem_lowerChar (Ne.symm h.1)

theorem OneLine.lowercase {s : String} (h : OneLine s) : OneLine (lowercase s) := by
  unfold Text.lowercase
  rw [oneLine_ofList]
  exact not_mem_lowerFrom h []

/-! ## Splitting -/

theorem splitChars_of_not_mem {sep : Char} {cs : List Char} (h : sep ∉ cs) (rest : List Char) :
    splitChars sep (cs ++ sep :: rest) = cs :: splitChars sep rest := by
  induction cs with
  | nil => rw [List.nil_append, splitChars, if_pos rfl]
  | cons c cs ih =>
    rw [List.mem_cons, not_or] at h
    rw [List.cons_append, splitChars, if_neg (Ne.symm h.1), ih h.2]

theorem not_mem_of_mem_splitChars {sep : Char} {cs part : List Char}
    (h : part ∈ splitChars sep cs) : sep ∉ part := by
  induction cs generalizing part with
  | nil =>
    rw [splitChars, List.mem_singleton] at h
    rw [h]
    exact List.not_mem_nil
  | cons c cs ih =>
    rw [splitChars] at h
    split at h
    · rcases List.mem_cons.mp h with rfl | h
      · exact List.not_mem_nil
      · exact ih h
    · rename_i hne
      rcases hcs : splitChars sep cs with _ | ⟨first, rest⟩
      · exact absurd hcs (splitChars_ne_nil sep cs)
      · rw [hcs] at h ih
        rcases List.mem_cons.mp h with rfl | h
        · rw [List.mem_cons, not_or]
          exact ⟨Ne.symm hne, ih List.mem_cons_self⟩
        · exact ih (List.mem_cons_of_mem _ h)

/-! ## The first parts -/

section FirstParts

variable {sep : Char} {cs a b : List Char}

theorem splitChars_eq_singleton (h : sep ∉ cs) : splitChars sep cs = [cs] := by
  induction cs with
  | nil => rfl
  | cons c cs ih =>
    rw [List.mem_cons, not_or] at h
    rw [splitChars, if_neg (Ne.symm h.1), ih h.2]

/-- The first part goes to the first separator, or to the end if there is none. -/
theorem splitChars_eq_cons_iff {rest : List (List Char)} :
    splitChars sep cs = a :: rest ↔ sep ∉ a ∧
      (cs = a ∧ rest = [] ∨ ∃ tail, cs = a ++ sep :: tail ∧ splitChars sep tail = rest) := by
  constructor
  · intro h
    refine ⟨not_mem_of_mem_splitChars (h ▸ List.mem_cons_self), ?_⟩
    by_cases hsep : sep ∈ cs
    · obtain ⟨first, tail, rfl, hfirst⟩ := List.eq_append_cons_of_mem hsep
      rw [splitChars_of_not_mem hfirst, List.cons.injEq] at h
      obtain ⟨rfl, hrest⟩ := h
      exact .inr ⟨tail, rfl, hrest⟩
    · rw [splitChars_eq_singleton hsep, List.cons.injEq] at h
      exact .inl ⟨h.1, h.2.symm⟩
  · rintro ⟨ha, ⟨rfl, rfl⟩ | ⟨tail, rfl, rfl⟩⟩
    · exact splitChars_eq_singleton ha
    · exact splitChars_of_not_mem ha tail

/-- A text of two parts has one separator. -/
theorem splitChars_eq_pair_iff :
    splitChars sep cs = [a, b] ↔ sep ∉ a ∧ sep ∉ b ∧ cs = a ++ sep :: b := by
  rw [splitChars_eq_cons_iff]
  refine and_congr_right fun _ => ?_
  constructor
  · rintro (⟨-, h⟩ | ⟨tail, rfl, htail⟩)
    · cases h
    · obtain ⟨hb, ⟨rfl, -⟩ | ⟨more, -, hmore⟩⟩ := splitChars_eq_cons_iff.mp htail
      · exact ⟨hb, rfl⟩
      · exact absurd hmore (splitChars_ne_nil sep more)
  · rintro ⟨hb, rfl⟩
    exact .inr ⟨b, rfl, splitChars_eq_singleton hb⟩

/-- A text of two parts or more goes on, behind the second, with a separator or not at all. -/
theorem exists_splitChars_eq_iff :
    (∃ rest, splitChars sep cs = a :: b :: rest) ↔ sep ∉ a ∧ sep ∉ b ∧
      ∃ more, cs = a ++ sep :: (b ++ more) ∧ (more = [] ∨ more.head? = some sep) := by
  constructor
  · rintro ⟨rest, h⟩
    obtain ⟨ha, ⟨-, h⟩ | ⟨tail, rfl, htail⟩⟩ := splitChars_eq_cons_iff.mp h
    · cases h
    · obtain ⟨hb, ⟨rfl, -⟩ | ⟨more, rfl, -⟩⟩ := splitChars_eq_cons_iff.mp htail
      · exact ⟨ha, hb, [], by rw [List.append_nil], .inl rfl⟩
      · exact ⟨ha, hb, sep :: more, rfl, .inr rfl⟩
  · rintro ⟨ha, hb, more, rfl, hmore⟩
    rw [splitChars_of_not_mem ha]
    rcases more with _ | ⟨c, more⟩
    · rw [List.append_nil, splitChars_eq_singleton hb]
      exact ⟨[], rfl⟩
    · obtain rfl : c = sep := by simpa using hmore
      rw [splitChars_of_not_mem hb]
      exact ⟨_, rfl⟩

end FirstParts

/-! ## Parts put together -/

/-- The parts, with the separator put between them again. -/
theorem intercalate_splitChars (sep : Char) (cs : List Char) :
    [sep].intercalate (splitChars sep cs) = cs := by
  induction cs with
  | nil => rfl
  | cons c cs ih =>
    rcases hcs : splitChars sep cs with _ | ⟨first, rest⟩
    · exact absurd hcs (splitChars_ne_nil sep cs)
    · rw [splitChars, hcs]
      rw [hcs] at ih
      split
      · rename_i heq
        rw [List.intercalate_cons_cons, ih, List.nil_append, heq]
        rfl
      · cases rest with
        | nil =>
          rw [List.intercalate_singleton] at ih ⊢
          rw [ih]
        | cons next rest =>
          rw [List.intercalate_cons_cons, List.cons_append, List.cons_append,
            ← List.intercalate_cons_cons, ih]

theorem split_ne_nil (sep : Char) (s : String) : split sep s ≠ [] := fun h =>
  splitChars_ne_nil sep s.toList (List.map_eq_nil_iff.mp h)

theorem oneLine_of_mem_split {s line : String} (h : line ∈ split '\n' s) : OneLine line := by
  obtain ⟨cs, hcs, rfl⟩ := List.mem_map.mp h
  rw [oneLine_ofList]
  exact not_mem_of_mem_splitChars hcs

/-- The lines of a text, joined again. -/
theorem intercalate_split (s : String) : String.intercalate "\n" (split '\n' s) = s := by
  have hmap : ((split '\n' s).map String.toList) = splitChars '\n' s.toList := by
    unfold split
    rw [List.map_map]
    exact List.map_id'' (fun cs => String.toList_ofList) _
  rw [← String.toList_inj, String.toList_intercalate, hmap]
  exact intercalate_splitChars '\n' s.toList

/-- Lines that are closed by a line feed each, taken apart again. Nothing is left behind the
last. -/
theorem split_closed {lines : List String} (h : ∀ s ∈ lines, OneLine s) :
    split '\n' (String.join (lines.map (· ++ "\n"))) = lines ++ [""] := by
  induction lines with
  | nil => rfl
  | cons s rest ih =>
    rw [List.forall_mem_cons] at h
    have hrest := ih h.2
    unfold split at hrest ⊢
    rw [List.map_cons, String.join_cons, String.toList_append, String.toList_append,
      List.append_assoc]
    show (splitChars '\n' (s.toList ++ '\n' :: (String.join _).toList)).map String.ofList = _
    rw [splitChars_of_not_mem h.1, List.map_cons, hrest, String.ofList_toList]
    rfl

/-- The lines of a text in which every line is closed by a line feed. -/
def closedLines (s : String) : List String := (split '\n' s).dropLast

/-! ## Words -/

/-- What stands before the first space. -/
def firstWord (s : String) : String := String.ofList (s.toList.takeWhile (· ≠ ' '))

theorem firstWord_of_isPrefix {s word : String} (h : word.toList ++ [' '] <+: s.toList)
    (hword : ' ' ∉ word.toList) : firstWord s = word := by
  obtain ⟨rest, hrest⟩ := h
  have hall : ∀ c ∈ word.toList, decide (c ≠ ' ') = true := by
    intro c hc
    rw [decide_eq_true_eq]
    rintro rfl
    exact hword hc
  unfold firstWord
  rw [← hrest, List.append_assoc, List.takeWhile_append_of_pos hall, List.singleton_append,
    List.takeWhile_cons_of_neg (by decide), List.append_nil, String.ofList_toList]

end FlexLayout.Text
