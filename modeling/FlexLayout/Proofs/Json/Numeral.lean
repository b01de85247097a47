import FlexLayout.Json.Reading
import FlexLayout.Proofs.Json.Number
import FlexLayout.Proofs.Json.Word

/-!
# Numbers that read back

A number is written as one word. Reading its text comes down to reading that word as a numeral, so
whether a number reads back is settled by its word alone. Natural numbers of 64 bits always read
back. A double does if its digits, gathered and scaled, come to the same double again.
-/

namespace FlexLayout.Json

namespace Token

/-! ## Words -/

theorem not_isWordChar_of_isSpace {c : Char} (h : isSpace c = true) : isWordChar c = false := by
  simp only [isSpace, Bool.or_eq_true, decide_eq_true_eq] at h
  rcases h with ((rfl | rfl) | rfl) | rfl <;> decide

theorem begin_word {c : Char} (h : isWordChar c = true) (read : List Token) :
    begin read c = some (.word [c], read) := by
  have hspace : isSpace c = false := by
    rw [← Bool.not_eq_true]
    intro hs
    rw [not_isWordChar_of_isSpace hs] at h
    cases h
  have hquote : c ≠ '"' := by
    rintro rfl
    revert h
    decide
  unfold begin
  rw [hspace, if_neg Bool.false_ne_true, if_neg hquote, if_pos h]

/-- The letters of a word are gathered, last first. -/
theorem foldlM_word {cs : List Char} (h : ∀ c ∈ cs, isWordChar c = true) (letters : List Char)
    (read : List Token) :
    cs.foldlM step (.word letters, read) = some (.word (cs.reverse ++ letters), read) := by
  induction cs generalizing letters with
  | nil => rfl
  | cons c rest ih =>
    have hstep : step (.word letters, read) c = some (.word (c :: letters), read) := by
      unfold step
      exact if_pos (h c List.mem_cons_self)
    rw [List.foldlM_cons, hstep, Option.bind_eq_bind, Option.bind_some,
      ih (fun x hx => h x (List.mem_cons_of_mem c hx)), List.reverse_cons, List.append_assoc]
    rfl

theorem foldlM_begin_word {cs : List Char} (hne : cs ≠ []) (h : ∀ c ∈ cs, isWordChar c = true)
    (read : List Token) : cs.foldlM step (.between, read) = some (.word cs.reverse, read) := by
  obtain ⟨c, rest, rfl⟩ := List.exists_cons_of_ne_nil hne
  rw [List.foldlM_cons]
  show (begin read c).bind _ = _
  rw [begin_word (h c List.mem_cons_self), Option.bind_some,
    foldlM_word (fun x hx => h x (List.mem_cons_of_mem c hx)), List.reverse_cons]

/-- The text of a word has its token only. -/
theorem scan_word {cs : List Char} (hne : cs ≠ []) (h : ∀ c ∈ cs, isWordChar c = true) :
    scan cs = (ofWord? cs).map fun t => [t] := by
  unfold scan start
  rw [foldlM_begin_word hne h, Option.bind_some, finish, List.reverse_reverse]
  rfl

theorem isWordChar_of_plain {s : String} (h : NumberFormat.Plain s) {c : Char}
    (hc : c ∈ s.toList) : isWordChar c = true := by
  have hall : NumberFormat.characters.all isWordChar = true := by decide
  exact List.all_eq_true.mp hall c (h c hc)

/-- A word that is a numeral is none of the literals. -/
theorem ofWord?_of_numeral {cs : List Char} {n : Numeral} (h : Numeral.ofWord? cs = some n) :
    ofWord? cs = some (.numeral n) := by
  have hne (word : List Char) (hword : Numeral.ofWord? word = none) : cs ≠ word := by
    rintro rfl
    rw [hword] at h
    cases h
  unfold ofWord?
  rw [if_neg (hne _ (by decide)), if_neg (hne _ (by decide)), if_neg (hne _ (by decide)), h]
  rfl

end Token

/-! ## Reading back -/

/-- Reading the text of the number gives the number. -/
def Rereads (n : Number) : Prop := read? (writeNumber n) = some (.number n)

/-- The token of the word that a number is written as. -/
def numberToken (n : Number) : Token := (Token.ofWord? (writeNumber n).toList).getD .null

/-- A token is read as a value that is a number just if it is a numeral of that number. -/
theorem ofTokens?_eq_number_iff {t : Token} {n : Number} :
    (ofTokens? (fun _ => true) [t]).map canonical = some (.number n) ↔
      ∃ m, t = .numeral m ∧ m.value? = some n := by
  have hone : ofTokens? (fun _ => true) [t] =
      (Reader.step (fun _ => true) Reader.start t).bind Reader.finish := by
    unfold ofTokens?
    rw [List.foldlM_cons]
    cases Reader.step (fun _ => true) Reader.start t <;> rfl
  rw [hone]
  unfold Reader.step Reader.start
  cases t with
  | numeral m =>
    simp only [Reader.value, Token.numeral.injEq]
    rcases hm : m.value? with _ | x
    · simp [Reader.skips, hm]
    · simp [Reader.put, Reader.finish, canonical, hm]
  | string s =>
    cases s <;> simp [Reader.value, Reader.skips, Reader.put, Reader.finish, canonical]
  | _ => simp [Reader.value, Reader.skips, Reader.put, Reader.finish, canonical, maxNesting]

/-- The number that the text of a number is read as. -/
def reread? (n : Number) : Option Number :=
  match Token.ofWord? (writeNumber n).toList with
  | some (.numeral m) => m.value?
  | _ => none

theorem reread?_eq_some_iff {n x : Number} :
    reread? n = some x ↔ ∃ m, Token.ofWord? (writeNumber n).toList = some (.numeral m) ∧
      m.value? = some x := by
  unfold reread?
  split
  · rename_i m hm
    simp [hm]
  · rename_i hm
    constructor
    · rintro ⟨⟩
    · rintro ⟨m, hnumeral, -⟩
      exact (hm m hnumeral).elim

/-- A number reads back if its word is a numeral of the number. -/
theorem rereads_iff {n : Number} :
    Rereads n ↔ ∃ m, Token.ofWord? (writeNumber n).toList = some (.numeral m) ∧
      m.value? = some n := by
  have hword : ∀ c ∈ (writeNumber n).toList, Token.isWordChar c = true :=
    fun _ hc => Token.isWordChar_of_plain (plain_writeNumber n) hc
  unfold Rereads read?
  by_cases hne : (writeNumber n).toList = []
  · rw [hne]
    constructor
    · intro h
      cases h
    · rintro ⟨m, hm, -⟩
      cases hm
  · rw [Token.scan_word hne hword]
    rcases ht : Token.ofWord? (writeNumber n).toList with _ | t
    · simp
    · simp only [Option.map_some, Option.bind_some, Option.some_inj]
      exact ofTokens?_eq_number_iff

theorem Rereads.reread?_eq {n : Number} (h : Rereads n) : reread? n = some n :=
  reread?_eq_some_iff.mpr (rereads_iff.mp h)

theorem ofWord?_numberToken {n x : Number} (h : reread? n = some x) :
    Token.ofWord? (writeNumber n).toList = some (numberToken n) := by
  obtain ⟨m, hm, -⟩ := reread?_eq_some_iff.mp h
  unfold numberToken
  rw [hm, Option.getD_some]

theorem numberToken_eq {n x : Number} (h : reread? n = some x) :
    ∃ m, numberToken n = .numeral m ∧ m.value? = some x := by
  obtain ⟨m, hm, hvalue⟩ := reread?_eq_some_iff.mp h
  refine ⟨m, ?_, hvalue⟩
  unfold numberToken
  rw [hm, Option.getD_some]

/-! ## Natural numbers -/

/-- A natural number of 64 bits reads back. -/
theorem rereads_nat {n : Nat} (h : n < UInt64.size) : Rereads (.int n) := by
  have htext : (writeNumber (.int n)).toList = Nat.toDigits 10 n := Nat.toList_repr
  have hdigits : Decimal.ofDigits (Nat.toDigits 10 n) = n := Nat.ofDigitChars_ten_toDigits
  rw [rereads_iff, htext, Token.ofWord?_of_numeral (Numeral.ofWord?_toDigits n)]
  refine ⟨_, rfl, ?_⟩
  simp [Numeral.value?, Numeral.integer?, hdigits, h]

end FlexLayout.Json
