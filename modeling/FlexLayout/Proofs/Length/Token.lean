import FlexLayout.Length.Token
import FlexLayout.Proofs.Json.Record

/-!
# What tables make of values

A value is absolute for a table, one of its tokens, or neither, and never two of these. What a table
resolves it shows in a form that it passes through: every length of a table has a text with a mark
that the table accepts, so that the text stands for itself from then on.
-/

namespace FlexLayout

/-! ## Marks -/

namespace Marks

/-- A value holds a mark of an absolute unit: `px`, or `%` where percentages count. -/
def Marked (m : Marks) (s : String) : Prop :=
  ['p', 'x'] <:+: s.toList ∨ m = .pixelOrPercent ∧ ['%'] <:+: s.toList

theorem accept_iff (m : Marks) (s : String) : m.accept s = true ↔ m.Marked s := by
  cases m with
  | pixelOrPercent =>
    show (hasPixelMark s || hasPercentMark s) = true ↔ _
    rw [Bool.or_eq_true, hasPixelMark, hasPercentMark, Text.occurs_iff, Text.occurs_iff]
    simp [Marked]
  | pixelOnly =>
    show hasPixelMark s = true ↔ _
    rw [hasPixelMark, Text.occurs_iff]
    simp [Marked]

/-- The lengths whose text ends in an accepted mark. Literal lengths are no lengths of tokens. -/
def covers : Marks → Length → Bool
  | _, .px _ => true
  | m, .percent _ => m = .pixelOrPercent
  | _, .literal _ => false

theorem marked_text {m : Marks} {l : Length} (h : m.covers l = true) : m.Marked l.text := by
  cases l with
  | px x => exact .inl ⟨(numberText x).toList, [], by simp [Length.text]⟩
  | percent x =>
    have hm : m = .pixelOrPercent := of_decide_eq_true h
    exact .inr ⟨hm, (numberText x).toList, [], by simp [Length.text]⟩
  | literal s => cases h

end Marks

namespace TokenTable

/-! ## Tables -/

/-- A table of tokens that no value is mistaken for and of lengths that it would pass through. -/
structure Sound (t : TokenTable) : Prop where
  /-- Every token has one length. -/
  nodup : t.tokens.Nodup
  /-- No token is absolute. -/
  unmarked : ∀ token ∈ t.tokens, t.marks.accept token = false
  /-- Every length is shown with a mark that the table accepts. -/
  covered : ∀ e ∈ t.entries, t.marks.covers e.2 = true

theorem sound_of_mem_all : ∀ t ∈ all, t.Sound := by
  have hall : ∀ t ∈ all, t.tokens.Nodup ∧ (∀ token ∈ t.tokens, t.marks.accept token = false) ∧
      ∀ e ∈ t.entries, t.marks.covers e.2 = true := by
    decide +kernel
  intro t ht
  obtain ⟨hnodup, hunmarked, hcovered⟩ := hall t ht
  exact ⟨hnodup, hunmarked, hcovered⟩

variable {t : TokenTable} {s : String}

theorem mem_tokens_iff : s ∈ t.tokens ↔ ∃ l, (s, l) ∈ t.entries := by
  unfold tokens
  simp

namespace Sound

theorem not_marked (h : t.Sound) (hs : s ∈ t.tokens) : ¬ t.marks.Marked s := by
  rw [← Marks.accept_iff, h.unmarked s hs]
  exact Bool.false_ne_true

/-- A table finds the length that it lists. -/
theorem get?_eq_some_iff (h : t.Sound) {l : Length} :
    t.get? s = some l ↔ (s, l) ∈ t.entries :=
  lookup_eq_some_iff_mem h.nodup

/-- What a value resolves to: itself if it is absolute, and its length if it is a token. -/
theorem resolve?_eq_some_iff (h : t.Sound) {l : Length} :
    t.resolve? s = some l ↔ t.marks.Marked s ∧ l = .literal s ∨ (s, l) ∈ t.entries := by
  unfold resolve?
  split
  · rename_i haccept
    have hmarked := (Marks.accept_iff _ _).mp haccept
    have hnot (hmem : (s, l) ∈ t.entries) : False :=
      h.not_marked (mem_tokens_iff.mpr ⟨l, hmem⟩) hmarked
    rw [Option.some_inj, eq_comm]
    exact ⟨fun hl => .inl ⟨hmarked, hl⟩, fun hl => hl.elim And.right fun hmem => (hnot hmem).elim⟩
  · rename_i haccept
    have hmarked : ¬ t.marks.Marked s := fun hm => haccept ((Marks.accept_iff _ _).mpr hm)
    rw [h.get?_eq_some_iff]
    exact ⟨.inr, fun hl => hl.elim (fun hm => (hmarked hm.1).elim) id⟩

theorem resolve?_eq_none_iff (h : t.Sound) :
    t.resolve? s = none ↔ ¬ t.marks.Marked s ∧ s ∉ t.tokens := by
  simp only [Option.eq_none_iff_forall_ne_some, ne_eq, h.resolve?_eq_some_iff, mem_tokens_iff,
    not_or, not_and, not_exists]
  exact ⟨fun hl => ⟨fun hm => (hl (.literal s)).1 hm rfl, fun l => (hl l).2⟩,
    fun hl l => ⟨fun hm => (hl.1 hm).elim, hl.2 l⟩⟩

theorem resolve?_eq_literal_iff (h : t.Sound) :
    t.resolve? s = some (.literal s) ↔ t.marks.Marked s := by
  rw [h.resolve?_eq_some_iff]
  refine ⟨fun hs => hs.elim And.left fun hmem => ?_, fun hm => .inl ⟨hm, rfl⟩⟩
  exact absurd (h.covered _ hmem) Bool.false_ne_true

/-- What a table resolves to carries a mark that the table accepts. -/
theorem marked_of_resolve? (h : t.Sound) {l : Length} (hl : t.resolve? s = some l) :
    t.marks.Marked l.text := by
  rcases h.resolve?_eq_some_iff.mp hl with ⟨hmarked, rfl⟩ | hmem
  · exact hmarked
  · exact Marks.marked_text (h.covered _ hmem)

end Sound

/-- **Tokens.** For each of the tables and every value: the value stands for itself exactly if it
carries an accepted mark, for a length of the table exactly if it is a token, with the one length
that the table lists, and for nothing otherwise; no value carries a mark and is a token. Whatever
the value resolves to, the text of that stands for itself, character by character. -/
theorem resolve?_stable (t : TokenTable) (ht : t ∈ all) (s : String) :
    (t.resolve? s = some (.literal s) ↔ t.marks.Marked s) ∧
      ((∃ l, (s, l) ∈ t.entries ∧ t.resolve? s = some l) ↔ s ∈ t.tokens) ∧
      (∀ l, t.resolve? s = some l ↔ t.marks.Marked s ∧ l = .literal s ∨ (s, l) ∈ t.entries) ∧
      (t.resolve? s = none ↔ ¬ t.marks.Marked s ∧ s ∉ t.tokens) ∧
      ¬ (t.marks.Marked s ∧ s ∈ t.tokens) ∧
      ∀ l, t.resolve? s = some l →
        t.resolve? l.text = some (.literal l.text) ∧ (Length.literal l.text).text = l.text := by
  have h := sound_of_mem_all t ht
  refine ⟨h.resolve?_eq_literal_iff, ?_, fun l => h.resolve?_eq_some_iff, h.resolve?_eq_none_iff,
    fun hs => h.not_marked hs.2 hs.1, fun l hl => ?_⟩
  · rw [mem_tokens_iff]
    exact exists_congr fun l =>
      and_iff_left_of_imp fun hmem => h.resolve?_eq_some_iff.mpr (.inr hmem)
  · exact ⟨h.resolve?_eq_literal_iff.mpr (h.marked_of_resolve? hl), rfl⟩

/-- The one percentage among the tokens, in the one table that has it. -/
theorem resolve?_stable_full :
    imageSize ∈ all ∧ imageSize.resolve? "full" = some (.percent 100) ∧
      imageSize.resolve? (Length.percent 100).text =
        some (.literal (Length.percent 100).text) := by
  have hmem : imageSize ∈ all := by simp [all]
  have hfull : imageSize.resolve? "full" = some (.percent 100) := by decide +kernel
  exact ⟨hmem, hfull, ((resolve?_stable imageSize hmem "full").2.2.2.2.2 _ hfull).1⟩

example : imageSize.resolve? "100%" = some (.literal "100%") ∧
    cornerRadius.resolve? "100%" = none := by
  decide +kernel

end TokenTable

end FlexLayout
