import FlexLayout.Decimal.Reading
import FlexLayout.Path
import Mathlib.Data.List.TakeWhile

/-!
# Texts of paths

The text of a path can be read again. Dots part its segments, and a segment that ends in brackets
names an item by its index. A path whose names hold neither a dot nor a bracket comes back from
its text (`ofText?_of_clear`), so two such paths with the same text are the same.
-/

namespace FlexLayout

/-! ## Longer paths -/

namespace Path

/-- What a path adds to the text of the path that it goes on from. -/
def suffix : Path → String
  | [] => ""
  | s :: rest => "." ++ s.text ++ suffix rest

theorem suffix_append (p q : Path) : suffix (p ++ q) = p.suffix ++ q.suffix := by
  induction p with
  | nil => simp [suffix]
  | cons s rest ih =>
    rw [List.cons_append, suffix, suffix, ih]
    simp only [String.append_assoc]

theorem text_cons (s : Segment) (rest : Path) : text (s :: rest) = s.text ++ suffix rest := by
  unfold text
  induction rest generalizing s with
  | nil => simp [suffix]
  | cons t rest ih =>
    rw [List.map_cons, List.map_cons, String.intercalate_cons_cons, ← List.map_cons, ih t, suffix]
    simp only [String.append_assoc]

/-- The text of a path that goes on is the text of its start with more behind it. -/
theorem text_append {p : Path} (hp : p ≠ []) (q : Path) : (p ++ q).text = p.text ++ q.suffix := by
  obtain ⟨s, rest, rfl⟩ := List.exists_cons_of_ne_nil hp
  rw [List.cons_append, text_cons, text_cons, suffix_append, String.append_assoc]

/-- A path goes on from another by one step only. -/
theorem step_unique {p q : Path} {s t : Segment} (hs : p ++ [s] <+: q) (ht : p ++ [t] <+: q) :
    s = t := by
  have hlen : (p ++ [s]).length = (p ++ [t]).length := by simp
  have happ := (List.prefix_of_prefix_length_le hs ht hlen.le).eq_of_length hlen
  simpa using happ

end Path

/-! ## Reading -/

namespace Segment

/-- Reads a segment: a name, or a name with an index in brackets behind it. -/
def ofChars? (cs : List Char) : Option Segment :=
  match cs.dropWhile (· ≠ '[') with
  | [] => some ⟨String.ofList cs, none⟩
  | _ :: rest =>
    let digits := rest.takeWhile Char.isDigit
    if digits ≠ [] ∧ rest.dropWhile Char.isDigit = [']'] then
      some ⟨String.ofList (cs.takeWhile (· ≠ '[')), some (Decimal.ofDigits digits)⟩
    else none

/-- A segment whose name keeps clear of the marks that part a path. -/
def Clear (s : Segment) : Prop := '.' ∉ s.name.toList ∧ '[' ∉ s.name.toList

instance : DecidablePred Clear := fun s => by unfold Clear; infer_instance

theorem toList_text_item (name : String) (i : Nat) :
    (Segment.mk name (some i)).text.toList =
      name.toList ++ '[' :: (Nat.toDigits 10 i ++ [']']) := by
  simp [text]

/-- A segment is read from its text. -/
theorem ofChars?_text {s : Segment} (h : s.Clear) : ofChars? s.text.toList = some s := by
  obtain ⟨name, index⟩ := s
  have hname : ∀ c ∈ name.toList, decide (c ≠ '[') = true := by
    intro c hc
    rw [decide_eq_true_eq]
    rintro rfl
    exact h.2 hc
  unfold ofChars?
  cases index with
  | none =>
    show (match name.toList.dropWhile _ with | [] => _ | _ :: _ => _) = _
    rw [List.dropWhile_eq_nil_iff.mpr hname]
    show some (Segment.mk (String.ofList name.toList) none) = _
    rw [String.ofList_toList]
  | some i =>
    have hdigits : ∀ c ∈ Nat.toDigits 10 i, c.isDigit = true := fun c hc =>
      Nat.isDigit_of_mem_toDigits (by decide) (by decide) hc
    have hvalue : Decimal.ofDigits (Nat.toDigits 10 i) = i := Nat.ofDigitChars_ten_toDigits
    have hfirst : (Nat.toDigits 10 i ++ [']']).takeWhile Char.isDigit = Nat.toDigits 10 i := by
      rw [List.takeWhile_append_of_pos hdigits]
      simp
    have hlast : (Nat.toDigits 10 i ++ [']']).dropWhile Char.isDigit = [']'] := by
      rw [List.dropWhile_append_of_pos hdigits]
      rfl
    rw [toList_text_item, List.dropWhile_append_of_pos hname, List.takeWhile_append_of_pos hname]
    simp [hfirst, hlast, hvalue, Nat.toDigits_ne_nil]

/-- No segment holds a dot. -/
theorem dot_not_mem_text {s : Segment} (h : s.Clear) : '.' ∉ s.text.toList := by
  obtain ⟨name, index⟩ := s
  cases index with
  | none => exact h.1
  | some i =>
    rw [toList_text_item, List.mem_append, List.mem_cons, List.mem_append, List.mem_singleton]
    rintro (hmem | hmem | hmem | hmem)
    · exact h.1 hmem
    · exact absurd hmem (by decide)
    · have hdigit := Nat.isDigit_of_mem_toDigits (by decide) (by decide) hmem
      exact absurd hdigit (by decide)
    · exact absurd hmem (by decide)

end Segment

namespace Path

/-- Reads the text of a path. -/
def ofText? (s : String) : Option Path := (s.toList.splitOn '.').mapM Segment.ofChars?

/-- A path is read from its text. -/
theorem ofText?_of_clear {p : Path} (hp : p ≠ []) (h : ∀ s ∈ p, s.Clear) :
    ofText? p.text = some p := by
  have hsplit : p.text.toList.splitOn '.' = p.map fun s => s.text.toList := by
    unfold text
    rw [String.toList_intercalate, List.map_map]
    refine List.splitOn_intercalate '.' ?_ (by simpa using hp)
    intro cs hcs
    obtain ⟨s, hs, rfl⟩ := List.mem_map.mp hcs
    exact Segment.dot_not_mem_text (h s hs)
  have hread : ∀ q : Path, (∀ s ∈ q, s.Clear) →
      (q.map fun s => s.text.toList).mapM Segment.ofChars? = some q := by
    intro q hq
    induction q with
    | nil => rfl
    | cons s rest ih =>
      rw [List.map_cons, List.mapM_cons, Segment.ofChars?_text (hq s List.mem_cons_self),
        ih fun t ht => hq t (List.mem_cons_of_mem s ht)]
      rfl
  rw [ofText?, hsplit, hread p h]

/-- Different paths have different texts. -/
theorem eq_of_text_eq {p q : Path} (hp : p ≠ []) (hpc : ∀ s ∈ p, s.Clear) (hq : q ≠ [])
    (hqc : ∀ s ∈ q, s.Clear) (h : p.text = q.text) : p = q := by
  have hread := ofText?_of_clear hp hpc
  rw [h, ofText?_of_clear hq hqc, Option.some_inj] at hread
  exact hread.symm

end Path

end FlexLayout
