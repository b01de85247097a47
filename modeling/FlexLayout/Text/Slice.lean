/-!
# Offsets in bytes

A text is cut at an offset that counts the bytes of its UTF-8 form. Only an offset between two
characters, or at one of the ends, cuts a text.
-/

namespace FlexLayout.Text

/-- The number of bytes of a text. -/
def size : List Char → Nat
  | [] => 0
  | c :: cs => c.utf8Size + size cs

/-- The two parts of a text at an offset, unless the offset lies inside a character or behind the
end. -/
def cut? : List Char → Nat → Option (List Char × List Char)
  | cs, 0 => some ([], cs)
  | [], _ + 1 => none
  | c :: cs, n + 1 =>
    if c.utf8Size ≤ n + 1 then
      (cut? cs (n + 1 - c.utf8Size)).map fun (front, back) => (c :: front, back)
    else none

/-- The offset of the first character with a property. -/
def offset? (p : Char → Bool) : List Char → Option Nat
  | [] => none
  | c :: cs => if p c then some 0 else (offset? p cs).map (c.utf8Size + ·)

theorem size_eq_zero {cs : List Char} : size cs = 0 ↔ cs = [] := by
  cases cs with
  | nil => exact iff_of_true rfl rfl
  | cons c cs =>
    have hpos := c.utf8Size_pos
    rw [size]
    exact iff_of_false (by omega) (List.cons_ne_nil c cs)

theorem size_append (cs ds : List Char) : size (cs ++ ds) = size cs + size ds := by
  induction cs with
  | nil => exact (Nat.zero_add _).symm
  | cons c cs ih => rw [List.cons_append, size, size, ih, Nat.add_assoc]

/-- A text is cut behind each of its beginnings. -/
theorem cut?_append (cs ds : List Char) : cut? (cs ++ ds) (size cs) = some (cs, ds) := by
  induction cs with
  | nil => cases ds <;> rfl
  | cons c cs ih =>
    obtain ⟨n, hn⟩ : ∃ n, c.utf8Size + size cs = n + 1 :=
      ⟨c.utf8Size + size cs - 1, by have := c.utf8Size_pos; omega⟩
    have hrest : n + 1 - c.utf8Size = size cs := by omega
    rw [size, List.cons_append, hn, cut?, if_pos (by omega), hrest, ih]
    rfl

theorem cut?_eq_some_iff {cs front back : List Char} {n : Nat} :
    cut? cs n = some (front, back) ↔ cs = front ++ back ∧ n = size front := by
  constructor
  · intro h
    induction cs generalizing n front with
    | nil =>
      cases n with
      | zero =>
        cases h
        exact ⟨rfl, rfl⟩
      | succ n => cases h
    | cons c cs ih =>
      cases n with
      | zero =>
        cases h
        exact ⟨rfl, rfl⟩
      | succ n =>
        rw [cut?] at h
        split at h
        · obtain ⟨⟨front', back'⟩, hcut, heq⟩ := Option.map_eq_some_iff.mp h
          cases heq
          obtain ⟨hcs, hsize⟩ := ih hcut
          rw [size, List.cons_append, ← hcs]
          exact ⟨rfl, by omega⟩
        · cases h
  · rintro ⟨rfl, rfl⟩
    exact cut?_append front back

theorem utf8ByteSize_ofList (cs : List Char) : (String.ofList cs).utf8ByteSize = size cs := by
  induction cs with
  | nil => rfl
  | cons c cs ih =>
    rw [← List.singleton_append, String.ofList_append, String.utf8ByteSize_append, ih,
      ← String.singleton_eq_ofList, String.utf8ByteSize_singleton, List.singleton_append, size]

/-- A text is cut exactly at the boundaries of its characters. -/
theorem isSome_cut?_iff {s : String} {n : Nat} :
    (cut? s.toList n).isSome = true ↔ (⟨n⟩ : String.Pos.Raw).IsValid s := by
  rw [String.Pos.Raw.isValid_iff_exists_append, Option.isSome_iff_exists]
  constructor
  · rintro ⟨⟨front, back⟩, h⟩
    obtain ⟨hs, rfl⟩ := cut?_eq_some_iff.mp h
    refine ⟨String.ofList front, String.ofList back, ?_, ?_⟩
    · rw [← String.ofList_append, ← hs, String.ofList_toList]
    · rw [String.rawEndPos, utf8ByteSize_ofList]
  · rintro ⟨s₁, s₂, rfl, h⟩
    have hn : n = size s₁.toList := by
      rw [← utf8ByteSize_ofList, String.ofList_toList]
      exact congrArg String.Pos.Raw.byteIdx h
    exact ⟨(s₁.toList, s₂.toList), cut?_eq_some_iff.mpr ⟨String.toList_append, hn⟩⟩

/-- The characters before the first one with a property end at its offset. -/
theorem offset?_eq (p : Char → Bool) (cs : List Char) :
    (offset? p cs).getD (size cs) = size (cs.takeWhile (!p ·)) := by
  induction cs with
  | nil => rfl
  | cons c cs ih =>
    cases hc : p c with
    | true => simp [offset?, hc, size]
    | false =>
      rw [List.takeWhile_cons_of_pos (by rw [hc]; rfl), size, size, ← ih, offset?, hc]
      cases offset? p cs <;> rfl

end FlexLayout.Text
