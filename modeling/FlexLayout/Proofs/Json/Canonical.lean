import FlexLayout.Json.Reading
import FlexLayout.Path
import FlexLayout.Proofs.Json.Record
import Mathlib.Data.List.Nodup
import Mathlib.Data.String.Basic

/-!
# Canonical values

The fields of a canonical object stand in strictly increasing order of their names, at every depth.
A text is read as a canonical value, so no object in it holds two fields of one name
(`sorted_names_of_read?`).
-/

namespace FlexLayout.Json

/-- Fields in strictly increasing order of their names. -/
def SortedFields (fs : List (String × Json)) : Prop := (fs.map Prod.fst).Pairwise (· < ·)

theorem SortedFields.once {fs : List (String × Json)} (h : SortedFields fs) (name : String) :
    Parts.Once fs name :=
  List.nodup_iff_count_le_one.mp (h.imp ne_of_lt) name

theorem mem_insertField {f : String × Json} {name : String} {v : Json}
    {fs : List (String × Json)} (h : f ∈ insertField name v fs) : f = (name, v) ∨ f ∈ fs := by
  induction fs with
  | nil => exact .inl (List.mem_singleton.mp h)
  | cons g rest ih =>
    obtain ⟨k, w⟩ := g
    rw [insertField] at h
    split at h
    · rcases List.mem_cons.mp h with h | h
      · exact .inl h
      · exact .inr (List.mem_cons_of_mem _ h)
    · split at h
      · exact List.mem_cons.mp h
      · rcases List.mem_cons.mp h with h | h
        · exact .inr (h ▸ List.mem_cons_self)
        · exact (ih h).imp_right (List.mem_cons_of_mem _)

theorem sortedFields_cons {name : String} {v : Json} {fs : List (String × Json)} :
    SortedFields ((name, v) :: fs) ↔ (∀ f ∈ fs, name < f.1) ∧ SortedFields fs := by
  unfold SortedFields
  rw [List.map_cons, List.pairwise_cons, List.forall_mem_map]

theorem sortedFields_insertField {fs : List (String × Json)} (h : SortedFields fs) (name : String)
    (v : Json) : SortedFields (insertField name v fs) := by
  induction fs with
  | nil => exact List.pairwise_singleton _ _
  | cons g rest ih =>
    obtain ⟨k, w⟩ := g
    obtain ⟨hk, hrest⟩ := sortedFields_cons.mp h
    rw [insertField]
    split
    · rename_i heq
      subst heq
      exact sortedFields_cons.mpr ⟨hk, hrest⟩
    · rename_i hne
      split
      · rename_i hlt
        refine sortedFields_cons.mpr ⟨fun f hf => ?_, h⟩
        rcases List.mem_cons.mp hf with rfl | hf
        · exact hlt
        · exact lt_trans hlt (hk f hf)
      · rename_i hnlt
        refine sortedFields_cons.mpr ⟨fun f hf => ?_, ih hrest⟩
        rcases mem_insertField hf with rfl | hf
        · exact lt_of_le_of_ne (not_lt.mp hnlt) (Ne.symm hne)
        · exact hk f hf

theorem sortedFields_canonicalFields (fs : List (String × Json)) {sorted : List (String × Json)}
    (h : SortedFields sorted) : SortedFields (canonicalFields fs sorted) := by
  induction fs generalizing sorted with
  | nil => exact h
  | cons f rest ih => exact ih (sortedFields_insertField h _ _)

theorem mem_canonicalFields {f : String × Json} (fs : List (String × Json))
    {sorted : List (String × Json)} (h : f ∈ canonicalFields fs sorted) :
    f ∈ sorted ∨ ∃ u : Json, f.2 = u.canonical := by
  induction fs generalizing sorted with
  | nil => exact .inl h
  | cons g rest ih =>
    rcases ih h with h | h
    · rcases mem_insertField h with rfl | h
      · exact .inr ⟨g.2, rfl⟩
      · exact .inl h
    · exact .inr h

theorem sortedFields_canonical (v : Json) : SortedFields v.canonical.fields := by
  cases v with
  | object fs => exact sortedFields_canonicalFields fs .nil
  | _ => exact .nil

/-! ## Values inside a canonical value -/

theorem field?_canonical {v w : Json} {name : String} (h : v.canonical.field? name = some w) :
    ∃ u : Json, w = u.canonical := by
  cases v with
  | object fs =>
    rcases mem_canonicalFields fs (mem_of_lookup h) with h | h
    · cases h
    · exact h
  | _ => cases h

theorem canonicalItems_eq_map (items : List Json) : canonicalItems items = items.map canonical := by
  induction items with
  | nil => rfl
  | cons v rest ih => rw [canonicalItems, ih, List.map_cons]

theorem item?_canonical {v w : Json} {i : Nat} (h : v.canonical.item? i = some w) :
    ∃ u : Json, w = u.canonical := by
  cases v with
  | array items =>
    have hitem : (canonicalItems items)[i]? = some w := h
    rw [canonicalItems_eq_map, List.getElem?_map, Option.map_eq_some_iff] at hitem
    obtain ⟨u, -, rfl⟩ := hitem
    exact ⟨u, rfl⟩
  | _ => cases h

theorem step?_canonical {v w : Json} {s : Segment} (h : v.canonical.step? s = some w) :
    ∃ u : Json, w = u.canonical := by
  obtain ⟨name, index⟩ := s
  cases index with
  | none => exact field?_canonical h
  | some i =>
    obtain ⟨x, hx, hw⟩ := Option.bind_eq_some_iff.mp h
    obtain ⟨u, rfl⟩ := field?_canonical hx
    exact item?_canonical hw

/-- What stands inside a canonical value is canonical. -/
theorem at?_canonical {v w : Json} {p : Path} (h : v.canonical.at? p = some w) :
    ∃ u : Json, w = u.canonical := by
  induction p generalizing v with
  | nil => exact ⟨v, (Option.some_inj.mp h).symm⟩
  | cons s rest ih =>
    obtain ⟨x, hx, hw⟩ := Option.bind_eq_some_iff.mp h
    obtain ⟨u, rfl⟩ := step?_canonical hx
    exact ih hw

/-- In a value that was read, the fields of every object are sorted, each name once. -/
theorem sortedFields_of_read? {s : String} {v w : Json} {p : Path} (h : read? s = some v)
    (hw : v.at? p = some w) : SortedFields w.fields := by
  obtain ⟨u, -, rfl⟩ := Option.map_eq_some_iff.mp h
  obtain ⟨x, rfl⟩ := at?_canonical hw
  exact sortedFields_canonical x

end FlexLayout.Json
