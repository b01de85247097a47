import FlexLayout.Json.Record
import Mathlib.Data.List.Count

/-!
# Fields by their names

A lookup finds the first field of a name. A record is stricter: it is refused when one of its
fields is written twice (`Parts.record?_fields`).
-/

namespace FlexLayout

theorem lookup_cons_eq {α : Type} (k l : String) (a : α) (rest : List (String × α)) :
    ((l, a) :: rest).lookup k = if k = l then some a else rest.lookup k := by
  rw [List.lookup_cons]
  by_cases h : k = l
  · simp [h]
  · simp [h, beq_false_of_ne h]

theorem mem_of_lookup {α : Type} {fs : List (String × α)} {name : String} {a : α}
    (h : fs.lookup name = some a) : (name, a) ∈ fs := by
  obtain ⟨before, after, rfl, -⟩ := List.lookup_eq_some_iff.mp h
  exact List.mem_append_right _ List.mem_cons_self

/-- Where no name is written twice, a lookup finds every field. -/
theorem lookup_eq_some_iff_mem {α : Type} {fs : List (String × α)} {name : String} {a : α}
    (h : (fs.map Prod.fst).Nodup) : fs.lookup name = some a ↔ (name, a) ∈ fs := by
  refine ⟨mem_of_lookup, fun hmem => ?_⟩
  induction fs with
  | nil => cases hmem
  | cons f rest ih =>
    obtain ⟨k, b⟩ := f
    rw [List.map_cons, List.nodup_cons] at h
    rcases List.mem_cons.mp hmem with heq | hrest
    · cases heq
      rw [lookup_cons_eq, if_pos rfl]
    · have hne : name ≠ k := by
        rintro rfl
        exact h.1 (List.mem_map.mpr ⟨_, hrest, rfl⟩)
      rw [lookup_cons_eq, if_neg hne]
      exact ih h.2 hrest

namespace Parts

variable {α : Type}

/-- A name is written once at most. -/
def Once (fs : List (String × α)) (name : String) : Prop := (fs.map Prod.fst).count name ≤ 1

instance (fs : List (String × α)) (name : String) : Decidable (Once fs name) :=
  inferInstanceAs (Decidable (_ ≤ 1))

theorem lookup_eq_head (name : String) (fs : List (String × α)) :
    fs.lookup name = (fs.filter fun f => f.1 == name).head?.map Prod.snd := by
  induction fs with
  | nil => rfl
  | cons f rest ih =>
    obtain ⟨k, a⟩ := f
    rw [lookup_cons_eq, ih]
    by_cases h : name = k
    · simp [h]
    · simp [h, Ne.symm h]

theorem once_iff {name : String} {fs : List (String × α)} :
    Once fs name ↔ (fs.filter fun f => f.1 == name).length ≤ 1 := by
  unfold Once
  rw [List.count, List.countP_map, List.countP_eq_length_filter]
  rfl

/-- A slot of a record is the field of its name, unless that is written twice. -/
theorem slot?_eq (name : String) (fs : List (String × α)) :
    slot? name fs =
      if Once fs name then some ((fs.lookup name).elim .omitted .given) else none := by
  rw [if_congr once_iff rfl rfl, lookup_eq_head]
  unfold slot?
  generalize fs.filter (fun f => f.1 == name) = gs
  rcases gs with _ | ⟨f, _ | ⟨g, rest⟩⟩
  · rfl
  · rfl
  · rw [if_neg (by simp)]

/-- The record of an object has every field at its place, unless one is written twice. -/
theorem record?_fields (names : List String) (fs : List (String × α)) :
    record? names (fields fs) = if ∀ name ∈ names, Once fs name then
      some (names.map fun name => (name, (fs.lookup name).elim .omitted .given)) else none := by
  show (names.mapM fun name => (slot? name fs).map (name, ·)) = _
  induction names with
  | nil => rfl
  | cons name rest ih =>
    rw [List.mapM_cons, ih, slot?_eq]
    by_cases hname : Once fs name
    · by_cases hrest : ∀ name ∈ rest, Once fs name
      · rw [if_pos hname, if_pos hrest, if_pos (List.forall_mem_cons.mpr ⟨hname, hrest⟩)]
        rfl
      · rw [if_neg hrest, if_neg fun h => hrest (List.forall_mem_cons.mp h).2, if_pos hname]
        rfl
    · rw [if_neg hname, if_neg fun h => hname (List.forall_mem_cons.mp h).1]
      rfl

end Parts

/-! ## What holds of every part -/

section All

variable {α β : Type} {P : α → Prop}

/-- Every field, or every item, satisfies `P`. -/
def Parts.All (P : α → Prop) : Parts α → Prop
  | .fields fs => ∀ f ∈ fs, P f.2
  | .items xs => ∀ x ∈ xs, P x

/-- Every field that is given satisfies `P`. -/
def Record.All (P : α → Prop) (r : Record α) : Prop := ∀ f ∈ r, ∀ a, f.2 = .given a → P a

theorem Record.All.cons {r : Record α} {name : String} {s : Slot α} (hs : ∀ a, s = .given a → P a)
    (hr : Record.All P r) : Record.All P ((name, s) :: r) := List.forall_mem_cons.mpr ⟨hs, hr⟩

theorem Parts.layOut_all {names : List String} {xs : List α} {r : Record α} (h : ∀ x ∈ xs, P x)
    (hr : layOut names xs = some r) : Record.All P r := by
  induction names generalizing xs r with
  | nil =>
    cases xs with
    | nil =>
      cases hr
      rintro f ⟨⟩
    | cons x rest => cases hr
  | cons name names ih =>
    cases xs with
    | nil =>
      obtain ⟨r', hr', rfl⟩ := Option.map_eq_some_iff.mp hr
      exact .cons (by rintro a ⟨⟩) (ih h hr')
    | cons x rest =>
      rw [List.forall_mem_cons] at h
      obtain ⟨r', hr', rfl⟩ := Option.map_eq_some_iff.mp hr
      refine .cons (fun a ha => ?_) (ih h.2 hr')
      cases ha
      exact h.1

/-- The record of an object holds nothing but the fields that are asked for. -/
theorem Parts.record?_fields_all {names : List String} {fs : List (String × α)} {r : Record α}
    (h : ∀ f ∈ fs, f.1 ∈ names → P f.2) (hr : (fields fs).record? names = some r) :
    Record.All P r := by
  rw [record?_fields] at hr
  split_ifs at hr
  cases hr
  intro f hf a ha
  obtain ⟨name, hname, rfl⟩ := List.mem_map.mp hf
  rcases hlookup : fs.lookup name with _ | b
  · simp [hlookup] at ha
  · simp only [hlookup, Option.elim_some, Slot.given.injEq] at ha
    subst ha
    exact h (name, b) (mem_of_lookup hlookup) hname

theorem Parts.record?_all {names : List String} {p : Parts α} {r : Record α} (h : p.All P)
    (hr : p.record? names = some r) : Record.All P r := by
  cases p with
  | fields fs => exact record?_fields_all (fun f hf _ => h f hf) hr
  | items xs => exact layOut_all h hr

/-- Taking the name of a case away leaves the other parts. -/
theorem Parts.tagged?_all {p rest : Parts α} {tag : α} (h : p.All P)
    (hp : p.tagged? = some (tag, rest)) : rest.All P := by
  cases p with
  | fields fs =>
    rw [tagged?] at hp
    split at hp
    · cases hp
      exact fun f hf => h f (List.mem_filter.mp hf).1
    · cases hp
  | items xs =>
    cases xs with
    | nil => cases hp
    | cons x xs =>
      cases hp
      exact (List.forall_mem_cons.mp h).2

/-- What a slot was given stands in the record. -/
theorem Record.All.slot {r : Record α} (h : Record.All P r) {name : String} {a : α}
    (ha : r.slot name = .given a) : P a := by
  unfold Record.slot at ha
  rcases hlookup : r.lookup name with _ | s
  · rw [hlookup] at ha
    cases ha
  · rw [hlookup] at ha
    exact h (name, s) (mem_of_lookup hlookup) a ha

theorem Record.All.required {r : Record α} (h : Record.All P r) {name : String}
    {read : α → Option β} {b : β} (hb : r.required name read = some b) :
    ∃ a, P a ∧ read a = some b := by
  unfold Record.required at hb
  split at hb
  · rename_i a ha
    exact ⟨a, h.slot ha, hb⟩
  · cases hb

variable [Annotated α]

/-- What is read of an optional field was read of something given. -/
theorem Record.All.optional {r : Record α} (h : Record.All P r) {name : String}
    {read : α → Option β} {b : Option β} (hb : r.optional name read = some b) :
    ∀ c ∈ b, ∃ a, P a ∧ read a = some c := by
  unfold Record.optional at hb
  split at hb
  · rename_i a ha
    split at hb
    · cases hb
      rintro c ⟨⟩
    · obtain ⟨c, hc, rfl⟩ := Option.map_eq_some_iff.mp hb
      rintro _ ⟨⟩
      exact ⟨a, h.slot ha, hc⟩
  · cases hb
    rintro c ⟨⟩
  · cases hb

theorem Record.All.defaulted {r : Record α} (h : Record.All P r) {name : String}
    {read : α → Option β} {b : Option β} (hb : r.defaulted name read = some b) :
    ∀ c ∈ b, ∃ a, P a ∧ read a = some c := by
  unfold Record.defaulted at hb
  split at hb
  · cases hb
    rintro c ⟨⟩
  · exact h.optional hb

end All

/-! ## Records of objects -/

section Fields

variable {β : Type} {names : List String} {name : String}

/-- The slot of a field that is asked for. -/
theorem Record.slot_fields (h : name ∈ names) (fs : List (String × Json)) :
    Record.slot (names.map fun k => (k, (fs.lookup k).elim Slot.omitted Slot.given)) name =
      (fs.lookup name).elim .omitted .given := by
  unfold slot
  induction names with
  | nil => cases h
  | cons k rest ih =>
    rw [List.map_cons, lookup_cons_eq]
    by_cases hk : name = k
    · rw [if_pos hk, hk]
      rfl
    · rw [if_neg hk]
      exact ih ((List.mem_cons.mp h).resolve_left hk)

/-- A field of the record of an object is read as the field of its name. -/
theorem Record.lenient_fields (h : name ∈ names) (fs : List (String × Json))
    (read : Json → Option β) :
    Record.lenient (names.map fun k => (k, (fs.lookup k).elim Slot.omitted Slot.given)) name read =
      (fs.lookup name).bind read := by
  unfold lenient
  rw [slot_fields h]
  cases fs.lookup name <;> rfl

/-- A field that has to be there is the field of its name. -/
theorem Record.required_fields (h : name ∈ names) (fs : List (String × Json))
    (read : Json → Option β) :
    Record.required (names.map fun k => (k, (fs.lookup k).elim Slot.omitted Slot.given)) name read =
      (fs.lookup name).bind read := by
  unfold required
  rw [slot_fields h]
  cases fs.lookup name <;> rfl

end Fields

end FlexLayout
