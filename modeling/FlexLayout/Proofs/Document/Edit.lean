import FlexLayout.Path
import FlexLayout.Proofs.Json.Record

/-!
# Edits

A value with one place in it changed, and a value without one of its fields. What a path leads to
is what was there with the change applied (`Json.at?_change`), and a change on a longer path is a
change of what the shorter one leads to (`Json.change_append`).
-/

namespace FlexLayout.Json

/-- The names of the fields of a value, in written order. -/
def names (v : Json) : List String := v.fields.map Prod.fst

/-! ## Changes -/

/-- Applies `f` to the first field of a name. -/
def changeFirst (name : String) (f : Json → Json) : List (String × Json) → List (String × Json)
  | [] => []
  | (k, v) :: rest => if k = name then (k, f v) :: rest else (k, v) :: changeFirst name f rest

/-- Applies `g` to the fields of an object. What is no object stays as it is. -/
def mapFields (g : List (String × Json) → List (String × Json)) : Json → Json
  | object fs => object (g fs)
  | v => v

def changeField (name : String) (f : Json → Json) : Json → Json := mapFields (changeFirst name f)

def changeItem (i : Nat) (f : Json → Json) : Json → Json
  | array items => array (items.modify i f)
  | v => v

/-- Applies `f` to a value or, given an index, to the item there. -/
def changeIndex : Option Nat → (Json → Json) → Json → Json
  | none, f => f
  | some i, f => changeItem i f

/-- Applies `f` one step down. -/
def changeStep (s : Segment) (f : Json → Json) (v : Json) : Json :=
  v.changeField s.name (changeIndex s.index f)

/-- Applies `f` to the value that a path leads to. Where it leads nowhere, nothing changes. -/
def change (f : Json → Json) : Path → Json → Json
  | [], v => f v
  | s :: rest, v => v.changeStep s (change f rest)

/-- The value without the fields of a name. -/
def withoutField (name : String) : Json → Json := mapFields (List.filter fun f => f.1 != name)

theorem change_append (f : Json → Json) (p q : Path) (v : Json) :
    v.change f (p ++ q) = v.change (change f q) p := by
  induction p generalizing v with
  | nil => rfl
  | cons s rest ih =>
    rw [List.cons_append, change, change]
    exact congrArg (v.changeStep s) (funext ih)

/-! ## Fields -/

theorem lookup_changeFirst (name k : String) (f : Json → Json) (fs : List (String × Json)) :
    (changeFirst name f fs).lookup k =
      if k = name then (fs.lookup k).map f else fs.lookup k := by
  induction fs with
  | nil => simp [changeFirst]
  | cons g rest ih =>
    obtain ⟨l, v⟩ := g
    rw [changeFirst]
    by_cases hl : l = name
    · subst hl
      rw [if_pos rfl, lookup_cons_eq, lookup_cons_eq]
      split <;> rfl
    · rw [if_neg hl, lookup_cons_eq, lookup_cons_eq, ih]
      by_cases hk : k = l
      · subst hk
        rw [if_pos rfl, if_neg hl, if_pos rfl]
      · rw [if_neg hk, if_neg hk]

theorem lookup_withoutField (name k : String) (fs : List (String × Json)) :
    (fs.filter fun f => f.1 != name).lookup k = if k = name then none else fs.lookup k := by
  induction fs with
  | nil => simp
  | cons g rest ih =>
    obtain ⟨l, v⟩ := g
    by_cases hl : l = name
    · subst hl
      rw [List.filter_cons_of_neg (by simp), ih, lookup_cons_eq]
      split <;> rfl
    · rw [List.filter_cons_of_pos (by simpa using hl), lookup_cons_eq, lookup_cons_eq, ih]
      by_cases hk : k = l
      · subst hk
        rw [if_pos rfl, if_neg hl, if_pos rfl]
      · rw [if_neg hk, if_neg hk]

theorem field?_changeField (v : Json) (name k : String) (f : Json → Json) :
    (v.changeField name f).field? k = if k = name then (v.field? k).map f else v.field? k := by
  cases v with
  | object fs => exact lookup_changeFirst name k f fs
  | _ => simp [changeField, mapFields, field?, fields]

theorem field?_changeField_of_ne {name k : String} (h : k ≠ name) (v : Json) (f : Json → Json) :
    (v.changeField name f).field? k = v.field? k := by
  rw [field?_changeField, if_neg h]

theorem field?_withoutField (v : Json) (name k : String) :
    (v.withoutField name).field? k = if k = name then none else v.field? k := by
  cases v with
  | object fs => exact lookup_withoutField name k fs
  | _ => simp [withoutField, mapFields, field?, fields]

theorem field?_withoutField_of_ne {name k : String} (h : k ≠ name) (v : Json) :
    (v.withoutField name).field? k = v.field? k := by
  rw [field?_withoutField, if_neg h]

@[simp] theorem names_changeField (v : Json) (name : String) (f : Json → Json) :
    (v.changeField name f).names = v.names := by
  cases v with
  | object fs =>
    show (changeFirst name f fs).map Prod.fst = fs.map Prod.fst
    induction fs with
    | nil => rfl
    | cons g rest ih =>
      rw [changeFirst]
      split
      · rfl
      · exact congrArg (g.1 :: ·) ih
  | _ => rfl

theorem names_withoutField (v : Json) (name : String) :
    (v.withoutField name).names = v.names.filter (· != name) := by
  cases v with
  | object fs =>
    show (fs.filter fun f => f.1 != name).map Prod.fst = (fs.map Prod.fst).filter (· != name)
    rw [List.filter_map]
    rfl
  | _ => rfl

/-! ## What a path leads to -/

theorem item?_changeItem (v : Json) (i : Nat) (f : Json → Json) :
    (v.changeItem i f).item? i = (v.item? i).map f := by
  cases v with
  | array items => simp [changeItem, item?, items?]
  | _ => rfl

theorem step?_changeStep (v : Json) (s : Segment) (f : Json → Json) :
    (v.changeStep s f).step? s = (v.step? s).map f := by
  obtain ⟨name, index⟩ := s
  have hfield := field?_changeField v name name (changeIndex index f)
  rw [if_pos rfl] at hfield
  cases index with
  | none => exact hfield
  | some i =>
    show ((v.changeField name (changeIndex (some i) f)).field? name).bind (·.item? i) =
      ((v.field? name).bind (·.item? i)).map f
    rw [hfield]
    cases v.field? name with
    | none => rfl
    | some w => exact item?_changeItem w i f

/-- A path leads to what was there, with the change applied. -/
theorem at?_change (v : Json) (p : Path) (f : Json → Json) :
    (v.change f p).at? p = (v.at? p).map f := by
  induction p generalizing v with
  | nil => rfl
  | cons s rest ih =>
    rw [change, at?, at?, step?_changeStep]
    cases v.step? s with
    | none => rfl
    | some w => exact ih w

/-! ## Changes that agree -/

/-- A change depends only on what becomes of the first field of the name. -/
theorem changeFirst_congr {name : String} {f g : Json → Json} {fs : List (String × Json)} {w : Json}
    (hw : fs.lookup name = some w) (h : f w = g w) :
    changeFirst name f fs = changeFirst name g fs := by
  induction fs with
  | nil => cases hw
  | cons e rest ih =>
    obtain ⟨k, v⟩ := e
    rw [lookup_cons_eq] at hw
    rw [changeFirst, changeFirst]
    by_cases hk : k = name
    · rw [if_pos hk.symm] at hw
      cases hw
      rw [if_pos hk, if_pos hk, h]
    · rw [if_neg (Ne.symm hk)] at hw
      rw [if_neg hk, if_neg hk, ih hw]

theorem changeField_congr {v w : Json} {name : String} {f g : Json → Json}
    (hw : v.field? name = some w) (h : f w = g w) : v.changeField name f = v.changeField name g := by
  cases v with
  | object fs => exact congrArg object (changeFirst_congr hw h)
  | _ => rfl

theorem changeItem_congr {v w : Json} {i : Nat} {f g : Json → Json} (hw : v.item? i = some w)
    (h : f w = g w) : v.changeItem i f = v.changeItem i g := by
  cases v with
  | array items =>
    have hitem : items[i]? = some w := hw
    refine congrArg array (List.ext_getElem? fun j => ?_)
    by_cases hj : i = j
    · subst hj
      rw [List.getElem?_modify_eq, List.getElem?_modify_eq, hitem]
      exact congrArg some h
    · rw [List.getElem?_modify_ne _ _ hj, List.getElem?_modify_ne _ _ hj]
  | _ => rfl

/-- A change on a path depends only on what becomes of the value that the path leads to. -/
theorem change_congr {v w : Json} {p : Path} {f g : Json → Json} (hw : v.at? p = some w)
    (h : f w = g w) : v.change f p = v.change g p := by
  induction p generalizing v with
  | nil =>
    cases hw
    exact h
  | cons s rest ih =>
    obtain ⟨name, index⟩ := s
    obtain ⟨x, hx, hrest⟩ := Option.bind_eq_some_iff.mp hw
    cases index with
    | none => exact changeField_congr hx (ih hrest)
    | some i =>
      obtain ⟨y, hy, hi⟩ := Option.bind_eq_some_iff.mp hx
      exact changeField_congr hy (changeItem_congr hi (ih hrest))

theorem changeField_id (name : String) (v : Json) : v.changeField name id = v := by
  cases v with
  | object fs =>
    refine congrArg object ?_
    induction fs with
    | nil => rfl
    | cons e rest ih =>
      rw [changeFirst, ih]
      split <;> rfl
  | _ => rfl

theorem changeItem_id (i : Nat) (v : Json) : v.changeItem i id = v := by
  cases v with
  | array items => exact congrArg array (List.modify_id i items)
  | _ => rfl

theorem change_id (v : Json) (p : Path) : v.change id p = v := by
  induction p generalizing v with
  | nil => rfl
  | cons s rest ih =>
    obtain ⟨name, index⟩ := s
    have hrest : change id rest = id := funext ih
    rw [change, hrest, changeStep]
    cases index with
    | none => exact changeField_id name v
    | some i =>
      have hitem : changeItem i id = fun v => v := funext (changeItem_id i)
      show changeField name (fun v => changeItem i id v) v = v
      rw [hitem]
      exact changeField_id name v

end FlexLayout.Json
