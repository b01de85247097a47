import FlexLayout.Proofs.Document.Edit
import FlexLayout.Proofs.Document.Position
import FlexLayout.Proofs.Json.Codec

/-!
# Actions as they are written

Reading an action keeps the fields that its kind knows and that are not `null`, and nothing else.
`Action.perm_toJson` says so of the value that the action is written as again: it holds exactly
those fields of the object that it was read from, each with its value.
-/

namespace FlexLayout

open Parts (Once)

/-! ## Fields that hold something -/

namespace Json

def isNull : Json → Bool
  | null => true
  | _ => false

/-- The fields of the given names that are not `null`. -/
def held (names : List String) (fs : List (String × Json)) : List (String × Json) :=
  fs.filter fun f => f.1 ∈ names && !f.2.isNull

theorem held_nil (fs : List (String × Json)) : held [] fs = [] := by
  unfold held
  simp

/-- A field that is written once at most is held if it is there and not `null`. -/
theorem held_singleton {fs : List (String × Json)} {name : String} (h : Once fs name) :
    held [name] fs = ((object fs).slot? name).toList.map (name, ·) := by
  have hfilter : held [name] fs =
      (fs.filter fun f => f.1 == name).filter fun f => !f.2.isNull := by
    unfold held
    rw [List.filter_filter]
    apply List.filter_congr
    intro f _
    by_cases hf : f.1 = name
    · simp [hf]
    · simp [hf]
  have hslot : (object fs).slot? name =
      ((fs.filter fun f => f.1 == name).head?.map Prod.snd).filter fun v => !v.isNull := by
    unfold slot? field? fields
    rw [← Parts.lookup_eq_head]
    rcases fs.lookup name with _ | v
    · rfl
    · cases v <;> rfl
  have hlength := Parts.once_iff.mp h
  have hname : ∀ f ∈ fs.filter fun f => f.1 == name, f.1 = name := by
    intro f hf
    exact beq_iff_eq.mp (List.mem_filter.mp hf).2
  rw [hfilter, hslot]
  generalize fs.filter (fun f => f.1 == name) = gs at hlength hname
  rcases gs with _ | ⟨⟨k, v⟩, _ | ⟨g, rest⟩⟩
  · rfl
  · obtain rfl : k = name := hname _ List.mem_cons_self
    cases v <;> rfl
  · simp at hlength

/-- A choice by name among the fields that are held. -/
theorem filter_held {names kept : List String} {p : String × Json → Bool}
    (h : ∀ f : String × Json, (f.1 ∈ names ∧ p f = true) ↔ f.1 ∈ kept) (fs : List (String × Json)) :
    (held names fs).filter p = held kept fs := by
  unfold held
  rw [List.filter_filter]
  apply List.filter_congr
  intro f _
  rw [Bool.eq_iff_iff]
  simp only [Bool.and_eq_true, decide_eq_true_eq, ← h f]
  tauto

/-- The fields of two lists of names together. -/
theorem held_cons {fs : List (String × Json)} {name : String} {names : List String}
    (h : name ∉ names) : (held (name :: names) fs).Perm (held [name] fs ++ held names fs) := by
  have hfirst : (held (name :: names) fs).filter (fun f => f.1 == name) = held [name] fs := by
    apply filter_held
    intro f
    by_cases hf : f.1 = name
    · simp [hf]
    · simp [hf]
  have hrest : (held (name :: names) fs).filter (fun f => !(f.1 == name)) = held names fs := by
    apply filter_held
    intro f
    by_cases hf : f.1 = name
    · simp [hf, h]
    · simp [hf]
  rw [← hfirst, ← hrest]
  exact (List.filter_append_perm _ _).symm

/-- The fields of different names, name by name. -/
theorem perm_held {fs : List (String × Json)} {names : List String} (h : names.Nodup) :
    (held names fs).Perm (names.flatMap fun name => held [name] fs) := by
  induction names with
  | nil =>
    rw [held_nil]
    exact .nil
  | cons name names ih =>
    obtain ⟨hname, hnames⟩ := List.nodup_cons.mp h
    rw [List.flatMap_cons]
    exact (held_cons hname).trans ((ih hnames).append_left _)

/-- Fields of other names do not matter. -/
theorem held_withoutField {fs : List (String × Json)} {names : List String} {name : String}
    (h : name ∉ names) : held names (fs.filter fun f => f.1 != name) = held names fs := by
  rw [held, List.filter_comm]
  apply filter_held
  intro f
  by_cases hf : f.1 = name
  · simp [hf, h]
  · simp [hf]

end Json

open Json (held)

/-! ## Fields of a record -/

section Record

variable {β : Type} {names : List String} {name : String} {fs : List (String × Json)}
  {read : Json → Option β}

/-- The slots of an object for the fields that are asked for. -/
abbrev Record.ofObject (names : List String) (fs : List (String × Json)) : Record Json :=
  names.map fun k => (k, (fs.lookup k).elim Slot.omitted Slot.given)

/-- The record of an object, whose fields are written once at most. -/
theorem Parts.record?_object {r : Record Json} (h : (Parts.fields fs).record? names = some r) :
    r = .ofObject names fs ∧ ∀ name ∈ names, Once fs name := by
  rw [record?_fields] at h
  split_ifs at h with honce
  cases h
  exact ⟨rfl, honce⟩

/-- A field that may be left out is read unless it is missing or `null`. -/
theorem Record.defaulted_object (h : name ∈ names) :
    (Record.ofObject names fs).defaulted name read =
      match (Json.object fs).slot? name with
      | none => some none
      | some v => (read v).map some := by
  unfold defaulted optional
  rw [slot_fields h]
  unfold Json.slot? Json.field? Json.fields
  rcases fs.lookup name with _ | v
  · rfl
  · cases v <;> rfl

/-- A string that may be left out is held as it is read. -/
theorem held_defaulted_text (h : name ∈ names) (honce : Once fs name) {s : Option String}
    (hs : (Record.ofObject names fs).defaulted name Json.text? = some s) :
    held [name] fs = Action.optionalField name .string s := by
  rw [Record.defaulted_object h] at hs
  rw [Json.held_singleton honce]
  rcases hslot : (Json.object fs).slot? name with _ | v
  · rw [hslot] at hs
    cases hs
    rfl
  · rw [hslot] at hs
    obtain ⟨x, hx, rfl⟩ := Option.map_eq_some_iff.mp hs
    cases v with
    | string t =>
      cases hx
      rfl
    | _ => cases hx

/-- A string that has to be there is held as it is read. -/
theorem held_required_text (h : name ∈ names) (honce : Once fs name) {s : String}
    (hs : (Record.ofObject names fs).required name Json.text? = some s) :
    held [name] fs = [(name, .string s)] := by
  rw [Record.required_fields h] at hs
  obtain ⟨v, hv, hread⟩ := Option.bind_eq_some_iff.mp hs
  rw [Json.held_singleton honce]
  unfold Json.slot? Json.field? Json.fields
  rw [hv]
  cases v with
  | string t =>
    cases hread
    rfl
  | _ => cases hread

end Record

/-! ## Other addresses -/

/-- The other addresses of an object are written as the field that it holds. -/
theorem AltUri.toJson_of_object {gs : List (String × Json)} {a : AltUri}
    (h : ofJson? (.object gs) = some a) : a.toJson = .object (held ["desktop"] gs) := by
  obtain ⟨r, hr, h⟩ := Option.bind_eq_some_iff.mp h
  obtain ⟨rfl, honce⟩ := Parts.record?_object hr
  obtain ⟨desktop, hdesktop, h⟩ := Option.bind_eq_some_iff.mp h
  cases h
  have hname : "desktop" ∈ ["desktop"] := List.mem_singleton_self _
  rw [held_defaulted_text hname (honce _ hname) hdesktop]
  rfl

namespace Action

/-- The fields that an action of the same kind may have. -/
def keys : Action → List String
  | uri .. => ["type", "label", "uri", "altUri"]
  | message .. => ["type", "label", "text"]
  | postback .. => ["type", "label", "data", "displayText"]

/-- The field without what the reader does not know inside it. -/
def trim (f : String × Json) : String × Json :=
  if f.1 = "altUri" then (f.1, .object (held ["desktop"] f.2.fields)) else f

/-- What is left of the fields of an object when it is read as the action: the fields that its
kind knows and that are not `null`, and the same inside its other addresses. -/
def kept (a : Action) (fs : List (String × Json)) : List (String × Json) :=
  (held a.keys fs).map trim

/-- The other addresses are left out, `null`, or written as an object. -/
def AltUriIsObject (fs : List (String × Json)) : Prop :=
  ∀ u, (Json.object fs).slot? "altUri" = some u → u.isObject = true

theorem nodup_keys (a : Action) : a.keys.Nodup := by
  cases a <;> simp [keys]

/-- The fields that are kept, name by name. -/
theorem perm_kept (a : Action) (fs : List (String × Json)) :
    (a.kept fs).Perm (a.keys.flatMap fun name => (held [name] fs).map trim) := by
  unfold kept
  rw [← List.map_flatMap]
  exact (Json.perm_held a.nodup_keys).map trim

theorem map_trim_optionalField {name : String} (h : name ≠ "altUri") (s : Option String) :
    (optionalField name Json.string s).map trim = optionalField name .string s := by
  rcases s with _ | s
  · rfl
  · simp [optionalField, trim, h]

/-- The name of a case stands under `type`, and the rest is read without it. -/
theorem tagged?_object {fs : List (String × Json)} {s : String} {rest : Parts Json}
    (h : (Parts.fields fs).tagged? = some (.string s, rest)) :
    held ["type"] fs = [("type", .string s)] ∧
      rest = .fields (fs.filter fun f => f.1 != "type") := by
  rw [Parts.tagged?] at h
  split at h
  · rename_i hfilter
    cases h
    have honce : Once fs "type" := by
      rw [Parts.once_iff, hfilter]
      exact le_rfl
    refine ⟨?_, rfl⟩
    rw [Json.held_singleton honce]
    unfold Json.slot? Json.field? Json.fields
    rw [Parts.lookup_eq_head, hfilter]
    rfl
  · cases h

/-- The case of an action in a document is named by a string. -/
theorem case?_document {cases : List String} {tag : Json} {kind : String}
    (h : Dialect.document.case? cases tag = some kind) : tag = .string kind := by
  unfold Dialect.case? at h
  split at h
  · cases h
    rfl
  · cases h
  · cases h

/-- The other addresses of an action are written as they are held. -/
theorem map_trim_altUri {names : List String} {fs : List (String × Json)}
    (h : "altUri" ∈ names) (honce : Once (fs.filter fun f => f.1 != "type") "altUri")
    (halt : AltUriIsObject fs) {altUri : Option AltUri}
    (hread : (Record.ofObject names (fs.filter fun f => f.1 != "type")).defaulted "altUri"
      AltUri.ofJson? = some altUri) :
    (held ["altUri"] fs).map trim = optionalField "altUri" AltUri.toJson altUri := by
  have hslot : (Json.object (fs.filter fun f => f.1 != "type")).slot? "altUri" =
      (Json.object fs).slot? "altUri" := by
    unfold Json.slot? Json.field? Json.fields
    rw [Json.lookup_withoutField, if_neg (by decide)]
  have hheld : held ["altUri"] (fs.filter fun f => f.1 != "type") = held ["altUri"] fs :=
    Json.held_withoutField (by decide)
  rw [Record.defaulted_object h, hslot] at hread
  rw [← hheld, Json.held_singleton honce, hslot]
  rcases hv : (Json.object fs).slot? "altUri" with _ | v
  · rw [hv] at hread
    cases hread
    rfl
  · rw [hv] at hread
    obtain ⟨a, ha, rfl⟩ := Option.map_eq_some_iff.mp hread
    have hobject := halt v hv
    cases v with
    | object gs =>
      show [("altUri", Json.object (held ["desktop"] gs))] = [("altUri", a.toJson)]
      rw [AltUri.toJson_of_object ha]
    | _ => cases hobject

/-- **Fields of an action.** An action that was read from an object is written with exactly the
fields of the object that its kind knows and that are not `null`. -/
theorem perm_kept_fields {fs : List (String × Json)} {a : Action}
    (h : ofJson? .document (.object fs) = some a) (halt : AltUriIsObject fs) :
    (a.kept fs).Perm a.toJson.fields := by
  replace h : (Parts.fields fs).tagged? >>= _ = some a := h
  obtain ⟨⟨tag, rest⟩, htagged, h⟩ := Option.bind_eq_some_iff.mp h
  obtain ⟨kind, hkind, hread⟩ := Option.bind_eq_some_iff.mp h
  obtain rfl := case?_document hkind
  obtain ⟨htype, rfl⟩ := tagged?_object htagged
  have hheld (name : String) (hne : name ≠ "type") :
      held [name] (fs.filter fun f => f.1 != "type") = held [name] fs :=
    Json.held_withoutField (by simpa using hne.symm)
  -- name by name nothing moves: only the order of the object's own fields is given up
  apply (a.perm_kept fs).trans
  apply List.Perm.of_eq
  split at hread
  · obtain ⟨r, hr, hread⟩ := Option.bind_eq_some_iff.mp hread
    obtain ⟨rfl, honce⟩ := Parts.record?_object hr
    obtain ⟨label, hlabel, hread⟩ := Option.bind_eq_some_iff.mp hread
    obtain ⟨address, haddress, hread⟩ := Option.bind_eq_some_iff.mp hread
    obtain ⟨altUri, haltUri, hread⟩ := Option.bind_eq_some_iff.mp hread
    cases hread
    have hlabel := held_defaulted_text (by decide) (honce _ (by decide)) hlabel
    have haddress := held_required_text (by decide) (honce _ (by decide)) haddress
    have haltUri := map_trim_altUri (by decide) (honce _ (by decide)) halt haltUri
    rw [hheld _ (by decide)] at hlabel haddress
    simp [keys, htype, hlabel, haddress, haltUri, map_trim_optionalField, trim, toJson, kind,
      Json.fields]
  · obtain ⟨r, hr, hread⟩ := Option.bind_eq_some_iff.mp hread
    obtain ⟨rfl, honce⟩ := Parts.record?_object hr
    obtain ⟨label, hlabel, hread⟩ := Option.bind_eq_some_iff.mp hread
    obtain ⟨text, htext, hread⟩ := Option.bind_eq_some_iff.mp hread
    cases hread
    have hlabel := held_defaulted_text (by decide) (honce _ (by decide)) hlabel
    have htext := held_required_text (by decide) (honce _ (by decide)) htext
    rw [hheld _ (by decide)] at hlabel htext
    simp [keys, htype, hlabel, htext, map_trim_optionalField, trim, toJson, kind, Json.fields]
  · obtain ⟨r, hr, hread⟩ := Option.bind_eq_some_iff.mp hread
    obtain ⟨rfl, honce⟩ := Parts.record?_object hr
    obtain ⟨label, hlabel, hread⟩ := Option.bind_eq_some_iff.mp hread
    obtain ⟨data, hdata, hread⟩ := Option.bind_eq_some_iff.mp hread
    obtain ⟨displayText, hdisplayText, hread⟩ := Option.bind_eq_some_iff.mp hread
    cases hread
    have hlabel := held_defaulted_text (by decide) (honce _ (by decide)) hlabel
    have hdata := held_required_text (by decide) (honce _ (by decide)) hdata
    have hdisplayText := held_defaulted_text (by decide) (honce _ (by decide)) hdisplayText
    rw [hheld _ (by decide)] at hlabel hdata hdisplayText
    simp [keys, htype, hlabel, hdata, hdisplayText, map_trim_optionalField, trim, toJson, kind,
      Json.fields]
  · cases hread

end Action

end FlexLayout
