import FlexLayout.Proofs.Json.Limits
import FlexLayout.Proofs.Json.Record
import FlexLayout.Proofs.Tree.RoundTrip

/-!
# Trees read from values within limits

A part of a tree can be spelled in several ways, and only one of them is written. The others are no
flatter: what is read from a value nested at most `d` deep is written at most `d` deep, and holds no
double that is not finite if the value does not. `Keeps` says so of every reader of a part.
Records are where the levels are counted, so each type comes to the fields of its record.
-/

namespace FlexLayout

/-! ## Finite doubles -/

def AllFinite (xs : List Float) : Prop := ∀ x ∈ xs, x.isFinite = true

@[simp] theorem allFinite_nil : AllFinite [] := by rintro x ⟨⟩

@[simp] theorem allFinite_cons {x : Float} {xs : List Float} :
    AllFinite (x :: xs) ↔ x.isFinite = true ∧ AllFinite xs := List.forall_mem_cons

@[simp] theorem allFinite_append {xs ys : List Float} :
    AllFinite (xs ++ ys) ↔ AllFinite xs ∧ AllFinite ys := List.forall_mem_append

/-! ## Depths of writings -/

namespace Json

@[simp] theorem depth_bool (b : Bool) : (bool b).depth = 0 := rfl

@[simp] theorem depth_string (s : String) : (string s).depth = 0 := rfl

@[simp] theorem depth_ofNat (n : Nat) : (ofNat n).depth = 0 := rfl

@[simp] theorem depth_ofFloat (x : Float) : (ofFloat x).depth = 0 := by
  unfold ofFloat
  split <;> rfl

theorem depth_ofOption_le {α : Type} {f : α → Json} {d : Nat} {a : Option α}
    (h : ∀ b ∈ a, (f b).depth ≤ d) : (ofOption f a).depth ≤ d := by
  rcases a with _ | b
  · exact Nat.zero_le d
  · exact h b rfl

theorem depth_object_le {fs : List (String × Json)} {d : Nat} :
    (object fs).depth ≤ d + 1 ↔ ∀ f ∈ fs, f.2.depth ≤ d := by
  rw [depth, Nat.succ_le_succ_iff, fieldDepth_le]

theorem depth_array_le {items : List Json} {d : Nat} :
    (array items).depth ≤ d + 1 ↔ ∀ v ∈ items, v.depth ≤ d := by
  rw [depth, Nat.succ_le_succ_iff, itemDepth_le]

/-- What has parts has a level of its own, and the parts are below it. -/
theorem Tame.parts {d : Nat} {v : Json} {p : Parts Json} (h : v.Tame d) (hp : v.parts? = some p) :
    ∃ d', d = d' + 1 ∧ p.All (Tame d') := by
  cases v with
  | array items =>
    cases hp
    cases d with
    | zero => cases h.depth_le
    | succ d => exact ⟨d, rfl, tame_array.mp h⟩
  | object fs =>
    cases hp
    cases d with
    | zero => cases h.depth_le
    | succ d => exact ⟨d, rfl, tame_object.mp h⟩
  | _ => cases hp

theorem depth_pos_of_parts? {v : Json} {p : Parts Json} (hp : v.parts? = some p) : 0 < v.depth := by
  cases v with
  | array items => exact Nat.succ_pos _
  | object fs => exact Nat.succ_pos _
  | _ => cases hp

end Json

/-! ## Writings within limits -/

/-- A writing is nested at most `d` deep, and the doubles `xs` are finite. -/
structure Within (d : Nat) (w : Json) (xs : List Float) : Prop where
  depth_le : w.depth ≤ d
  finite : AllFinite xs

/-- What is read from a value within limits is written within them. -/
def Keeps {α : Type} (write : α → Json) (floats : α → List Float) (read : Json → Option α) : Prop :=
  ∀ ⦃d : Nat⦄ ⦃v : Json⦄ ⦃a : α⦄, v.Tame d → read v = some a → Within d (write a) (floats a)

namespace Keeps

variable {α β : Type} {write : α → Json} {floats : α → List Float} {read : Json → Option α}
  {d : Nat} {r : Record Json} {name : String}

/-- An absent value is within all limits. -/
theorem of_forall (h : Keeps write floats read) {a : Option α}
    (ha : ∀ b ∈ a, ∃ v : Json, v.Tame d ∧ read v = some b) :
    Within d (.ofOption write a) (optionFloats floats a) := by
  rcases a with _ | b
  · exact ⟨Nat.zero_le d, allFinite_nil⟩
  · obtain ⟨v, hv, hread⟩ := ha b rfl
    exact h hv hread

/-- A reader of a record goes on after a field that was read within limits. -/
theorem required (h : Keeps write floats read) (hr : r.All (Json.Tame d)) {f : α → Option β} {b : β}
    (hb : (r.required name read).bind f = some b) :
    ∃ a, Within d (write a) (floats a) ∧ f a = some b := by
  obtain ⟨a, ha, hf⟩ := Option.bind_eq_some_iff.mp hb
  obtain ⟨v, hv, hread⟩ := hr.required ha
  exact ⟨a, h hv hread, hf⟩

theorem optional (h : Keeps write floats read) (hr : r.All (Json.Tame d))
    {f : Option α → Option β} {b : β} (hb : (r.optional name read).bind f = some b) :
    ∃ a, Within d (.ofOption write a) (optionFloats floats a) ∧ f a = some b := by
  obtain ⟨a, ha, hf⟩ := Option.bind_eq_some_iff.mp hb
  exact ⟨a, h.of_forall (hr.optional ha), hf⟩

theorem defaulted (h : Keeps write floats read) (hr : r.All (Json.Tame d))
    {f : Option α → Option β} {b : β} (hb : (r.defaulted name read).bind f = some b) :
    ∃ a, Within d (.ofOption write a) (optionFloats floats a) ∧ f a = some b := by
  obtain ⟨a, ha, hf⟩ := Option.bind_eq_some_iff.mp hb
  exact ⟨a, h.of_forall (hr.defaulted ha), hf⟩

end Keeps

theorem keeps_float : Keeps Json.ofFloat (fun x => [x]) Json.float? := by
  intro d v x hv h
  cases v with
  | number n =>
    cases h
    exact ⟨by simp, by simpa using hv.finite n List.mem_cons_self⟩
  | _ => cases h

theorem keeps_text : Keeps .string (fun _ => []) Json.text? := fun d _ _ _ _ =>
  ⟨Nat.zero_le d, allFinite_nil⟩

/-- What is read of a list item by item was read of an item. -/
theorem exists_of_mem_mapM {α β : Type} {f : α → Option β} {as : List α} {bs : List β}
    (h : as.mapM f = some bs) : ∀ b ∈ bs, ∃ a ∈ as, f a = some b := by
  induction as generalizing bs with
  | nil =>
    cases h
    rintro b ⟨⟩
  | cons a as ih =>
    rw [List.mapM_cons] at h
    obtain ⟨b, hb, h⟩ := Option.bind_eq_some_iff.mp h
    obtain ⟨bs, hbs, h⟩ := Option.bind_eq_some_iff.mp h
    cases h
    rw [List.forall_mem_cons]
    refine ⟨⟨a, List.mem_cons_self, hb⟩, fun c hc => ?_⟩
    obtain ⟨a', ha', hc⟩ := ih hbs c hc
    exact ⟨a', List.mem_cons_of_mem a ha', hc⟩

/-- The items of a list are one level below it, as they are read and as they are written. -/
theorem Keeps.list {α : Type} {write : α → Json} {floats : α → List Float} {read : Json → Option α}
    (h : Keeps write floats read) : Keeps (fun as : List α => .array (as.map write))
      (fun as => as.flatMap floats) (Tree.list? read) := by
  intro d v as hv has
  obtain ⟨items, hitems, has⟩ := Option.bind_eq_some_iff.mp has
  cases v with
  | array items' =>
    cases hitems
    obtain ⟨d', rfl, hparts⟩ := hv.parts rfl
    have hwithin (a : α) (ha : a ∈ as) : Within d' (write a) (floats a) := by
      obtain ⟨w, hw, hread⟩ := exists_of_mem_mapM has a ha
      exact h (hparts w hw) hread
    refine ⟨Json.depth_array_le.mpr ?_, ?_⟩
    · exact List.forall_mem_map.mpr fun a ha => (hwithin a ha).depth_le
    · intro x hx
      obtain ⟨a, ha, hx⟩ := List.mem_flatMap.mp hx
      exact (hwithin a ha).finite x hx
  | _ => cases hitems

/-- A case that carries a double, named by the only field of an object. -/
theorem Within.of_float {α : Type} {f : Float → α} {write : α → Json} {floats : α → List Float}
    {name : String} {d : Nat} {v : Json} {a : α} (hv : (Json.object [(name, v)]).Tame d)
    (h : v.float?.map f = some a) (hwrite : ∀ x, write (f x) = .object [(name, .ofFloat x)])
    (hfloats : ∀ x, floats (f x) = [x]) : Within d (write a) (floats a) := by
  obtain ⟨x, hx, rfl⟩ := Option.map_eq_some_iff.mp h
  obtain ⟨d', rfl, hparts⟩ := hv.parts rfl
  rw [hwrite, hfloats]
  exact ⟨Json.depth_object_le.mpr (by simp), (keeps_float (hparts _ List.mem_cons_self) hx).finite⟩

/-! ## Lengths and growth -/

theorem Length.keeps : Keeps toJson floats ofJson? := by
  intro d v l hv h
  unfold ofJson? at h
  split at h
  · exact .of_float hv h (fun _ => rfl) fun _ => rfl
  · exact .of_float hv h (fun _ => rfl) fun _ => rfl
  · obtain ⟨s, -, rfl⟩ := Option.map_eq_some_iff.mp h
    obtain ⟨d', rfl, -⟩ := hv.parts rfl
    exact ⟨Json.depth_object_le.mpr (by simp), allFinite_nil⟩
  · cases h

theorem Growth.keeps : Keeps toJson floats ofJson? := by
  intro d v g hv h
  have hword (g : Growth) (hdepth : g.toJson.depth = 0) (hfloats : g.floats = []) :
      Within d g.toJson g.floats := ⟨hdepth ▸ Nat.zero_le d, hfloats ▸ allFinite_nil⟩
  unfold ofJson? at h
  split at h
  · cases h
    exact hword default rfl rfl
  · cases h
    exact hword none rfl rfl
  · split_ifs at h
    cases h
    exact hword default rfl rfl
  · split_ifs at h
    cases h
    exact hword none rfl rfl
  · obtain ⟨n, -, rfl⟩ := Option.map_eq_some_iff.mp h
    obtain ⟨d', rfl, -⟩ := hv.parts rfl
    exact ⟨Json.depth_object_le.mpr (by simp), allFinite_nil⟩
  · exact .of_float hv h (fun _ => rfl) fun _ => rfl
  · cases h

namespace Tree

theorem LineHeight.keeps : Keeps toJson floats ofJson? := by
  intro d v l hv h
  unfold ofJson? at h
  split at h
  · exact .of_float hv h (fun _ => rfl) fun _ => rfl
  · exact .of_float hv h (fun _ => rfl) fun _ => rfl
  · cases h

end Tree

/-! ## Records -/

/-- The fields of a record are written at most `d` deep, and the doubles `xs` are finite. -/
structure WithinFields (d : Nat) (fs : List (String × Json)) (xs : List Float) : Prop where
  depth_le : ∀ f ∈ fs, f.2.depth ≤ d
  finite : AllFinite xs

theorem WithinFields.object {d : Nat} {fs : List (String × Json)} {xs : List Float}
    (h : WithinFields d fs xs) : Within (d + 1) (.object fs) xs :=
  ⟨Json.depth_object_le.mpr h.depth_le, h.finite⟩

theorem WithinFields.tagged {d : Nat} {kind : String} {fs : List (String × Json)} {xs : List Float}
    (h : WithinFields d fs xs) : Within (d + 1) (Tree.tagged kind fs) xs :=
  ⟨Json.depth_object_le.mpr (List.forall_mem_cons.mpr ⟨Nat.zero_le d, h.depth_le⟩), h.finite⟩

/-- A record within limits is read with its fields one level further down. -/
theorem Keeps.of_record {α : Type} {names : List String} {readRecord : Record Json → Option α}
    {fields : α → List (String × Json)} {write : α → Json} {floats : α → List Float}
    {read : Json → Option α}
    (hrecord : ∀ ⦃d : Nat⦄ ⦃r : Record Json⦄ ⦃a : α⦄, r.All (Json.Tame d) →
      readRecord r = some a → WithinFields d (fields a) (floats a))
    (hwrite : ∀ a, write a = .object (fields a))
    (hread : ∀ v, read v = (Tree.record? names v).bind readRecord) : Keeps write floats read := by
  intro d v a hv h
  rw [hread] at h
  obtain ⟨r, hr, ha⟩ := Option.bind_eq_some_iff.mp h
  obtain ⟨p, hp, hr⟩ := Option.bind_eq_some_iff.mp hr
  obtain ⟨d', rfl, hparts⟩ := hv.parts hp
  rw [hwrite]
  exact (hrecord (Parts.record?_all hparts hr) ha).object

theorem Edges.keeps : Keeps toJson floats ofJson? := by
  refine Keeps.of_record ?_ (fun _ => rfl) fun v => (Option.bind_assoc v.parts? _ _).symm
  intro d r e hr h
  obtain ⟨top, htop, h⟩ := Length.keeps.optional hr h
  obtain ⟨bottom, hbottom, h⟩ := Length.keeps.optional hr h
  obtain ⟨start, hstart, h⟩ := Length.keeps.optional hr h
  obtain ⟨«end», hend, h⟩ := Length.keeps.optional hr h
  cases h
  exact ⟨by simp [htop.depth_le, hbottom.depth_le, hstart.depth_le, hend.depth_le],
    by simp [floats, htop.finite, hbottom.finite, hstart.finite, hend.finite]⟩

/-! ## Actions -/

theorem AltUri.keeps : Keeps toJson (fun _ => []) ofJson? := by
  intro d v a hv h
  obtain ⟨p, hp, -⟩ := Option.bind_eq_some_iff.mp h
  obtain ⟨d', rfl, -⟩ := hv.parts hp
  refine ⟨Json.depth_object_le.mpr ?_, allFinite_nil⟩
  simp

theorem depth_optionalField_le {α : Type} {name : String} {f : α → Json} {d : Nat} {a : Option α}
    (h : (Json.ofOption f a).depth ≤ d) : ∀ g ∈ Action.optionalField name f a, g.2.depth ≤ d := by
  rcases a with _ | b
  · rintro g ⟨⟩
  · intro g hg
    rw [List.mem_singleton.mp hg]
    exact h

/-- Every action has a level of its own, as the value that it is read from. -/
theorem Action.keeps : Keeps toJson (fun _ => []) (ofJson? .tree) := by
  intro d v a hv h
  obtain ⟨p, hp, h⟩ := Option.bind_eq_some_iff.mp h
  obtain ⟨d', rfl, hparts⟩ := hv.parts hp
  obtain ⟨⟨tag, rest⟩, htagged, h⟩ := Option.bind_eq_some_iff.mp h
  have hrest := Parts.tagged?_all hparts htagged
  obtain ⟨kind, -, h⟩ := Option.bind_eq_some_iff.mp h
  have htext (s : Option String) : (Json.ofOption .string s).depth ≤ d' :=
    Json.depth_ofOption_le fun _ _ => Nat.zero_le d'
  split at h
  · obtain ⟨r, hr, h⟩ := Option.bind_eq_some_iff.mp h
    obtain ⟨label, -, h⟩ := Option.bind_eq_some_iff.mp h
    obtain ⟨address, -, h⟩ := Option.bind_eq_some_iff.mp h
    obtain ⟨altUri, haltUri, h⟩ := AltUri.keeps.defaulted (Parts.record?_all hrest hr) h
    cases h
    refine WithinFields.tagged ⟨?_, allFinite_nil⟩
    simp only [List.forall_mem_append]
    exact ⟨⟨depth_optionalField_le (htext label), by simp⟩,
      depth_optionalField_le haltUri.depth_le⟩
  · obtain ⟨r, -, h⟩ := Option.bind_eq_some_iff.mp h
    obtain ⟨label, -, h⟩ := Option.bind_eq_some_iff.mp h
    obtain ⟨text, -, h⟩ := Option.bind_eq_some_iff.mp h
    cases h
    refine WithinFields.tagged ⟨?_, allFinite_nil⟩
    simp only [List.forall_mem_append]
    exact ⟨depth_optionalField_le (htext label), by simp⟩
  · obtain ⟨r, -, h⟩ := Option.bind_eq_some_iff.mp h
    obtain ⟨label, -, h⟩ := Option.bind_eq_some_iff.mp h
    obtain ⟨data, -, h⟩ := Option.bind_eq_some_iff.mp h
    obtain ⟨displayText, -, h⟩ := Option.bind_eq_some_iff.mp h
    cases h
    refine WithinFields.tagged ⟨?_, allFinite_nil⟩
    simp only [List.forall_mem_append]
    exact ⟨⟨depth_optionalField_le (htext label), by simp⟩,
      depth_optionalField_le (htext displayText)⟩
  · cases h

namespace Tree

/-! ## Parts of nodes -/

@[simp] theorem depth_word {α : Type} [Keyword α] (a : α) : (Keyword.toJson a).depth = 0 := rfl

@[simp] theorem depth_optionalWord {α : Type} [Keyword α] (a : Option α) :
    (optionalWord a).depth = 0 := by
  cases a <;> rfl

@[simp] theorem depth_optionalString (s : Option String) : (optionalString s).depth = 0 := by
  cases s <;> rfl

theorem Margin.keeps : Keeps toJson floats ofJson? := by
  refine Keeps.of_record ?_ (fun _ => rfl) fun _ => rfl
  intro d r m hr h
  obtain ⟨side, -, h⟩ := Option.bind_eq_some_iff.mp h
  obtain ⟨amount, hamount, h⟩ := Length.keeps.required hr h
  cases h
  exact ⟨by simp [hamount.depth_le], hamount.finite⟩

theorem Geometry.keeps : Keeps toJson floats ofJson? := by
  refine Keeps.of_record ?_ (fun _ => rfl) fun _ => rfl
  intro d r g hr h
  obtain ⟨flex, hflex, h⟩ := Growth.keeps.required hr h
  obtain ⟨margin, hmargin, h⟩ := Margin.keeps.optional hr h
  obtain ⟨position, -, h⟩ := Option.bind_eq_some_iff.mp h
  obtain ⟨offsets, hoffsets, h⟩ := Edges.keeps.required hr h
  cases h
  exact ⟨by simp [optionalMargin, hflex.depth_le, hmargin.depth_le, hoffsets.depth_le],
    by simp [floats, hflex.finite, hmargin.finite, hoffsets.finite]⟩

/-! ## Fields of nodes -/

section Fields

variable {d : Nat} {r : Record Json}

theorem Span.within {s : Span} (hr : r.All (Json.Tame d)) (h : ofRecord? r = some s) :
    WithinFields d s.fields s.floats := by
  obtain ⟨text, -, h⟩ := Option.bind_eq_some_iff.mp h
  obtain ⟨fontSize, hfontSize, h⟩ := Length.keeps.optional hr h
  obtain ⟨color, -, h⟩ := Option.bind_eq_some_iff.mp h
  obtain ⟨weight, -, h⟩ := Option.bind_eq_some_iff.mp h
  obtain ⟨style, -, h⟩ := Option.bind_eq_some_iff.mp h
  obtain ⟨decoration, -, h⟩ := Option.bind_eq_some_iff.mp h
  cases h
  exact ⟨by simp [fields, optionalLength, hfontSize.depth_le], hfontSize.finite⟩

theorem Span.keeps : Keeps (fun s : Span => .object s.fields) floats ofJson? :=
  Keeps.of_record (fun _ _ _ hr h => Span.within hr h) (fun _ => rfl) fun _ => rfl

theorem Button.within {b : Button} (hr : r.All (Json.Tame d)) (h : ofRecord? r = some b) :
    WithinFields d b.fields b.floats := by
  obtain ⟨geometry, hgeometry, h⟩ := Geometry.keeps.required hr h
  obtain ⟨label, -, h⟩ := Option.bind_eq_some_iff.mp h
  obtain ⟨style, -, h⟩ := Option.bind_eq_some_iff.mp h
  obtain ⟨height, hheight, h⟩ := Length.keeps.required hr h
  obtain ⟨textColor, -, h⟩ := Option.bind_eq_some_iff.mp h
  obtain ⟨backgroundColor, -, h⟩ := Option.bind_eq_some_iff.mp h
  obtain ⟨gravity, -, h⟩ := Option.bind_eq_some_iff.mp h
  obtain ⟨adjustMode, -, h⟩ := Option.bind_eq_some_iff.mp h
  obtain ⟨externalLink, -, h⟩ := Option.bind_eq_some_iff.mp h
  obtain ⟨action, haction, h⟩ := Action.keeps.optional hr h
  cases h
  exact ⟨by simp [fields, optionalAction, hgeometry.depth_le, hheight.depth_le, haction.depth_le],
    by simp [floats, hgeometry.finite, hheight.finite]⟩

theorem Filler.within {f : Filler} (hr : r.All (Json.Tame d)) (h : ofRecord? r = some f) :
    WithinFields d f.fields f.floats := by
  obtain ⟨flex, hflex, h⟩ := Growth.keeps.required hr h
  cases h
  exact ⟨by simp [fields, hflex.depth_le], hflex.finite⟩

theorem Icon.within {i : Icon} (hr : r.All (Json.Tame d)) (h : ofRecord? r = some i) :
    WithinFields d i.fields i.floats := by
  obtain ⟨geometry, hgeometry, h⟩ := Geometry.keeps.required hr h
  obtain ⟨url, -, h⟩ := Option.bind_eq_some_iff.mp h
  obtain ⟨fontSize, hfontSize, h⟩ := Length.keeps.optional hr h
  obtain ⟨widthEm, hwidthEm, h⟩ := keeps_float.required hr h
  cases h
  exact ⟨by simp [fields, optionalLength, hgeometry.depth_le, hfontSize.depth_le],
    by simp [floats, hgeometry.finite, hfontSize.finite, hwidthEm.finite]⟩

theorem Image.within {i : Image} (hr : r.All (Json.Tame d)) (h : ofRecord? r = some i) :
    WithinFields d i.fields i.floats := by
  obtain ⟨geometry, hgeometry, h⟩ := Geometry.keeps.required hr h
  obtain ⟨url, -, h⟩ := Option.bind_eq_some_iff.mp h
  obtain ⟨width, hwidth, h⟩ := Length.keeps.required hr h
  obtain ⟨aspectPercent, haspectPercent, h⟩ := keeps_float.required hr h
  obtain ⟨aspectMode, -, h⟩ := Option.bind_eq_some_iff.mp h
  obtain ⟨align, -, h⟩ := Option.bind_eq_some_iff.mp h
  obtain ⟨gravity, -, h⟩ := Option.bind_eq_some_iff.mp h
  obtain ⟨backgroundColor, -, h⟩ := Option.bind_eq_some_iff.mp h
  obtain ⟨action, haction, h⟩ := Action.keeps.optional hr h
  cases h
  exact ⟨by simp [fields, optionalAction, hgeometry.depth_le, hwidth.depth_le, haction.depth_le],
    by simp [floats, hgeometry.finite, hwidth.finite, haspectPercent.finite]⟩

theorem Separator.within {s : Separator} (hr : r.All (Json.Tame d)) (h : ofRecord? r = some s) :
    WithinFields d s.fields s.floats := by
  obtain ⟨margin, hmargin, h⟩ := Margin.keeps.optional hr h
  obtain ⟨orientation, -, h⟩ := Option.bind_eq_some_iff.mp h
  obtain ⟨thickness, hthickness, h⟩ := Length.keeps.required hr h
  obtain ⟨color, -, h⟩ := Option.bind_eq_some_iff.mp h
  cases h
  exact ⟨by simp [fields, optionalMargin, hmargin.depth_le, hthickness.depth_le],
    by simp [floats, hmargin.finite, hthickness.finite]⟩

theorem Spacer.within {s : Spacer} (hr : r.All (Json.Tame d)) (h : ofRecord? r = some s) :
    WithinFields d s.fields s.floats := by
  obtain ⟨height, hheight, h⟩ := Length.keeps.required hr h
  cases h
  exact ⟨by simp [fields, hheight.depth_le], hheight.finite⟩

theorem Text.within {t : Text} (hr : r.All (Json.Tame d)) (h : ofRecord? r = some t) :
    WithinFields d t.fields t.floats := by
  obtain ⟨geometry, hgeometry, h⟩ := Geometry.keeps.required hr h
  obtain ⟨lines, hlines, h⟩ := keeps_text.list.required hr h
  obtain ⟨spans, hspans, h⟩ := Span.keeps.list.required hr h
  obtain ⟨fontSize, hfontSize, h⟩ := Length.keeps.optional hr h
  obtain ⟨lineHeight, hlineHeight, h⟩ := LineHeight.keeps.required hr h
  obtain ⟨wrap, -, h⟩ := Option.bind_eq_some_iff.mp h
  obtain ⟨maxLines, -, h⟩ := Option.bind_eq_some_iff.mp h
  obtain ⟨weight, -, h⟩ := Option.bind_eq_some_iff.mp h
  obtain ⟨style, -, h⟩ := Option.bind_eq_some_iff.mp h
  obtain ⟨decoration, -, h⟩ := Option.bind_eq_some_iff.mp h
  obtain ⟨color, -, h⟩ := Option.bind_eq_some_iff.mp h
  obtain ⟨align, -, h⟩ := Option.bind_eq_some_iff.mp h
  obtain ⟨gravity, -, h⟩ := Option.bind_eq_some_iff.mp h
  obtain ⟨action, haction, h⟩ := Action.keeps.optional hr h
  cases h
  have hmaxLines : (Json.ofOption (fun n : UInt32 => .ofNat n.toNat) maxLines).depth ≤ d :=
    Json.depth_ofOption_le fun n _ => Nat.zero_le d
  exact ⟨by simp [fields, optionalLength, optionalAction, hgeometry.depth_le, hlines.depth_le,
      hspans.depth_le, hfontSize.depth_le, hlineHeight.depth_le, hmaxLines, haction.depth_le],
    by simp [floats, hgeometry.finite, hspans.finite, hfontSize.finite, hlineHeight.finite]⟩

/-- The children are left to the reader of nodes. -/
theorem Box.within {b : Box} {children : Json} (hr : r.All (Json.Tame d))
    (h : ofRecord? r = some b) (hchildren : children.depth ≤ d) :
    WithinFields d (b.fields children) b.floats := by
  obtain ⟨layout, -, h⟩ := Option.bind_eq_some_iff.mp h
  obtain ⟨geometry, hgeometry, h⟩ := Geometry.keeps.required hr h
  obtain ⟨padding, hpadding, h⟩ := Edges.keeps.required hr h
  obtain ⟨backgroundColor, -, h⟩ := Option.bind_eq_some_iff.mp h
  obtain ⟨background, -, h⟩ := Option.bind_eq_some_iff.mp h
  obtain ⟨borderColor, -, h⟩ := Option.bind_eq_some_iff.mp h
  obtain ⟨borderWidth, hborderWidth, h⟩ := Length.keeps.optional hr h
  obtain ⟨cornerRadius, hcornerRadius, h⟩ := Length.keeps.optional hr h
  obtain ⟨width, hwidth, h⟩ := Length.keeps.optional hr h
  obtain ⟨maxWidth, hmaxWidth, h⟩ := Length.keeps.optional hr h
  obtain ⟨height, hheight, h⟩ := Length.keeps.optional hr h
  obtain ⟨maxHeight, hmaxHeight, h⟩ := Length.keeps.optional hr h
  obtain ⟨justifyContent, -, h⟩ := Option.bind_eq_some_iff.mp h
  obtain ⟨alignItems, -, h⟩ := Option.bind_eq_some_iff.mp h
  obtain ⟨action, haction, h⟩ := Action.keeps.optional hr h
  cases h
  exact ⟨by simp [fields, optionalLength, optionalAction, hchildren, hgeometry.depth_le,
      hpadding.depth_le, hborderWidth.depth_le, hcornerRadius.depth_le, hwidth.depth_le,
      hmaxWidth.depth_le, hheight.depth_le, hmaxHeight.depth_le, haction.depth_le],
    by simp [floats, hgeometry.finite, hpadding.finite, hborderWidth.finite, hcornerRadius.finite,
      hwidth.finite, hmaxWidth.finite, hheight.finite, hmaxHeight.finite]⟩

/-- The alternative content is left to the reader of nodes. -/
theorem Video.within {v : Video} {alt : Json} (hr : r.All (Json.Tame d))
    (h : ofRecord? r = some v) (halt : alt.depth ≤ d) :
    WithinFields d (v.fields alt) v.floats := by
  obtain ⟨url, -, h⟩ := Option.bind_eq_some_iff.mp h
  obtain ⟨previewUrl, -, h⟩ := Option.bind_eq_some_iff.mp h
  obtain ⟨aspectPercent, haspectPercent, h⟩ := keeps_float.required hr h
  obtain ⟨action, haction, h⟩ := Action.keeps.optional hr h
  cases h
  exact ⟨by simp [fields, optionalAction, halt, haction.depth_le], haspectPercent.finite⟩

end Fields

end Tree

end FlexLayout
