import FlexLayout.Document.Survey
import FlexLayout.Proofs.Resolve.Unplaced
import FlexLayout.Proofs.Document.Position
import FlexLayout.Proofs.Sample.Draw
import FlexLayout.Sample.Message

/-!
# Components of a sample

What the components of a sample look like, however the dice fall. `Grown` says it of a component
and all that it holds: boxes in one another up to the room that is left, each with an admitted
number of children, and no unknown kind but the one that a sample may be sprinkled with. The rest
of a component matters neither to the nesting of its boxes nor to what is without a place in it.
-/

namespace FlexLayout

namespace Document.Component

theorem nestingBelow_le {cs : List Component} {n : Nat} :
    nestingBelow cs ≤ n ↔ ∀ c ∈ cs, c.nesting ≤ n := by
  induction cs with
  | nil => simp [nestingBelow]
  | cons c rest ih => rw [nestingBelow, Nat.max_le, ih, List.forall_mem_cons]

end Document.Component

namespace Sample

open FlexLayout.Document (Component unplacedSpans)

/-! ## Objects -/

@[simp] theorem field?_object_nil (name : String) : (object []).field? name = none := rfl

@[simp] theorem field?_object_cons (k : String) (v : Option Json)
    (fs : List (String × Option Json)) (name : String) :
    (object ((k, v) :: fs)).field? name =
      if name = k then v <|> (object fs).field? name else (object fs).field? name := by
  unfold object Json.field? Json.fields
  rcases v with _ | v
  · simp
  · by_cases h : name = k
    · simp [h]
    · simp [h, List.lookup_cons, beq_false_of_ne h]

/-- The kind of a value is the word under its `type`. -/
theorem kind?_of_type {v : Json} {k : Kind} (h : v.field? "type" = text k.word) :
    v.kind? = some k :=
  Json.kind?_of_typeText (Json.typeText?_eq_some_iff.mpr h)

theorem kind?_of_stray {v : Json} (h : v.typeText? = some unknownKind) : v.kind? = none := by
  unfold Json.kind?
  rw [h]
  decide

/-! ## Components and what they hold -/

/-- A number of children that a box of this shape may have. -/
def Shape.Admits (s : Shape) (n : Nat) : Prop := 1 ≤ n ∧ n ≤ s.width

/-- A component of a sample, with at most `room` boxes in one another. The numbers of children of
its boxes are admitted by `Count`, and strays occur only where they are asked for. -/
inductive Grown (unknown : Bool) (Count : Nat → Prop) : Nat → Json → Prop where
  | leaf {room : Nat} {v : Json} {k : Kind} : v.kind? = some k → k ∉ [Kind.box, .text, .video] →
    Grown unknown Count room v
  | text {room : Nat} {v : Json} : v.kind? = some .text →
    (∀ x ∈ v.contents, x.kind? = some .span) → Grown unknown Count room v
  | stray {room : Nat} {v : Json} : unknown = true → v.typeText? = some unknownKind →
    Grown unknown Count room v
  | box {room : Nat} {v : Json} : v.kind? = some .box → Count v.contents.length →
    (∀ x ∈ v.contents, Grown unknown Count room x) → Grown unknown Count (room + 1) v

namespace Grown

variable {unknown : Bool} {Count : Nat → Prop} {room : Nat} {v : Json}

theorem mono (h : Grown unknown Count room v) {more : Nat} (hle : room ≤ more) :
    Grown unknown Count more v := by
  induction h generalizing more with
  | leaf hk hleaf => exact .leaf hk hleaf
  | text hk hspans => exact .text hk hspans
  | stray hunknown htype => exact .stray hunknown htype
  | @box room v hk hcount _ ih =>
    obtain ⟨more, rfl⟩ : ∃ m, more = m + 1 := ⟨more - 1, by omega⟩
    exact .box hk hcount fun x hx => ih x hx (by omega)

theorem of_box {s : Shape} (h : v.kind? = some .box ∧ s.Admits v.contents.length ∧
    ∀ x ∈ v.contents, Grown s.unknown s.Admits room x) :
    Grown s.unknown s.Admits (room + 1) v := .box h.1 h.2.1 h.2.2

/-- What a component holds, by its kind. No sample has a video. -/
theorem inside (h : Grown unknown Count room v) :
    match v.kind? with
    | some .box => Count v.contents.length ∧ ∀ x ∈ v.contents, ∃ below, Grown unknown Count below x
    | some .text => ∀ x ∈ v.contents, x.kind? = some .span
    | some .video => False
    | _ => True := by
  cases h with
  | @leaf _ _ k hk hleaf =>
    rw [hk]
    cases k with
    | box | text | video => simp at hleaf
    | _ => trivial
  | text hk hspans =>
    rw [hk]
    exact hspans
  | stray _ htype =>
    rw [kind?_of_stray htype]
    trivial
  | box hk hcount hall =>
    rw [hk]
    exact ⟨hcount, fun x hx => ⟨_, hall x hx⟩⟩

/-- Boxes stand in one another only as far as there is room. -/
theorem nesting_le (h : Grown unknown Count room v) : (Component.ofJson v).nesting ≤ room := by
  induction h with
  | @leaf room v k hk hleaf =>
    rw [Component.ofJson_eq, hk]
    cases k with
    | box => simp at hleaf
    | _ => exact Nat.zero_le room
  | text hk _ =>
    rw [Component.ofJson_text hk]
    exact Nat.zero_le _
  | stray _ htype =>
    rw [Component.ofJson_eq, kind?_of_stray htype]
    exact Nat.zero_le _
  | box hk _ _ ih =>
    rw [Component.ofJson_box hk, Component.nesting, Nat.succ_le_succ_iff,
      Component.nestingBelow_le, List.forall_mem_map]
    exact ih

/-- Nothing is without a place among spans. -/
theorem unplacedSpans_eq_nil {ws : List Json} (h : ∀ x ∈ ws, x.kind? = some .span) (path : Path)
    (i : Nat) : unplacedSpans path i (ws.map .ofJson) = [] := by
  induction ws generalizing i with
  | nil => rfl
  | cons w rest ih =>
    obtain ⟨hw, hrest⟩ := List.forall_mem_cons.mp h
    rw [List.map_cons, Component.ofJson_eq, hw]
    exact ih hrest (i + 1)

/-- Only strays are without a place. -/
theorem of_mem_unplaced (h : Grown unknown Count room v) {path : Path} {u : String × Path}
    (hu : u ∈ (Component.ofJson v).unplaced path) : u.1 = unknownKind ∧ unknown = true := by
  induction h generalizing path with
  | @leaf room v k hk hleaf =>
    rw [Component.ofJson_eq, hk] at hu
    cases k with
    | box | text | video => simp at hleaf
    | _ => cases hu
  | text hk hspans =>
    rw [Component.ofJson_text hk, Component.unplaced, unplacedSpans_eq_nil hspans] at hu
    cases hu
  | stray hunknown htype =>
    rw [Component.ofJson_eq, kind?_of_stray htype, htype] at hu
    rw [List.mem_singleton.mp hu]
    exact ⟨rfl, hunknown⟩
  | box hk _ _ ih =>
    rw [Component.ofJson_box hk, Component.unplaced] at hu
    obtain ⟨j, c, hc, hmem⟩ := Component.mem_unplacedFrom hu
    rw [List.getElem?_map, Option.map_eq_some_iff] at hc
    obtain ⟨x, hx, rfl⟩ := hc
    exact ih x (List.mem_of_getElem? hx) hmem

end Grown

/-! ## Components without boxes -/

theorem always_button : Always button fun v => v.kind? = some .button :=
  .after fun _ => .after fun _ => .after fun _ => .pure (kind?_of_type (by simp; rfl))

theorem always_filler : Always filler fun v => v.kind? = some .filler :=
  .pure (kind?_of_type (by simp; rfl))

theorem always_icon : Always icon fun v => v.kind? = some .icon :=
  .after fun _ => .pure (kind?_of_type (by simp; rfl))

theorem always_image : Always image fun v => v.kind? = some .image :=
  .after fun _ => .after fun _ => .after fun _ => .pure (kind?_of_type (by simp; rfl))

theorem always_separator : Always separator fun v => v.kind? = some .separator :=
  .after fun _ => .pure (kind?_of_type (by simp; rfl))

theorem always_spacer : Always spacer fun v => v.kind? = some .spacer :=
  .after fun _ => .pure (kind?_of_type (by simp; rfl))

theorem always_stray : Always stray fun v => v.typeText? = some unknownKind :=
  .after fun _ => .pure (Json.typeText?_eq_some_iff.mpr (by simp; rfl))

theorem always_spans :
    Always spans fun v => ∃ xs, v = .array xs ∧ ∀ x ∈ xs, x.kind? = some .span := by
  refine .after fun first => .after fun second => .pure ⟨_, rfl, ?_⟩
  intro x hx
  rcases List.mem_pair.mp hx with rfl | rfl
  · exact kind?_of_type (by simp; rfl)
  · exact kind?_of_type (by simp; rfl)

theorem always_paragraph :
    Always paragraph fun v => v.kind? = some .text ∧ ∀ x ∈ v.contents, x.kind? = some .span := by
  refine .after fun _ => .after fun _ => .bind (.maybe always_spans 20) fun spans hspans =>
    .after fun _ => .after fun _ => .after fun _ => .after fun _ => .pure ⟨?_, ?_⟩
  · exact kind?_of_type (by simp; rfl)
  · rcases spans with _ | w
    · simp [Json.contents]
    · obtain ⟨xs, rfl, hxs⟩ := hspans w rfl
      rw [Json.contents_of_field (by simp; rfl)]
      exact hxs

/-! ## Boxes -/

/-- A box has an admitted number of children, each drawn in the same way. -/
theorem always_box {s : Shape} (hs : 1 ≤ s.width) {child : Draw Json} {P : Json → Prop}
    (hchild : Always child P) :
    Always (box s child) fun v =>
      v.kind? = some .box ∧ s.Admits v.contents.length ∧ ∀ x ∈ v.contents, P x := by
  refine .bind (.between hs) fun n hn => .bind (.many hchild n) fun items hitems => ?_
  refine .after fun _ => .after fun _ => .after fun _ => .after fun _ => .after fun _ =>
    .after fun _ => .pure ⟨?_, ?_⟩
  · exact kind?_of_type (by simp; rfl)
  · rw [Json.contents_of_field (by simp; rfl), hitems.1]
    exact ⟨hn, hitems.2⟩

/-- A component is grown if the first of its ten cases is. -/
theorem always_mixed {s : Shape} {room : Nat} {first : Draw Json}
    (hfirst : Always first (Grown s.unknown s.Admits room)) :
    Always (mixed s first) (Grown s.unknown s.Admits room) := by
  have hparagraph : Always paragraph (Grown s.unknown s.Admits room) :=
    always_paragraph.imp fun v hv => .text hv.1 hv.2
  unfold mixed
  extract_lets rest
  have hrest (strays : Bool) (hstrays : strays = true → s.unknown = true) :
      Always (rest strays) (Grown s.unknown s.Admits room) := by
    by_cases h : strays = true
    · subst h
      exact always_stray.imp fun v hv => .stray (hstrays rfl) hv
    · rw [Bool.not_eq_true] at h
      subst h
      refine .after fun roll => ?_
      split
      · exact hfirst
      · exact always_button.imp fun v hv => .leaf hv (by decide)
      · exact always_filler.imp fun v hv => .leaf hv (by decide)
      · exact always_icon.imp fun v hv => .leaf hv (by decide)
      · exact always_image.imp fun v hv => .leaf hv (by decide)
      · exact always_separator.imp fun v hv => .leaf hv (by decide)
      · exact always_spacer.imp fun v hv => .leaf hv (by decide)
      · exact hparagraph
  split
  · rename_i hunknown
    exact .after fun strays => hrest strays fun _ => hunknown
  · exact hrest false Bool.noConfusion

/-- **Components.** With room for `room` boxes in one another, a component holds no more. -/
theorem always_component {s : Shape} (hs : 1 ≤ s.width) (room : Nat) :
    Always (component s room) (Grown s.unknown s.Admits room) := by
  induction room with
  | zero => exact always_mixed (always_paragraph.imp fun v hv => .text hv.1 hv.2)
  | succ room ih => exact always_mixed ((always_box hs ih).imp fun v => .of_box)

end Sample

end FlexLayout
