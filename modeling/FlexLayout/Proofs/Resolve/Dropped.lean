import FlexLayout.Proofs.Document.Attribute
import FlexLayout.Proofs.Document.Location
import FlexLayout.Proofs.Resolve.Alignment

/-!
# Dropped content

What has no place in a tree is dropped: a component of no known kind, a header, body or footer
that is no box, an entry of a carousel that is no bubble, and an item of a text that is no span.
Two documents are alike if dropped content is all that they differ in, at any number of places and
at any depth. Items of a box keep their indices, because the spacing of their siblings counts
them. Documents that are alike resolve to one tree when dropped content is skipped.
-/

namespace FlexLayout

/-! ## Documents that are alike -/

namespace Document

open Resolve (IsBoxValue IsKnownValue)

/-- Nothing stands in a slot that the slot would keep. -/
def Dropped (keeps : Json → Prop) (slot : Option Json) : Prop := ∀ w, slot = some w → ¬ keeps w

instance (keeps : Json → Prop) [DecidablePred keeps] (slot : Option Json) :
    Decidable (Dropped keeps slot) :=
  match slot with
  | none => .isTrue fun _ h => nomatch h
  | some w => decidable_of_iff (¬ keeps w) ⟨fun h _ hw => Option.some.inj hw ▸ h, fun h => h w rfl⟩

/-- Components that differ in dropped content only. -/
inductive Alike : Json → Json → Prop where
  | refl (v : Json) : Alike v v
  /-- Both are dropped themselves. -/
  | unknown {v w : Json} : ¬ IsKnownValue v → ¬ IsKnownValue w → Alike v w
  | box {v w : Json} : v.kind? = some .box → SameBut ["contents"] v w →
    v.contents.length = w.contents.length →
    (∀ (i : Nat) (x y : Json), v.contents[i]? = some x → w.contents[i]? = some y → Alike x y) →
      Alike v w
  /-- The spans are the same, in their order. Between them anything may stand. -/
  | text {v w : Json} : v.kind? = some .text → SameBut ["contents"] v w →
    v.spanContents = w.spanContents → Alike v w
  | video {v w x y : Json} : v.kind? = some .video → SameBut ["altContent"] v w →
    v.slot? "altContent" = some x → w.slot? "altContent" = some y → Alike x y → Alike v w
  | droppedAlt {v w : Json} : v.kind? = some .video → SameBut ["altContent"] v w →
    Dropped IsKnownValue (v.slot? "altContent") → Dropped IsKnownValue (w.slot? "altContent") →
      Alike v w

/-- Sections that differ in dropped content only. -/
inductive SlotAlike (keeps : Json → Prop) : Option Json → Option Json → Prop where
  | dropped {s t : Option Json} : Dropped keeps s → Dropped keeps t → SlotAlike keeps s t
  | alike {x y : Json} : Alike x y → SlotAlike keeps (some x) (some y)

structure BubbleAlike (v w : Json) : Prop where
  same : SameBut ["header", "hero", "body", "footer"] v w
  boxed : ∀ name ∈ boxedSections, SlotAlike IsBoxValue (v.slot? name) (w.slot? name)
  hero : SlotAlike IsKnownValue (v.slot? "hero") (w.slot? "hero")

/-- Containers of one type whose bubbles are alike, one by one. Other entries of a carousel do not
count. -/
structure ContainerAlike (v w : Json) : Prop where
  type : v.field? "type" = w.field? "type"
  bubbles : List.Forall₂ BubbleAlike v.bubbles w.bubbles

structure MessageAlike (v w : Json) : Prop where
  same : SameBut ["contents"] v w
  contents : ∃ c d, v.field? "contents" = some c ∧ w.field? "contents" = some d ∧
    ContainerAlike c d

variable {v w : Json}

theorem kind?_of_not_isKnownValue (h : ¬ IsKnownValue v) : v.kind? = none :=
  Option.not_isSome_iff_eq_none.mp h

/-- Components that are alike are of one kind, or neither is of any. -/
theorem Alike.kind? (h : Alike v w) : v.kind? = w.kind? := by
  cases h with
  | refl => rfl
  | unknown hv hw => rw [kind?_of_not_isKnownValue hv, kind?_of_not_isKnownValue hw]
  | box _ hsame | text _ hsame | video _ hsame | droppedAlt _ hsame =>
    exact hsame.kind? (by decide)

end Document

namespace Resolve

open FlexLayout.Document
open FlexLayout.Tree (Node Child)

variable {v w : Json}

/-! ## Components -/

/-- The children of a box depend on the nodes of its contents only, each with its index. -/
theorem childrenOf_congr {axis : Layout} (spacing : Option String) {xs ys : List Component}
    (h : List.Forall₂ (fun x y => nodeOf axis x = nodeOf axis y) xs ys) (i : Nat) :
    childrenOf axis spacing i xs = childrenOf axis spacing i ys := by
  induction h generalizing i with
  | nil => rfl
  | @cons x y _ _ hxy _ ih =>
    rw [childrenOf, childrenOf, ih (i + 1), ← hxy]
    rcases hx : nodeOf axis x with _ | n
    · rfl
    · rw [kind_of_nodeOf hx, kind_of_nodeOf (hxy ▸ hx)]

theorem nodeOf_of_not_isKnownValue (h : ¬ IsKnownValue v) (axis : Layout) :
    nodeOf axis (.ofJson v) = none := by
  rw [← Option.not_isSome_iff_eq_none, isSome_nodeOf]
  exact h

theorem altOf_of_dropped {slot : Option Json} (h : Dropped IsKnownValue slot) :
    (slot.bind fun x => nodeOf .vertical (.ofJson x)) = none := by
  rcases slot with _ | x
  · rfl
  · exact nodeOf_of_not_isKnownValue (h x rfl) .vertical

/-- Components that are alike have the same node below any parent. -/
theorem nodeOf_alike (h : Alike v w) (axis : Layout) :
    nodeOf axis (.ofJson v) = nodeOf axis (.ofJson w) := by
  induction h generalizing axis with
  | refl v => rfl
  | unknown hv hw => rw [nodeOf_of_not_isKnownValue hv, nodeOf_of_not_isKnownValue hw]
  | @box v w hv hsame hlength _ ih =>
    have hw : w.kind? = some .box := (hsame.kind? (by decide)).symm.trans hv
    have hnodes : List.Forall₂ (fun x y => nodeOf ((Box.ofFields w.fields).layout.getD .vertical) x
        = nodeOf ((Box.ofFields w.fields).layout.getD .vertical) y)
        (v.contents.map .ofJson) (w.contents.map .ofJson) := by
      rw [List.forall₂_map_left_iff, List.forall₂_map_right_iff]
      refine List.forall₂_iff_get.mpr ⟨hlength, fun i hi hi' => ?_⟩
      exact ih i _ _ (List.getElem?_eq_getElem hi) (List.getElem?_eq_getElem hi') _
    rw [nodeOf_ofJson_box hv, nodeOf_ofJson_box hw, hsame.box, childrenOf_congr _ hnodes]
  | @text v w hv hsame hspans =>
    have hw : w.kind? = some .text := (hsame.kind? (by decide)).symm.trans hv
    have hspansOf : spansOf (v.contents.map .ofJson) = spansOf (w.contents.map .ofJson) := by
      rw [spansOf_map_ofJson, spansOf_map_ofJson]
      exact congrArg _ hspans
    rw [Component.ofJson_text hv, Component.ofJson_text hw, hsame.text, nodeOf, nodeOf, textOf,
      textOf, hspansOf]
  | @video v w x y hv hsame hx hy _ ih =>
    have hw : w.kind? = some .video := (hsame.kind? (by decide)).symm.trans hv
    rw [nodeOf_ofJson_video hv, nodeOf_ofJson_video hw, hsame.video, hx, hy, Option.bind_some,
      Option.bind_some, ih]
  | @droppedAlt v w hv hsame hdropped hdropped' =>
    have hw : w.kind? = some .video := (hsame.kind? (by decide)).symm.trans hv
    rw [nodeOf_ofJson_video hv, nodeOf_ofJson_video hw, hsame.video, altOf_of_dropped hdropped,
      altOf_of_dropped hdropped']

/-! ## Sections -/

/-- Boxes that are alike have the same attributes, and contents that are alike item by item. -/
theorem Alike.box_contents (h : Alike v w) (hv : v.kind? = some .box) :
    Box.ofFields v.fields = .ofFields w.fields ∧ List.Forall₂ Alike v.contents w.contents := by
  cases h with
  | refl => exact ⟨rfl, List.forall₂_same.mpr fun x _ => .refl x⟩
  | unknown hunknown _ =>
    rw [kind?_of_not_isKnownValue hunknown] at hv
    cases hv
  | box _ hsame hlength hitems =>
    refine ⟨hsame.box, List.forall₂_iff_get.mpr ⟨hlength, fun i hi hi' => ?_⟩⟩
    exact hitems i _ _ (List.getElem?_eq_getElem hi) (List.getElem?_eq_getElem hi')
  | text hk | video hk | droppedAlt hk =>
    rw [hk] at hv
    cases hv

theorem childrenOf_alike {xs ys : List Json} (h : List.Forall₂ Alike xs ys) (axis : Layout)
    (spacing : Option String) (i : Nat) :
    childrenOf axis spacing i (xs.map .ofJson) = childrenOf axis spacing i (ys.map .ofJson) := by
  refine childrenOf_congr spacing ?_ i
  rw [List.forall₂_map_left_iff, List.forall₂_map_right_iff]
  exact h.imp fun x y hxy => nodeOf_alike hxy axis

theorem isBox_ofJson (w : Json) : (Component.ofJson w).isBox = true ↔ IsBoxValue w := by
  unfold IsBoxValue
  rw [Component.ofJson_eq]
  rcases w.kind? with _ | k
  · simp [Component.isBox]
  · cases k <;> simp [Component.isBox]

theorem isBox_eq_false {w : Json} (h : ¬ IsBoxValue w) : (Component.ofJson w).isBox = false := by
  rw [← Bool.not_eq_true, isBox_ofJson]
  exact h

theorem boxedOf_of_not_isBox {c : Component} (h : c.isBox = false) (size : BubbleSize)
    (hasFooter : Bool) (s : BoxedSection) (color : Option String) :
    boxedOf size hasFooter s color (some c) = none := by
  cases c with
  | box _ _ => cases h
  | _ => rfl

theorem boxedOf_of_dropped {slot : Option Json} (h : Dropped IsBoxValue slot) (size : BubbleSize)
    (hasFooter : Bool) (s : BoxedSection) (color : Option String) :
    boxedOf size hasFooter s color (slot.map .ofJson) = none := by
  rcases slot with _ | w
  · rfl
  · exact boxedOf_of_not_isBox (isBox_eq_false (h w rfl)) size hasFooter s color

theorem boxedOf_alike {s t : Option Json} (h : SlotAlike IsBoxValue s t) (size : BubbleSize)
    (hasFooter : Bool) (sec : BoxedSection) (color : Option String) :
    boxedOf size hasFooter sec color (s.map .ofJson) =
      boxedOf size hasFooter sec color (t.map .ofJson) := by
  cases h with
  | dropped hs ht => rw [boxedOf_of_dropped hs, boxedOf_of_dropped ht]
  | @alike x y hxy =>
    by_cases hx : IsBoxValue x
    · obtain ⟨hbox, hcontents⟩ := Alike.box_contents hxy hx
      rw [Option.map_some, Option.map_some, Component.ofJson_box hx,
        Component.ofJson_box (hxy.kind?.symm.trans hx), hbox, boxedOf, boxedOf,
        childrenOf_alike hcontents]
    · have hy : ¬ IsBoxValue y := by
        unfold IsBoxValue
        rw [← hxy.kind?]
        exact hx
      rw [boxedOf_of_dropped fun _ h => by cases h; exact hx,
        boxedOf_of_dropped fun _ h => by cases h; exact hy]

theorem heroOf_alike {s t : Option Json} (h : SlotAlike IsKnownValue s t)
    (color : Option String) : heroOf color (s.map .ofJson) = heroOf color (t.map .ofJson) := by
  unfold heroOf
  rw [Option.bind_map, Option.bind_map]
  cases h with
  | dropped hs ht => exact congrArg _ ((altOf_of_dropped hs).trans (altOf_of_dropped ht).symm)
  | alike hxy => exact congrArg _ (nodeOf_alike hxy .vertical)

/-- A footer is there in both or in neither. -/
theorem any_isBox_alike {s t : Option Json} (h : SlotAlike IsBoxValue s t) :
    (s.map Component.ofJson).any Component.isBox = (t.map Component.ofJson).any Component.isBox := by
  have hdropped {slot : Option Json} (h : Dropped IsBoxValue slot) :
      (slot.map Component.ofJson).any Component.isBox = false := by
    rcases slot with _ | w
    · rfl
    · rw [Option.map_some, Option.any_some]
      exact isBox_eq_false (h w rfl)
  cases h with
  | dropped hs ht => rw [hdropped hs, hdropped ht]
  | alike hxy =>
    rw [Option.map_some, Option.map_some, Option.any_some, Option.any_some, Bool.eq_iff_iff,
      isBox_ofJson, isBox_ofJson, IsBoxValue, IsBoxValue, hxy.kind?]

/-! ## Bubbles and documents -/

theorem bubbleOf_alike (h : BubbleAlike v w) :
    bubbleOf (.ofFields v.fields) = bubbleOf (.ofFields w.fields) := by
  have hheader := h.boxed "header" (by decide)
  have hbody := h.boxed "body" (by decide)
  have hfooter := h.boxed "footer" (by decide)
  simp (disch := decide) only [bubbleOf, bubbleWith, Bubble.ofFields, sectionOf_eq, wordOf,
    actionOf, h.same.lenient, any_isBox_alike hfooter, boxedOf_alike hheader, boxedOf_alike hbody,
    boxedOf_alike hfooter, heroOf_alike h.hero]

theorem containerOf_alike (h : ContainerAlike v w) {c d : Container}
    (hc : Container.ofJson v = .ok c) (hd : Container.ofJson w = .ok d) :
    containerOf c = containerOf d := by
  have htype : v.typeText? = w.typeText? := congrArg (·.bind Json.text?) h.type
  have hbubbles : v.bubbles.map (fun x => bubbleOf (.ofFields x.fields)) =
      w.bubbles.map fun x => bubbleOf (.ofFields x.fields) := by
    rw [← List.forall₂_eq_eq_eq, List.forall₂_map_left_iff, List.forall₂_map_right_iff]
    exact h.bubbles.imp fun x y hxy => bubbleOf_alike hxy
  rw [← bubbles_containerOf hc "", ← bubbles_containerOf hd ""] at hbubbles
  rcases container_cases hc with ⟨hv, rfl⟩ | ⟨hv, rfl⟩ <;>
    rcases container_cases hd with ⟨hw, rfl⟩ | ⟨hw, rfl⟩
  · exact congrArg Tree.Container.bubble (List.cons.inj hbubbles).1
  · rw [hv, hw] at htype
    exact absurd htype (by decide)
  · rw [hv, hw] at htype
    exact absurd htype (by decide)
  · exact congrArg (fun bs => Tree.Container.carousel (carousel bs)) hbubbles

theorem json_result_of_contents {s : String} {c : Json} {k : Container}
    (hs : Message.altTextOf v = .ok s) (hf : IsFlex v) (hc : v.field? "contents" = some c)
    (hk : Container.ofJson c = .ok k) : (json .skip v).result = .ok ⟨s, containerOf k⟩ := by
  have hm : Message.ofJson v = .ok ⟨s, k⟩ := by
    rw [Message.ofJson_of_altTextOf hs hf, hc, Option.getD_some, hk]
    rfl
  exact json_skip_result hm

/-- **Dropped content.** If a document passes the gates, then so does every document that differs
from it in dropped content only, and skipping that content resolves both to one tree. -/
theorem json_alike (v w : Json) (ha : AltTextIsText v) (hf : IsFlex v) (hc : HoldsContainer v)
    (h : MessageAlike v w) :
    ∃ t, (json .skip v).result = .ok t ∧ (json .skip w).result = .ok t := by
  obtain ⟨c, d, hvc, hwd, halike⟩ := h.contents
  obtain ⟨s, hs⟩ := Message.exists_altTextOf ha
  obtain ⟨k, hk⟩ : ∃ k, Container.ofJson c = .ok k := by
    obtain ⟨c', hvc', hcontainer⟩ := hc
    cases hvc.symm.trans hvc'
    exact Container.exists_ofJson hcontainer
  obtain ⟨l, hl⟩ : ∃ l, Container.ofJson d = .ok l := by
    have hd : d.field? "type" = some (.string "bubble") ∨
        d.field? "type" = some (.string "carousel") := by
      rw [← halike.type, ← Json.typeText?_eq_some_iff, ← Json.typeText?_eq_some_iff]
      exact (container_cases hk).imp And.left And.left
    exact Container.exists_ofJson ⟨hd.elim isObject_of_field isObject_of_field, hd⟩
  have hs' : Message.altTextOf w = .ok s := by
    rw [← hs]
    unfold Message.altTextOf
    rw [h.same "altText" (by decide)]
  have hf' : IsFlex w := ⟨isObject_of_field hwd, (h.same "type" (by decide)).symm.trans hf.2⟩
  refine ⟨⟨s, containerOf k⟩, json_result_of_contents hs hf hvc hk, ?_⟩
  rw [containerOf_alike halike hk hl]
  exact json_result_of_contents hs' hf' hwd hl

/-- A bubble in a carousel with room for dropped content: entries before it, further sections, the
items of a text, an item of its body, and the alternative content of a video. -/
def littered (before : List Json) (sections : Fields) (inText : List Json) (item : Json)
    (alt : Fields) : Json :=
  let typed (kind : String) (fs : Fields) : Json := .object (("type", .string kind) :: fs)
  let body := typed "box" [("spacing", .string "md"), ("contents", .array [
    typed "text" [("contents", .array inText)], item, typed "video" alt])]
  typed "flex" [("contents", typed "carousel" [
    ("contents", .array (before ++ [typed "bubble" (sections ++ [("body", body)])]))])]

/-- A span among other items, a hero and alternative content of no kind, and a table in a box. -/
def littered₁ : Json :=
  littered [] [("hero", .object [])] [.null, .object [("type", .string "span")]]
    (.object [("type", .string "table")]) [("altContent", .bool true)]

/-- The same span among other items, a footer that is no box, and an array in a box. -/
def littered₂ : Json :=
  littered [.null] [("footer", .object [("type", .string "text")])]
    [.object [("type", .string "span")], .array []] (.array [.null]) []

theorem littered_alike : MessageAlike littered₁ littered₂ := by
  refine ⟨.of_filter rfl, _, _, rfl, rfl, rfl, .cons ⟨.of_filter rfl, fun name hname => ?_, ?_⟩ .nil⟩
  · simp only [boxedSections, List.mem_cons, List.not_mem_nil, or_false] at hname
    rcases hname with rfl | rfl | rfl
    · exact .dropped (by decide) (by decide)
    · refine .alike (.box rfl (.of_filter rfl) rfl ?_)
      rintro (_ | _ | _ | i) x y hx hy <;> cases hx <;> cases hy
      · exact .text rfl (.of_filter rfl) rfl
      · exact .unknown (by decide) (by decide)
      · exact .droppedAlt rfl (.of_filter rfl) (by decide) (by decide)
    · exact .dropped (by decide) (by decide)
  · exact .dropped (by decide) (by decide)

theorem json_alike_littered :
    ∃ t, (json .skip littered₁).result = .ok t ∧ (json .skip littered₂).result = .ok t :=
  json_alike littered₁ littered₂ (fun _ ha => nomatch ha) ⟨rfl, rfl⟩ ⟨_, rfl, rfl, .inr rfl⟩
    littered_alike

end Resolve

end FlexLayout
