import FlexLayout.Proofs.Json.Canonical
import FlexLayout.Proofs.Resolve.Change

/-!
# Attributes that count as absent

An attribute that cannot be read from its value is as good as left out, wherever in a document its
object stands, and so is a field that is no attribute. Removing it changes neither what is logged
nor what comes out (`json_removal`).
-/

namespace FlexLayout

namespace Document

open Json (withoutField)
open Parts (Once)

/-! ## Objects of a document -/

/-- The value `x` stands in the container `c` as an object with these attributes, and the path
leads to it from `c`. Styles may also be an array with one item for each section. -/
inductive ObjectAt (c : Json) : Path → Json → List Attribute → Prop where
  | carousel : c.typeText? = some "carousel" → ObjectAt c [] c Attribute.ofCarousel
  | bubble {path : Path} {b : Json} : BubbleAt c path b → ObjectAt c path b Attribute.ofBubble
  | component {site : Site} {path : Path} {w : Json} : Located c site path w → site ≠ .entry →
    ObjectAt c path w (Attribute.ofComponent w)
  | styles {path : Path} {b s : Json} : BubbleAt c path b → b.field? "styles" = some s →
    ObjectAt c (path.field "styles") s Attribute.ofStyles
  | style {path : Path} {b s w : Json} {a : Attribute} : BubbleAt c path b →
    b.field? "styles" = some s → a ∈ Attribute.ofStyles → s.field? a.name = some w →
      ObjectAt c ((path.field "styles").field a.name) w Attribute.ofStyle
  | styleItem {path : Path} {b w : Json} {items : List Json} {i : Nat} : BubbleAt c path b →
    b.field? "styles" = some (.array items) → items[i]? = some w →
      ObjectAt c (path ++ [⟨"styles", some i⟩]) w Attribute.ofStyle

/-- A field counts as absent if no attribute has its name, or if the attribute that does cannot be
read from it. -/
def CountsAsAbsent (as : List Attribute) (x : Json) (name : String) : Prop :=
  ∀ a ∈ as, a.name = name → ∀ w, x.field? name = some w → w = .null ∨ a.read w = none

variable {c x : Json} {path : Path} {as : List Attribute} {name : String}

theorem CountsAsAbsent.of_unreadable (hnodup : (as.map Attribute.name).Nodup) {a : Attribute}
    (ha : a ∈ as) (h : ∀ w, x.field? a.name = some w → w = .null ∨ a.read w = none) :
    CountsAsAbsent as x a.name := by
  intro b hb hname w hw
  rw [List.inj_on_of_nodup_map hnodup hb ha hname]
  exact h w hw

theorem ObjectAt.at? (h : ObjectAt c path x as) : c.at? path = some x := by
  cases h with
  | carousel _ => rfl
  | bubble hb => exact hb.at?
  | component hw _ => exact hw.at?
  | styles hb hs =>
    rw [Json.at?_field, hb.at?]
    exact hs
  | style hb hs _ hw =>
    rw [Json.at?_field, Json.at?_field, hb.at?, Option.bind_some, hs]
    exact hw
  | @styleItem _ b _ items i hb hs hw =>
    rw [Json.at?_append, hb.at?]
    show ((b.field? "styles").bind (·.item? i)).bind (fun w => some w) = _
    rw [hs, Option.bind_some, Option.bind_fun_some]
    exact hw

/-- A container is read as before without a field that counts as absent. -/
theorem ObjectAt.ofJson_withoutField (h : ObjectAt c path x as) (hname : name ≠ "type")
    (honce : Once x.fields name) (habsent : CountsAsAbsent as x name) :
    Container.ofJson (c.change (withoutField name) path) = Container.ofJson c := by
  have hagree : Agree as (x.withoutField name).fields x.fields := .withoutField habsent
  have htype := Json.field?_withoutField_of_ne hname.symm x
  have hstyles : Attribute.styles ∈ Attribute.ofBubble := by simp [Attribute.ofBubble]
  cases h with
  | carousel hc =>
    refine Container.ofJson_congr htype (fun hbubble => ?_) fun _ => hagree
    rw [hc] at hbubble
    exact absurd hbubble (by decide)
  | bubble hb => exact hb.ofJson_mapFields htype hagree
  | component hw hne => exact hw.ofJson_change hne (Component.read?_mapFields htype hagree)
  | styles hb hs =>
    have hread := Styles.ofJson?_mapFields (once_withoutField honce) hagree
    exact hb.ofJson_changeStep hstyles hs hread
  | @style path b s _ a hb hs ha hx =>
    obtain ⟨k, rfl⟩ : ∃ k, a = .color k := by
      simp only [Attribute.ofStyles, List.mem_cons, List.not_mem_nil, or_false] at ha
      rcases ha with rfl | rfl | rfl | rfl <;> exact ⟨_, rfl⟩
    have hcolor := Styles.color?_mapFields (once_withoutField honce) hagree
    rw [Path.field, Json.change_append]
    exact hb.ofJson_changeStep hstyles hs (Styles.ofJson?_mapFields (once_changeField _ _)
      (.changeStep Attribute.nodup_ofStyles ha hx hcolor))
  | styleItem hb hs hx =>
    have hcolor := Styles.color?_mapFields (once_withoutField honce) hagree
    exact hb.ofJson_changeStep hstyles hs (Styles.ofJson?_changeItem hx hcolor)

/-- A message is read as before without a field that counts as absent. -/
theorem ObjectAt.message_withoutField {v : Json} (hc : v.field? "contents" = some c)
    (h : ObjectAt c path x as) (hname : name ≠ "type") (honce : Once x.fields name)
    (habsent : CountsAsAbsent as x name) :
    Message.ofJson (v.change (withoutField name) (Resolve.contentsPath ++ path)) =
      Message.ofJson v :=
  Message.ofJson_change hc (h.ofJson_withoutField hname honce habsent)

theorem ObjectAt.at?_contents {v : Json} (hc : v.field? "contents" = some c)
    (h : ObjectAt c path x as) : v.at? (Resolve.contentsPath ++ path) = some x := by
  rw [Json.at?_append]
  show ((v.field? "contents").bind fun w => some w).bind (·.at? path) = _
  rw [Option.bind_fun_some, hc]
  exact h.at?

end Document

/-! ## Resolving without the field -/

namespace Resolve

open FlexLayout.Document (Attribute ObjectAt CountsAsAbsent)
open Json (withoutField)

variable {v c x : Json} {path : Path} {as : List Attribute} {name : String}

/-- **Absent attributes.** Take any carousel, bubble, component or styles of a document, at any
depth. A field other than its type that counts as absent can be removed: the document without the
field has the same log and the same result, be it a tree or a failure. A value has to hold the
field once at most. Of a text nothing is asked, since no object read from one repeats a name. -/
theorem json_removal (hc : v.field? "contents" = some c) (hx : ObjectAt c path x as)
    (hname : name ≠ "type") (habsent : CountsAsAbsent as x name) (p : Policy) :
    (Parts.Once x.fields name →
      (v.change (withoutField name) (contentsPath ++ path)).at? (contentsPath ++ path) =
          some (x.withoutField name) ∧
        json p (v.change (withoutField name) (contentsPath ++ path)) = json p v) ∧
      ∀ s s', Json.read? s = some v →
        Json.read? s' = some (v.change (withoutField name) (contentsPath ++ path)) →
          text? p s' = text? p s := by
  have hjson (honce : Parts.Once x.fields name) :
      json p (v.change (withoutField name) (contentsPath ++ path)) = json p v := by
    unfold json
    rw [hx.message_withoutField hc hname honce habsent]
  refine ⟨fun honce => ⟨?_, hjson honce⟩, fun s s' hs hs' => ?_⟩
  · rw [Json.at?_change, hx.at?_contents hc]
    rfl
  · have honce := (Json.sortedFields_of_read? hs (hx.at?_contents hc)).once name
    unfold text?
    rw [hs, hs']
    exact hjson honce

/-- A carousel in which a text has a word for the number of its lines. -/
theorem json_removal_maxLines : ∃ path x, Document.mixed.at? path = some x ∧
    x.field? "maxLines" = some (.string "two") ∧
    (Document.mixed.change (withoutField "maxLines") path).at? path =
      some (x.withoutField "maxLines") ∧
    json .skip (Document.mixed.change (withoutField "maxLines") path) =
      json .skip Document.mixed := by
  let x : Json := .object [("type", .string "text"), ("maxLines", .string "two"),
    ("contents", .array [.null, .object [("type", .string "span")]])]
  let c : Json := (Document.mixed.field? "contents").getD .null
  have hc : Document.mixed.field? "contents" = some c := rfl
  have hx : ObjectAt c (((Path.item [] 0).field "body").item 0) x (Attribute.ofKind .text) :=
    .component (.boxItem (.boxed (.entry rfl rfl rfl) (by decide) rfl) (by decide) rfl rfl)
      (by decide)
  have habsent : CountsAsAbsent (Attribute.ofKind .text) x "maxLines" := by
    refine .of_unreadable (a := .natural "maxLines") (Attribute.nodup_ofKind _)
      (by simp [Attribute.ofKind]) fun w hw => .inr ?_
    cases hw
    rfl
  exact ⟨_, x, rfl, rfl, (json_removal hc hx (by decide) habsent .skip).1 (by decide)⟩

end Resolve

end FlexLayout
