import FlexLayout.Proofs.Document.PathText
import FlexLayout.Proofs.Document.Position

/-!
# Locations in a document

Where a component, a bubble or an entry of a carousel can stand, with the path that leads to it
from the container of the document. A path leads to one value only (`Located.at?`), and it can be
read from its text, because no field on the way holds a dot or a bracket in its name
(`Located.clear`).
-/

namespace FlexLayout

/-! ## Steps -/

namespace Json

theorem at?_field (v : Json) (p : Path) (name : String) :
    v.at? (p.field name) = (v.at? p).bind (·.field? name) := by
  rw [Path.field, at?_append]
  refine congrArg (v.at? p).bind (funext fun w => ?_)
  show (w.field? name).bind (fun x => some x) = _
  rw [Option.bind_fun_some]

/-- An item of the contents is an item of the array in the field. -/
theorem getElem?_contents (v : Json) (i : Nat) :
    v.contents[i]? = (v.field? "contents").bind (·.item? i) := by
  unfold contents item?
  rcases v.field? "contents" with _ | x
  · rfl
  · cases x <;> rfl

theorem at?_item (v : Json) (p : Path) (i : Nat) :
    v.at? (p.item i) = (v.at? p).bind (·.contents[i]?) := by
  rw [Path.item, at?_append]
  refine congrArg (v.at? p).bind (funext fun w => ?_)
  show ((w.field? "contents").bind (·.item? i)).bind (fun x => some x) = _
  rw [Option.bind_fun_some, getElem?_contents]

end Json

namespace Path

theorem clear_field {p : Path} (h : ∀ s ∈ p, s.Clear) {name : String}
    (hname : (Segment.mk name none).Clear) : ∀ s ∈ p.field name, s.Clear := by
  intro s hs
  rcases List.mem_append.mp hs with hs | hs
  · exact h s hs
  · rw [List.mem_singleton.mp hs]
    exact hname

theorem clear_item {p : Path} (h : ∀ s ∈ p, s.Clear) (i : Nat) : ∀ s ∈ p.item i, s.Clear := by
  have hname : '.' ∉ "contents".toList ∧ '[' ∉ "contents".toList := by decide
  intro s hs
  rcases List.mem_append.mp hs with hs | hs
  · exact h s hs
  · rw [List.mem_singleton.mp hs]
    exact hname

end Path

/-! ## Locations -/

namespace Document

/-- The sections that take a box only. -/
def boxedSections : List String := ["header", "body", "footer"]

/-- A bubble of the container `c` and the path to it: the container itself, or an entry of a
carousel that is a bubble. -/
inductive BubbleAt (c : Json) : Path → Json → Prop where
  | single : c.typeText? = some "bubble" → BubbleAt c [] c
  | entry {i : Nat} {e : Json} : c.typeText? = some "carousel" → c.contents[i]? = some e →
    e.typeText? = some "bubble" → BubbleAt c (Path.item [] i) e

/-- The places that a value can stand in. -/
inductive Site where
  /-- An entry of a carousel. -/
  | entry
  /-- A header, body or footer. -/
  | boxed
  | hero
  /-- The alternative content of a video. -/
  | alt
  | boxItem
  | textItem
  deriving DecidableEq, Repr

/-- The value `w` stands in the container `c` at a site, and the path leads to it from `c`. -/
inductive Located (c : Json) : Site → Path → Json → Prop where
  | entry {i : Nat} {e : Json} : c.typeText? = some "carousel" → c.contents[i]? = some e →
    Located c .entry (Path.item [] i) e
  | boxed {path : Path} {b w : Json} {name : String} : BubbleAt c path b →
    name ∈ boxedSections → b.slot? name = some w → Located c .boxed (path.field name) w
  | hero {path : Path} {b w : Json} : BubbleAt c path b → b.slot? "hero" = some w →
    Located c .hero (path.field "hero") w
  | boxItem {site : Site} {path : Path} {w x : Json} {i : Nat} : Located c site path w →
    site ≠ .entry → w.kind? = some .box → w.contents[i]? = some x →
      Located c .boxItem (path.item i) x
  | textItem {site : Site} {path : Path} {w x : Json} {i : Nat} : Located c site path w →
    site ≠ .entry → w.kind? = some .text → w.contents[i]? = some x →
      Located c .textItem (path.item i) x
  | alt {site : Site} {path : Path} {w x : Json} : Located c site path w → site ≠ .entry →
    w.kind? = some .video → w.slot? "altContent" = some x →
      Located c .alt (path.field "altContent") x

variable {c w : Json} {site : Site} {path : Path}

theorem BubbleAt.at? {b : Json} (h : BubbleAt c path b) : c.at? path = some b := by
  cases h with
  | single _ => rfl
  | entry _ he _ =>
    rw [Json.at?_item]
    exact he

theorem BubbleAt.clear {b : Json} (h : BubbleAt c path b) : ∀ s ∈ path, s.Clear := by
  have hnil : ∀ s ∈ ([] : Path), s.Clear := fun s hs => by cases hs
  cases h with
  | single _ => exact hnil
  | entry _ _ _ => exact Path.clear_item hnil _

/-- The path leads to the value. -/
theorem Located.at? (h : Located c site path w) : c.at? path = some w := by
  induction h with
  | entry _ he =>
    rw [Json.at?_item]
    exact he
  | boxed hb _ hw | hero hb hw =>
    rw [Json.at?_field, hb.at?]
    exact Json.field_of_slot hw
  | boxItem _ _ _ hx ih | textItem _ _ _ hx ih =>
    rw [Json.at?_item, ih]
    exact hx
  | alt _ _ _ hx ih =>
    rw [Json.at?_field, ih]
    exact Json.field_of_slot hx

theorem Located.ne_nil (h : Located c site path w) : path ≠ [] := by
  cases h <;> exact List.append_ne_nil_of_right_ne_nil _ (List.cons_ne_nil _ _)

/-- The names on the path keep clear of the marks of its text. -/
theorem Located.clear (h : Located c site path w) : ∀ s ∈ path, s.Clear := by
  have hboxed : ∀ name ∈ boxedSections, (Segment.mk name none).Clear := by decide
  induction h with
  | entry _ _ => exact Path.clear_item (fun s hs => by cases hs) _
  | boxed hb hname _ => exact Path.clear_field hb.clear (hboxed _ hname)
  | hero hb _ => exact Path.clear_field hb.clear (by decide)
  | boxItem _ _ _ _ ih | textItem _ _ _ _ ih => exact Path.clear_item ih _
  | alt _ _ _ _ ih => exact Path.clear_field ih (by decide)

end Document

end FlexLayout
