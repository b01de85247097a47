import FlexLayout.Proofs.Document.Visit
import FlexLayout.Proofs.Resolve.Address
import FlexLayout.Proofs.Resolve.Dropped
import Mathlib.Data.List.Perm.Basic

/-!
# A census of the walk

What is met on the walk through a document and kept is what stands in its tree. The values that
become nodes or spans are the nodes and spans of the tree, kind by kind; those met as spans are the
spans inside texts, and those met as roots are the headers, bodies and footers that are there.
-/

namespace FlexLayout

open FlexLayout.Document (Component Visit boxedSections)
open FlexLayout.Tree (Node Child)

/-! ## Spans and sections of a tree -/

namespace Tree

namespace Node

mutual

/-- The spans inside the texts of a node and all below it. -/
def inlineSpans : Node → List Span
  | box _ children => childInlineSpans children
  | text t => t.spans
  | video _ (some alt) => inlineSpans alt
  | _ => []
termination_by structural n => n

def childInlineSpans : List (Spaced Node) → List Span
  | [] => []
  | ⟨_, n⟩ :: rest => inlineSpans n ++ childInlineSpans rest
termination_by structural children => children

end

theorem childInlineSpans_cons (c : Child) (rest : List Child) :
    childInlineSpans (c :: rest) = c.node.inlineSpans ++ childInlineSpans rest := by
  obtain ⟨m, n⟩ := c
  rw [childInlineSpans]

end Node

namespace Bubble

/-- The headers, bodies and footers that are there. -/
def boxed (b : Bubble) : List (String × Section) :=
  b.sections.filter fun (name, _) => name ∈ boxedSections

/-- The spans inside the texts of all sections. -/
def inlineSpans (b : Bubble) : List Span := b.sections.flatMap fun (_, s) => s.content.inlineSpans

theorem length_boxed (b : Bubble) :
    b.boxed.length = b.header.toList.length + b.body.toList.length + b.footer.toList.length := by
  unfold boxed sections
  rcases b.header with _ | header <;> rcases b.hero with _ | hero <;>
    rcases b.body with _ | body <;> rcases b.footer with _ | footer <;> rfl

end Bubble

end Tree

/-! ## Parts of the walk -/

namespace Document.Visit

/-- The kind of a value that the tree has a node or a span for. -/
def held? (x : Visit) : Option String :=
  match x.fate with
  | .node | .root | .inline => some x.kind
  | .bubble | .ignored | .dropped => none

/-- The span of a value inside a text. -/
def inline? (x : Visit) : Option Tree.Span :=
  if x.fate = .inline then some (Resolve.span (.ofFields x.value.fields)) else none

/-- The value of a box that fills a header, body or footer. -/
def root? (x : Visit) : Option Json := if x.fate = .root then some x.value else none

/-- The value of a bubble. -/
def bubble? (x : Visit) : Option Json := if x.fate = .bubble then some x.value else none

end Document.Visit

namespace Json

variable {β : Type} {φ : Visit → Option β}

theorem filterMap_visits (path : Path) (v : Json) :
    (v.visits path).filterMap φ = (v.innerVisits path).filterMap φ ++
      (φ (v.met (if v.kind?.isSome then .node else .dropped) path)).toList := by
  rw [visits_eq, List.filterMap_append]
  rfl

/-- The parts of a text are found among its contents. -/
theorem filterMap_textVisits {ψ : Json → Option β}
    (h : ∀ w path, φ (w.met w.spanFate path) = ψ w) (path : Path) (v : Json) :
    (v.textVisits path).filterMap φ = v.contents.filterMap ψ := by
  have hφ : φ ∘ (fun a : Json × Nat => a.1.met a.1.spanFate (path.item a.2)) = ψ ∘ Prod.fst :=
    funext fun a => h a.1 _
  unfold textVisits
  rw [List.filterMap_map]
  show v.contents.zipIdx.filterMap (φ ∘ fun a => a.1.met a.1.spanFate (path.item a.2)) = _
  rw [hφ, ← List.filterMap_map, List.zipIdx_map_fst]

/-- The parts of a box are those of its items. -/
theorem perm_items {ψ : Json → List β} {items : List Json}
    (h : ∀ w ∈ items, ∀ path, ((w.visits path).filterMap φ).Perm (ψ w)) (path : Path) :
    ((items.zipIdx.flatMap fun (w, i) => w.visits (path.item i)).filterMap φ).Perm
      (items.flatMap ψ) := by
  have hitems : items.flatMap ψ = items.zipIdx.flatMap fun a => ψ a.1 := by
    rw [← List.flatMap_map Prod.fst ψ, List.zipIdx_map_fst]
  rw [List.filterMap_flatMap, hitems]
  apply List.Perm.flatMap_left
  rintro ⟨w, i⟩ hw
  exact h w (List.mem_of_getElem? (List.mk_mem_zipIdx_iff_getElem?.mp hw)) _

/-! ## Kinds -/

/-- The spans of a text are its parts that are kept. -/
theorem held_textVisits (path : Path) (v : Json) :
    (v.textVisits path).filterMap Visit.held? =
      (v.spanContents.map fun _ => Kind.span).map Kind.word := by
  have h : ∀ w path, (met w w.spanFate path).held? =
      if w.kind? = some .span then some Kind.span.word else none := by
    intro w path
    unfold met spanFate
    rcases hk : w.kind? with _ | k
    · rfl
    · rw [Document.typeText_of_kind hk]
      cases k <;> rfl
  rw [filterMap_textVisits h, List.map_map, ← List.filterMap_eq_map, spanContents,
    List.filterMap_filter]
  refine List.filterMap_congr fun w _ => ?_
  simp only [decide_eq_true_eq]
  rfl

theorem held_node {v : Json} {k : Kind} (hk : v.kind? = some k) (path : Path) :
    (v.met .node path).held? = some k.word := by
  unfold met
  rw [Document.typeText_of_kind hk]
  rfl

/-- What is kept of a component are its positions, kind by kind. -/
theorem perm_positions (path : Path) (v : Json) :
    ((v.visits path).filterMap Visit.held?).Perm (v.positions.map Kind.word) := by
  induction v using position_induction generalizing path with
  | step v hcontents halt =>
    rw [filterMap_visits, positions_eq]
    unfold innerVisits
    rcases hk : v.kind? with _ | k
    · exact List.Perm.refl _
    · rw [Option.isSome_some, if_pos rfl, held_node hk]
      cases k with
      | box =>
        refine (List.perm_append_singleton _ _).trans (List.Perm.cons _ ?_)
        rw [List.map_flatMap]
        exact perm_items (fun w hw path => hcontents w hw path) path
      | text =>
        rw [held_textVisits]
        exact List.perm_append_singleton _ _
      | video =>
        refine (List.perm_append_singleton _ _).trans (List.Perm.cons _ ?_)
        rcases hx : v.slot? "altContent" with _ | x
        · exact List.Perm.refl _
        · exact halt x hx _
      | _ => exact List.Perm.refl _

theorem perm_slotPositions (path : Path) (slot : Option Json) :
    ((slotVisits path slot).filterMap Visit.held?).Perm ((heroPositions slot).map Kind.word) := by
  rcases slot with _ | w
  · exact List.Perm.refl _
  · exact perm_positions path w

/-- A box is kept at the root of a section as it is elsewhere. -/
theorem perm_boxedPositions (path : Path) (slot : Option Json) :
    ((boxedVisits path slot).filterMap Visit.held?).Perm ((boxedPositions slot).map Kind.word) := by
  rcases slot with _ | w
  · exact List.Perm.refl _
  · unfold boxedVisits boxedPositions
    dsimp only
    by_cases hk : w.kind? = some .box
    · have hw := perm_positions path w
      rw [filterMap_visits, hk] at hw
      rw [if_pos hk, if_pos hk, List.filterMap_append]
      exact hw
    · rw [if_neg hk, if_neg hk]
      exact List.Perm.refl _

theorem perm_bubblePositions (path : Path) (v : Json) :
    ((v.bubbleVisits path).filterMap Visit.held?).Perm (v.bubblePositions.map Kind.word) := by
  rw [bubbleVisits_eq, bubblePositions, List.append_assoc, List.append_assoc]
  rw [List.filterMap_cons_none rfl]
  simp only [List.filterMap_append, List.map_append]
  exact (perm_boxedPositions _ _).append ((perm_slotPositions _ _).append
    ((perm_boxedPositions _ _).append (perm_boxedPositions _ _)))

end Json

/-! ## Spans inside texts -/

namespace Resolve

open FlexLayout.Json (met spanFate)

theorem childInlineSpans_childrenOf (axis : Layout) (spacing : Option String) (i : Nat)
    (ws : List Json) :
    Node.childInlineSpans (childrenOf axis spacing i (ws.map .ofJson)) =
      ws.flatMap fun w => (nodeOf axis (.ofJson w)).elim [] Node.inlineSpans := by
  induction ws generalizing i with
  | nil => rfl
  | cons w rest ih =>
    rw [List.map_cons, childrenOf, List.flatMap_cons, ← ih (i + 1)]
    rcases nodeOf axis (.ofJson w) with _ | n
    · rfl
    · exact Node.childInlineSpans_cons _ _

theorem inlineSpans_video (v : Tree.Video) (alt : Option Node) :
    (Node.video v alt).inlineSpans = alt.elim [] Node.inlineSpans := by
  cases alt with
  | none => rfl
  | some n => rw [Node.inlineSpans, Option.elim_some]

theorem inline_textVisits (path : Path) (v : Json) :
    (v.textVisits path).filterMap Visit.inline? = spansOf (v.contents.map .ofJson) := by
  have h : ∀ w path, (met w (spanFate w) path).inline? =
      if w.kind? = some .span then some (span (.ofFields w.fields)) else none := by
    intro w path
    unfold met spanFate
    rcases w.kind? with _ | k
    · rfl
    · cases k <;> rfl
  rw [Json.filterMap_textVisits h, spansOf_map_ofJson, ← List.filterMap_eq_map,
    List.filterMap_filter]
  refine List.filterMap_congr fun w _ => ?_
  simp only [decide_eq_true_eq]
  rfl

/-- The node of a value has the spans that are met in the value. -/
theorem perm_inlineSpans (axis : Layout) (path : Path) (v : Json) :
    ((v.visits path).filterMap Visit.inline?).Perm
      ((nodeOf axis (.ofJson v)).elim [] Node.inlineSpans) := by
  induction v using Json.position_induction generalizing axis path with
  | step v hcontents halt =>
    have hself (fate : Document.Fate) (h : fate ≠ .inline) : (v.met fate path).inline? = none :=
      if_neg h
    rw [Json.filterMap_visits]
    unfold Json.innerVisits
    rcases hk : v.kind? with _ | k
    · rw [Component.ofJson_eq, hk]
      exact List.Perm.refl _
    · rw [Option.isSome_some, if_pos rfl, hself .node (by decide), Option.toList_none,
        List.append_nil]
      cases k with
      | box =>
        rw [nodeOf_ofJson_box hk, Option.elim_some, Node.inlineSpans, childInlineSpans_childrenOf]
        exact Json.perm_items (fun w hw path => hcontents w hw _ path) path
      | text =>
        rw [Component.ofJson_text hk, nodeOf, Option.elim_some, Node.inlineSpans]
        dsimp only
        rw [inline_textVisits]
        exact List.Perm.refl _
      | video =>
        rw [nodeOf_ofJson_video hk, Option.elim_some, inlineSpans_video]
        rcases hx : v.slot? "altContent" with _ | x
        · exact List.Perm.refl _
        · exact halt x hx .vertical _
      | _ =>
        rw [Component.ofJson_eq, hk]
        exact List.Perm.refl _

/-- The spans in a section that may be missing. -/
def sectionSpans (s : Option Tree.Section) : List Tree.Span :=
  s.elim [] fun sec => sec.content.inlineSpans

theorem perm_heroOf (color : Option String) (path : Path) (slot : Option Json) :
    ((Json.slotVisits path slot).filterMap Visit.inline?).Perm
      (sectionSpans (heroOf color (slot.map .ofJson))) := by
  rcases slot with _ | w
  · exact List.Perm.refl _
  · unfold sectionSpans heroOf
    rw [Option.map_some, Option.bind_some, Option.elim_map]
    exact perm_inlineSpans .vertical path w

theorem perm_boxedOf (size : BubbleSize) (hasFooter : Bool) (s : BoxedSection)
    (color : Option String) (path : Path) (slot : Option Json) :
    ((Json.boxedVisits path slot).filterMap Visit.inline?).Perm
      (sectionSpans (boxedOf size hasFooter s color (slot.map .ofJson))) := by
  rcases slot with _ | w
  · exact List.Perm.refl _
  · unfold Json.boxedVisits
    rw [Option.map_some]
    dsimp only
    by_cases hk : w.kind? = some .box
    · have hw := perm_inlineSpans .vertical path w
      -- the root of a section differs from the node of its box in the padding only
      rw [Json.filterMap_visits, nodeOf_ofJson_box hk, hk, Option.elim_some, Node.inlineSpans] at hw
      rw [if_pos hk, List.filterMap_append, Component.ofJson_box hk]
      unfold sectionSpans boxedOf
      rw [Option.elim_some, Node.inlineSpans]
      exact hw
    · rw [if_neg hk, boxedOf_of_not_isBox (isBox_eq_false hk)]
      exact List.Perm.refl _

/-- A header, body or footer is there exactly if a box is met at its root. -/
theorem length_boxedOf (size : BubbleSize) (hasFooter : Bool) (s : BoxedSection)
    (color : Option String) (path : Path) (slot : Option Json) :
    ((Json.boxedVisits path slot).filterMap Visit.root?).length =
      (boxedOf size hasFooter s color (slot.map .ofJson)).toList.length := by
  rcases slot with _ | w
  · rfl
  · unfold Json.boxedVisits
    rw [Option.map_some]
    dsimp only
    by_cases hk : w.kind? = some .box
    · have hinner : (w.innerVisits path).filterMap Visit.root? = [] := by
        have hvisits : (w.visits path).filterMap Visit.root? = [] :=
          List.filterMap_eq_nil_iff.mpr fun x hx => if_neg (Json.fate_of_mem_visits hx).2
        rw [Json.filterMap_visits, List.append_eq_nil_iff] at hvisits
        exact hvisits.1
      rw [if_pos hk, List.filterMap_append, hinner, Component.ofJson_box hk]
      rfl
    · rw [if_neg hk, boxedOf_of_not_isBox (isBox_eq_false hk)]
      rfl

/-! ## Bubbles -/

theorem inlineSpans_sections (b : Tree.Bubble) :
    b.inlineSpans = sectionSpans b.header ++ (sectionSpans b.hero ++ (sectionSpans b.body
      ++ sectionSpans b.footer)) := by
  unfold Tree.Bubble.inlineSpans Tree.Bubble.sections
  rcases b.header with _ | header <;> rcases b.hero with _ | hero <;>
    rcases b.body with _ | body <;> rcases b.footer with _ | footer <;>
    simp [sectionSpans]

theorem perm_bubbleOf (path : Path) (v : Json) :
    ((v.bubbleVisits path).filterMap Visit.inline?).Perm
      (bubbleOf (.ofFields v.fields)).inlineSpans := by
  rw [Json.bubbleVisits_eq, List.filterMap_cons_none rfl, inlineSpans_sections]
  simp only [List.filterMap_append, bubbleOf, bubbleWith, Document.Bubble.ofFields,
    Document.sectionOf_eq]
  exact (perm_boxedOf _ _ _ _ _ _).append ((perm_heroOf _ _ _).append
    ((perm_boxedOf _ _ _ _ _ _).append (perm_boxedOf _ _ _ _ _ _)))

theorem length_bubbleOf (path : Path) (v : Json) :
    ((v.bubbleVisits path).filterMap Visit.root?).length =
      (bubbleOf (.ofFields v.fields)).boxed.length := by
  have hhero : (Json.slotVisits (path.field "hero") (v.slot? "hero")).filterMap Visit.root? = [] := by
    rcases v.slot? "hero" with _ | w
    · rfl
    · exact List.filterMap_eq_nil_iff.mpr fun x hx => if_neg (Json.fate_of_mem_visits hx).2
  rw [Json.bubbleVisits_eq, List.filterMap_cons_none rfl, Tree.Bubble.length_boxed]
  simp only [List.filterMap_append, List.length_append, hhero, List.length_nil, bubbleOf,
    bubbleWith, Document.Bubble.ofFields, Document.sectionOf_eq]
  rw [← length_boxedOf _ _ _ _ (path.field "header"), ← length_boxedOf _ _ _ _ (path.field "body"),
    ← length_boxedOf _ _ _ _ (path.field "footer")]
  omega

/-! ## Containers -/

/-- What is found in the trees of all bubbles is found on the walk. -/
theorem perm_visited {β : Type} {φ : Visit → Option β} {ψ : Json → List β}
    (hdropped : ∀ x : Visit, x.fate = .dropped → φ x = none)
    (h : ∀ path (w : Json), ((w.bubbleVisits path).filterMap φ).Perm (ψ w)) (c : Json) :
    (c.visited.filterMap φ).Perm (c.bubbles.flatMap ψ) := by
  rw [Json.filterMap_visited hdropped, ← Json.map_snd_placedBubbles, List.flatMap_map]
  apply List.Perm.flatMap_left
  exact fun b _ => h b.1 b.2

/-- What is kept of a container is what its bubbles have positions for, kind by kind. -/
theorem perm_held (c : Json) :
    (c.visited.filterMap Visit.held?).Perm
      ((c.bubbles.flatMap Json.bubblePositions).map Kind.word) := by
  rw [List.map_flatMap]
  exact perm_visited (fun x hx => by rw [Visit.held?, hx]) Json.perm_bubblePositions c

end Resolve

end FlexLayout
