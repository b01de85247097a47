import FlexLayout.Proofs.Resolve.Correspondence

/-!
# Kinds in a document and in its tree

The kinds of all nodes of a tree are the kinds of all positions of its document, in their order.
With the correspondence of the positions themselves this is `json_stands`: a tree holds what its
document holds, each part once and in its place.
-/

namespace FlexLayout.Resolve

open FlexLayout.Document (Component)
open FlexLayout.Tree (Node Child)

/-! ## Nodes -/

theorem childKinds_cons (c : Child) (rest : List Child) :
    Node.childKinds (c :: rest) = c.node.kinds ++ Node.childKinds rest := by
  obtain ⟨m, n⟩ := c
  rw [Node.childKinds]

/-- The kinds below a box, if those of every item are known. -/
theorem childKinds_childrenOf {ws : List Json}
    (h : ∀ w ∈ ws, ∀ axis, (nodeOf axis (.ofJson w)).elim [] Node.kinds = w.positions)
    (axis : Layout) (spacing : Option String) (i : Nat) :
    Node.childKinds (childrenOf axis spacing i (ws.map .ofJson)) =
      ws.flatMap Json.positions := by
  induction ws generalizing i with
  | nil => rfl
  | cons w rest ih =>
    have hw := h w List.mem_cons_self axis
    have hrest := ih (fun x hx => h x (List.mem_cons_of_mem w hx)) (i + 1)
    rw [List.map_cons, childrenOf, List.flatMap_cons]
    rcases hn : nodeOf axis (.ofJson w) with _ | n
    · rw [hn] at hw
      rw [← hw]
      exact hrest
    · rw [hn] at hw
      rw [← hw]
      show Node.childKinds (⟨_, n⟩ :: _) = _
      rw [childKinds_cons, hrest]
      rfl

theorem kinds_video (v : Tree.Video) (alt : Option Node) :
    (Node.video v alt).kinds = .video :: alt.elim [] Node.kinds := by
  cases alt with
  | none => rfl
  | some n => rw [Node.kinds, Option.elim_some]

/-- The kinds of the node of a value are those of its positions. -/
theorem kinds_nodeOf (axis : Layout) (w : Json) :
    (nodeOf axis (.ofJson w)).elim [] Node.kinds = w.positions := by
  induction w using Json.position_induction generalizing axis with
  | step w hcontents halt =>
    rw [Json.positions_eq]
    have hkind := kind_nodeOf axis w
    rcases hk : w.kind? with _ | k
    · rw [hk] at hkind
      rw [Option.map_eq_none_iff.mp hkind]
      rfl
    · cases k with
      | box =>
        rw [nodeOf_ofJson_box hk, Option.elim_some, Node.kinds,
          childKinds_childrenOf hcontents]
      | text =>
        rw [Component.ofJson_text hk, nodeOf, Option.elim_some, Node.kinds]
        show _ :: List.map _ (spansOf (w.contents.map .ofJson)) = _
        rw [spansOf_map_ofJson, List.map_map]
        rfl
      | video =>
        rw [nodeOf_ofJson_video hk, Option.elim_some, kinds_video]
        rcases hx : w.slot? "altContent" with _ | x
        · rfl
        · rw [Option.bind_some, halt x hx]
          rfl
      | _ =>
        rw [Component.ofJson_eq, hk, nodeOf, Option.elim_some]
        rfl

/-! ## Sections and bubbles -/

/-- The kinds in a section that may be missing. -/
def sectionKinds (s : Option Tree.Section) : List Kind := s.elim [] fun sec => sec.content.kinds

theorem sectionKinds_boxedOf (size : BubbleSize) (hasFooter : Bool) (s : BoxedSection)
    (color : Option String) (slot : Option Json) :
    sectionKinds (boxedOf size hasFooter s color (slot.map .ofJson)) =
      Json.boxedPositions slot := by
  rcases slot with _ | w
  · rfl
  · unfold Json.boxedPositions
    by_cases hk : w.kind? = some .box
    · have hw := kinds_nodeOf .vertical w
      rw [nodeOf_ofJson_box hk, Option.elim_some, Node.kinds] at hw
      simp only [Option.map_some, if_pos hk, ← hw]
      rw [Component.ofJson_box hk]
      unfold sectionKinds boxedOf
      rw [Option.elim_some, Node.kinds]
    · simp only [Option.map_some, if_neg hk]
      rw [Component.ofJson_eq]
      rcases hk' : w.kind? with _ | k
      · rfl
      · cases k with
        | box => exact (hk hk').elim
        | _ => rfl

theorem sectionKinds_heroOf (color : Option String) (slot : Option Json) :
    sectionKinds (heroOf color (slot.map .ofJson)) = Json.heroPositions slot := by
  rcases slot with _ | w
  · rfl
  · unfold sectionKinds heroOf
    rw [Option.map_some, Option.bind_some, Option.elim_map]
    exact kinds_nodeOf .vertical w

/-- The kinds of a bubble, section by section. -/
theorem flatMap_sections (b : Tree.Bubble) :
    (b.sections.flatMap fun (_, s) => s.content.kinds) =
      sectionKinds b.header ++ sectionKinds b.hero ++ sectionKinds b.body
        ++ sectionKinds b.footer := by
  unfold Tree.Bubble.sections
  rcases b.header with _ | header <;> rcases b.hero with _ | hero <;>
    rcases b.body with _ | body <;> rcases b.footer with _ | footer <;>
    simp [sectionKinds]

theorem kinds_bubbleOf (v : Json) :
    ((bubbleOf (.ofFields v.fields)).sections.flatMap fun (_, s) => s.content.kinds) =
      v.bubblePositions := by
  rw [flatMap_sections]
  unfold bubbleOf bubbleWith Json.bubblePositions
  simp only [Document.Bubble.ofFields, Document.sectionOf_eq, sectionKinds_boxedOf,
    sectionKinds_heroOf]

/-! ## Containers -/

/-- The entries of a carousel that are bubbles, one each and in order. -/
theorem bubblesOf_map_ofJson (ws : List Json) :
    bubblesOf (ws.map .ofJson) =
      (ws.filter fun w => w.typeText? = some "bubble").map
        fun w => bubbleOf (.ofFields w.fields) := by
  induction ws with
  | nil => rfl
  | cons w rest ih =>
    rw [List.map_cons, Document.Entry.ofJson]
    by_cases hb : w.typeText? = some "bubble"
    · rw [List.filter_cons_of_pos (by simpa using hb), List.map_cons, ← ih,
        Json.typeText?_eq_some_iff.mp hb]
      rfl
    · rw [List.filter_cons_of_neg (by simpa using hb), ← ih]
      split
      · rename_i hd
        rw [Json.discriminant_eq_iff Json.isWord_bubble, ← Json.typeText?_eq_some_iff] at hd
        exact (hb hd).elim
      · rfl

/-- An entry that is a bubble, in a carousel without anything unplaced. -/
theorem unplaced_of_entries {i : Nat} {ws : List Json}
    (h : Document.unplacedEntries i (ws.map .ofJson) = []) {w : Json} (hw : w ∈ ws)
    (hb : w.typeText? = some "bubble") :
    ∃ path, (Document.Bubble.ofFields w.fields).unplaced path = [] := by
  induction ws generalizing i with
  | nil => cases hw
  | cons x rest ih =>
    rw [List.map_cons] at h
    rcases List.mem_cons.mp hw with rfl | hw
    · rw [Document.Entry.ofJson, Json.typeText?_eq_some_iff.mp hb] at h
      exact ⟨_, (List.append_eq_nil_iff.mp h).1⟩
    · cases hx : Document.Entry.ofJson x with
      | bubble b =>
        rw [hx] at h
        exact ih (List.append_eq_nil_iff.mp h).2 hw
      | unknown kind =>
        rw [hx] at h
        cases h

/-- A container is read from a bubble or from a carousel. -/
theorem container_cases {v : Json} {c : Document.Container}
    (h : Document.Container.ofJson v = .ok c) :
    (v.typeText? = some "bubble" ∧ c = .bubble (.ofFields v.fields)) ∨
      (v.typeText? = some "carousel" ∧ c = .carousel (v.contents.map .ofJson)) := by
  by_cases hv : Document.IsContainer v
  · rcases hv.2 with hf | hf
    · rw [Document.Container.ofJson_bubble hf] at h
      cases h
      exact .inl ⟨Json.typeText?_eq_some_iff.mpr hf, rfl⟩
    · rw [Document.Container.ofJson_carousel hf] at h
      cases h
      exact .inr ⟨Json.typeText?_eq_some_iff.mpr hf, rfl⟩
  · rw [Document.Container.ofJson_of_not hv] at h
    cases h

/-- The bubbles of a container are the bubbles of its value. -/
theorem bubbles_containerOf {v : Json} {c : Document.Container}
    (h : Document.Container.ofJson v = .ok c) (s : String) :
    (Tree.Message.mk s (containerOf c)).bubbles =
      v.bubbles.map fun w => bubbleOf (.ofFields w.fields) := by
  unfold Json.bubbles
  rcases container_cases h with ⟨ht, rfl⟩ | ⟨ht, rfl⟩
  · rw [ht, if_neg (by decide)]
    rfl
  · rw [ht, if_pos rfl]
    exact bubblesOf_map_ofJson v.contents

/-- No bubble of a container without anything unplaced holds anything unplaced. -/
theorem unplaced_of_container {v : Json} {c : Document.Container}
    (h : Document.Container.ofJson v = .ok c) (hu : c.unplaced = []) {w : Json}
    (hw : w ∈ v.bubbles) : ∃ path, (Document.Bubble.ofFields w.fields).unplaced path = [] := by
  unfold Json.bubbles at hw
  rcases container_cases h with ⟨ht, rfl⟩ | ⟨ht, rfl⟩
  · rw [ht, if_neg (by decide), List.mem_singleton] at hw
    subst hw
    exact ⟨_, hu⟩
  · rw [ht, if_pos rfl, List.mem_filter, decide_eq_true_eq] at hw
    exact unplaced_of_entries hu hw.1 hw.2

/-! ## Documents -/

/-- The entry of a kind among those that occur is how often it occurs. -/
theorem lookup_filter_map (ks : List Kind) (f : Kind → Nat) (k : Kind) :
    (((ks.map fun k => (k, f k)).filter fun (_, n) => n ≠ 0).lookup k).getD 0 =
      if k ∈ ks then f k else 0 := by
  induction ks with
  | nil => rfl
  | cons x rest ih =>
    rw [List.map_cons]
    by_cases hx : f x = 0
    · rw [List.filter_cons_of_neg (by simpa using hx), ih]
      by_cases hk : k = x
      · subst hk
        simp [hx]
      · simp [hk]
    · rw [List.filter_cons_of_pos (by simpa using hx), List.lookup_cons]
      by_cases hk : k = x
      · subst hk
        simp
      · rw [beq_false_of_ne hk]
        simpa [hk] using ih

theorem lookup_kindCounts (t : Tree.Message) (k : Kind) :
    (t.kindCounts.lookup k).getD 0 = t.kinds.count k := by
  unfold Tree.Message.kindCounts
  rw [lookup_filter_map, if_pos (by cases k <;> decide)]

/-- A message is read from an object whose contents are read as a container. -/
theorem exists_contents {v : Json} {m : Document.Message}
    (h : Document.Message.ofJson v = .ok m) :
    ∃ c, v.field? "contents" = some c ∧ Document.Container.ofJson c = .ok m.contents := by
  unfold Document.Message.ofJson at h
  split at h
  · rcases ha : Document.Message.altTextOf v with _ | s
    · rw [ha] at h
      cases h
    · rw [ha] at h
      dsimp only [Bind.bind, Except.bind] at h
      split at h
      · rcases hf : v.field? "contents" with _ | c
        · rw [hf] at h
          cases h
        · refine ⟨c, rfl, ?_⟩
          rw [hf, Option.getD_some] at h
          rcases hc : Document.Container.ofJson c with _ | d
          · rw [hc] at h
            cases h
          · rw [hc] at h
            cases h
            rfl
      · cases h
  · cases h

/-- A document that is resolved is read, and its tree is that of what is read, under rejection
without a component that has no place. -/
theorem exists_message {p : Policy} {v : Json} {t : Tree.Message}
    (h : (json p v).result = .ok t) :
    ∃ m c, Document.Message.ofJson v = .ok m ∧ v.field? "contents" = some c ∧
      Document.Container.ofJson c = .ok m.contents ∧ t = treeOf m ∧
      (p = .reject → m.unplaced = []) := by
  rcases hm : Document.Message.ofJson v with fault | m
  · rw [json_of_error hm] at h
    cases h
  · obtain ⟨c, hc, hcontents⟩ := exists_contents hm
    rw [json_of_ok hm] at h
    exact ⟨m, c, rfl, hc, hcontents, (yields_message m).of_result h⟩

section

variable {c : Json} {m : Document.Message} (h : Document.Container.ofJson c = .ok m.contents)

include h

theorem bubbles_treeOf :
    (treeOf m).bubbles = c.bubbles.map fun w => bubbleOf (.ofFields w.fields) :=
  bubbles_containerOf h m.altText

theorem kinds_treeOf : (treeOf m).kinds = c.bubbles.flatMap Json.bubblePositions := by
  unfold Tree.Message.kinds
  rw [bubbles_treeOf h, List.flatMap_map]
  exact congrArg c.bubbles.flatMap (funext kinds_bubbleOf)

end

/-- What holds of the tree of every bubble holds of the tree of a document, bubble by bubble. -/
theorem forall₂_bubbles {p : Policy} {v : Json} {t : Tree.Message}
    (h : (json p v).result = .ok t) {P : Json → Tree.Bubble → Prop}
    (hP : ∀ w, P w (bubbleOf (.ofFields w.fields))) :
    ∃ c, v.field? "contents" = some c ∧ List.Forall₂ P c.bubbles t.bubbles := by
  obtain ⟨m, c, -, hc, hcontents, rfl, -⟩ := exists_message h
  refine ⟨c, hc, ?_⟩
  rw [bubbles_treeOf hcontents, List.forall₂_map_right_iff, List.forall₂_same]
  exact fun w _ => hP w

/-- **Correspondence.** A document that is resolved has contents, and the bubbles of its tree stand
for the bubbles of the contents, one each and in order. Every section, box, text and video below
stands for a value in its place, under rejection with a child for every item. So the kinds of all
nodes are the kinds of all positions, and each kind occurs as often in the tree as in the
document. -/
theorem json_stands (p : Policy) (v : Json) (t : Tree.Message)
    (h : (json p v).result = .ok t) :
    ∃ c, v.field? "contents" = some c ∧
      List.Forall₂ (BubbleStands p) c.bubbles t.bubbles ∧
      t.kinds = c.bubbles.flatMap Json.bubblePositions ∧
      ∀ k, (t.kindCounts.lookup k).getD 0 =
        (c.bubbles.flatMap Json.bubblePositions).count k := by
  obtain ⟨m, c, -, hc, hcontents, rfl, hu⟩ := exists_message h
  refine ⟨c, hc, ?_, kinds_treeOf hcontents, fun k => ?_⟩
  · rw [bubbles_treeOf hcontents, List.forall₂_map_right_iff, List.forall₂_same]
    intro w hw
    exact bubbleOf_stands w fun hp => unplaced_of_container hcontents (hu hp) hw
  · rw [lookup_kindCounts, kinds_treeOf hcontents]

/-- A sample with a video inside a box, an item and an entry of unknown kinds, and a hero without
a kind. -/
theorem json_stands_mixed :
    ∃ t, (json .skip Document.mixed).result = .ok t ∧
      t.kinds = [.box, .text, .span, .video, .box, .filler] := by
  obtain ⟨m, hm⟩ := Document.Message.exists_ofJson Document.mixed_altText Document.mixed_isFlex
    Document.mixed_holdsContainer
  have h : (json .skip Document.mixed).result = .ok (treeOf m) := json_skip_result hm
  obtain ⟨c, hc, -, hkinds, -⟩ := json_stands .skip Document.mixed (treeOf m) h
  refine ⟨treeOf m, h, hkinds.trans ?_⟩
  cases hc
  decide +kernel

end FlexLayout.Resolve
