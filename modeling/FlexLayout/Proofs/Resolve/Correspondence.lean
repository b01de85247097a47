import FlexLayout.Proofs.Document.Position
import FlexLayout.Proofs.Resolve.Envelope
import Mathlib.Data.List.Forall2

/-!
# Documents and their trees

Nothing of a document is lost, doubled or moved on the way to its tree. `Inside` pairs each value
below a component with the node that it became. At every such position the children of a box are
the resolutions of the known items of its contents, in their order (`Stands`), and the kinds of
all nodes are the kinds of all positions of the document, in their order.
-/

namespace FlexLayout.Resolve

open FlexLayout.Document (Component)
open FlexLayout.Tree (Node Child)

/-! ## Positions -/

/-- The value `x` below the component `w` became the node `m` below the node `n`. -/
inductive Inside : Json → Node → Json → Node → Prop where
  | self (w : Json) (n : Node) : Inside w n w n
  | child {w v x : Json} {n : Node} {b : Tree.Box} {cs : List Child} {i : Nat} {c : Child} :
      Inside w n v (.box b cs) → v.knownContents[i]? = some x → cs[i]? = some c →
        Inside w n x c.node
  | alt {w v x : Json} {n m : Node} {video : Tree.Video} :
      Inside w n v (.video video (some m)) → v.slot? "altContent" = some x → Inside w n x m

/-- The value `w` has the kind of the node `n` and resolves to it below any parent of the axis. -/
def Resolves (axis : Layout) (w : Json) (n : Node) : Prop :=
  w.kind? = some n.kind ∧
    ∀ c : Context, c.axis = axis → (component .skip c (.ofJson w)).result = .ok (some n)

/-- What a node has of the value that it stands for. -/
structure Stands (w : Json) (m : Node) : Prop where
  kind : w.kind? = some m.kind
  /-- The children of a box are the known items of its contents. -/
  children : ∀ b cs, m = .box b cs →
    List.Forall₂ (fun x (c : Child) => Resolves b.layout x c.node) w.knownContents cs
  /-- The spans of a text are the spans among its contents. -/
  spans : ∀ t, m = .text t → t.spans = w.spanContents.map fun x => span (.ofFields x.fields)
  /-- A video has alternative content if the document gives it some of a known kind. -/
  hasAlt : ∀ v alt, m = .video v alt →
    (alt.isSome ↔ ∃ x, w.slot? "altContent" = some x ∧ x.kind?.isSome)
  alt : ∀ v n, m = .video v (some n) →
    ∃ x, w.slot? "altContent" = some x ∧ Resolves .vertical x n

/-! ## Nodes of values -/

theorem nodeOf_video (axis : Layout) (v : Document.Video) (alt : Option Component) :
    nodeOf axis (.video v alt) = some (.video (video v) (alt.bind (nodeOf .vertical))) := by
  rcases alt with _ | alt
  · rfl
  · rfl

/-- A value has a node exactly if it names a known kind, which is then the kind of the node. -/
theorem kind_nodeOf (axis : Layout) (w : Json) :
    (nodeOf axis (.ofJson w)).map Node.kind = w.kind? := by
  rw [Component.ofJson_eq]
  rcases w.kind? with _ | k
  · rfl
  · cases k with
    | video => rw [nodeOf_video]; rfl
    | _ => rfl

theorem isSome_nodeOf (axis : Layout) (w : Json) :
    (nodeOf axis (.ofJson w)).isSome = w.kind?.isSome := by
  rw [← kind_nodeOf axis, Option.isSome_map]

theorem resolves_of_nodeOf {axis : Layout} {w : Json} {n : Node}
    (h : nodeOf axis (.ofJson w) = some n) : Resolves axis w n := by
  refine ⟨by rw [← kind_nodeOf axis, h]; rfl, fun c hc => ?_⟩
  rw [(yields_component c _).skip_result, hc, h]

/-- The children of a box are the nodes of the known items, one each and in order. -/
theorem forall₂_childrenOf (axis : Layout) (spacing : Option String) (i : Nat) (ws : List Json) :
    List.Forall₂ (fun w (c : Child) => nodeOf axis (.ofJson w) = some c.node)
      (ws.filter fun w => w.kind?.isSome) (childrenOf axis spacing i (ws.map .ofJson)) := by
  induction ws generalizing i with
  | nil => exact .nil
  | cons w rest ih =>
    have hsome := isSome_nodeOf axis w
    rw [List.map_cons, childrenOf]
    rcases hn : nodeOf axis (.ofJson w) with _ | n
    · rw [hn] at hsome
      rw [List.filter_cons, if_neg (by rw [← hsome]; simp)]
      exact ih (i + 1)
    · rw [hn] at hsome
      rw [List.filter_cons, if_pos (by rw [← hsome]; rfl)]
      exact .cons hn (ih (i + 1))

theorem spansOf_map_ofJson (ws : List Json) :
    spansOf (ws.map .ofJson) =
      (ws.filter fun w => w.kind? = some .span).map fun w => span (.ofFields w.fields) := by
  induction ws with
  | nil => rfl
  | cons w rest ih =>
    rw [List.map_cons, Component.ofJson_eq]
    by_cases h : w.kind? = some .span
    · rw [List.filter_cons_of_pos (by simpa using h), List.map_cons, ← ih, h]
      rfl
    · rw [List.filter_cons_of_neg (by simpa using h), ← ih]
      rcases hk : w.kind? with _ | k
      · rfl
      · cases k with
        | span => exact (h hk).elim
        | _ => rfl

theorem nodeOf_ofJson_box {axis : Layout} {w : Json} (h : w.kind? = some .box) :
    nodeOf axis (.ofJson w) = some (.box (box (.ofFields w.fields) none)
      (childrenOf ((Document.Box.ofFields w.fields).layout.getD .vertical)
        (Document.Box.ofFields w.fields).spacing 0 (w.contents.map .ofJson))) := by
  rw [Component.ofJson_box h, nodeOf]

theorem nodeOf_ofJson_video {axis : Layout} {w : Json} (h : w.kind? = some .video) :
    nodeOf axis (.ofJson w) = some (.video (video (.ofFields w.fields))
      ((w.slot? "altContent").bind fun x => nodeOf .vertical (.ofJson x))) := by
  rw [Component.ofJson_video h, nodeOf_video, Option.bind_map]
  rfl

theorem stands_of_nodeOf {axis : Layout} {w : Json} {n : Node}
    (h : nodeOf axis (.ofJson w) = some n) : Stands w n := by
  have hkind := (resolves_of_nodeOf h).1
  refine ⟨hkind, fun b cs hn => ?_, fun t hn => ?_, fun v alt hn => ?_, fun v m hn => ?_⟩
  · subst hn
    rw [nodeOf_ofJson_box hkind] at h
    cases h
    exact (forall₂_childrenOf _ _ 0 w.contents).imp fun _ _ => resolves_of_nodeOf
  · subst hn
    rw [Component.ofJson_text hkind] at h
    cases h
    exact spansOf_map_ofJson w.contents
  · subst hn
    rw [nodeOf_ofJson_video hkind] at h
    cases h
    rcases w.slot? "altContent" with _ | x
    · simp
    · simp [isSome_nodeOf]
  · subst hn
    rw [nodeOf_ofJson_video hkind, Option.some_inj, Node.video.injEq] at h
    obtain ⟨x, hx, hm⟩ := Option.bind_eq_some_iff.mp h.2
    exact ⟨x, hx, resolves_of_nodeOf hm⟩

/-! ## Positions at every depth

The root of a section takes its padding from the bubble, so it is the node of its value only up to
the attributes of a box. Below it, every node is the node of its value. -/

/-- Two nodes that are the same, or boxes of one layout with the same children. -/
def SameInside (n m : Node) : Prop :=
  n = m ∨ ∃ b b' cs, n = .box b cs ∧ m = .box b' cs ∧ b.layout = b'.layout

/-- The invariant of positions: the node is that of the value up to the attributes of a box, and
under rejection the value holds no component without a place. -/
structure Founded (p : Policy) (w : Json) (m : Node) : Prop where
  node : ∃ axis n, nodeOf axis (.ofJson w) = some n ∧ SameInside n m
  complete : p = .reject → ∃ path, (Component.ofJson w).unplaced path = []

theorem Founded.of_nodeOf {p : Policy} {axis : Layout} {w : Json} {n : Node}
    (h : nodeOf axis (.ofJson w) = some n)
    (hp : p = .reject → ∃ path, (Component.ofJson w).unplaced path = []) : Founded p w n :=
  ⟨⟨axis, n, h, .inl rfl⟩, hp⟩

theorem Founded.stands {p : Policy} {w : Json} {m : Node} (h : Founded p w m) : Stands w m := by
  obtain ⟨axis, n, hn, hsame⟩ := h.node
  have hs := stands_of_nodeOf hn
  rcases hsame with rfl | ⟨b, b', cs, rfl, rfl, hlayout⟩
  · exact hs
  · refine ⟨hs.kind, fun b'' cs' hb => ?_, fun t ht => ?_, fun v alt hv => ?_, fun v n hv => ?_⟩
    · cases hb
      rw [← hlayout]
      exact hs.children b cs rfl
    · cases ht
    · cases hv
    · cases hv

theorem unplacedFrom_eq_nil {path : Path} {i : Nat} {cs : List Component}
    (h : Component.unplacedFrom path i cs = []) {c : Component} (hc : c ∈ cs) :
    ∃ path', c.unplaced path' = [] := by
  induction cs generalizing i with
  | nil => cases hc
  | cons x rest ih =>
    rw [Component.unplacedFrom, List.append_eq_nil_iff] at h
    rcases List.mem_cons.mp hc with rfl | hc
    · exact ⟨_, h.1⟩
    · exact ih h.2 hc

theorem kind_of_unplaced_eq_nil {w : Json} {path : Path}
    (h : (Component.ofJson w).unplaced path = []) : w.kind?.isSome := by
  rw [Component.ofJson_eq] at h
  rcases hk : w.kind? with _ | k
  · rw [hk] at h
    cases h
  · rfl

/-- The items of a box that holds no component without a place hold none either. -/
theorem unplaced_contents {w : Json} {path : Path} (hkind : w.kind? = some .box)
    (h : (Component.ofJson w).unplaced path = []) {x : Json} (hx : x ∈ w.contents) :
    ∃ path', (Component.ofJson x).unplaced path' = [] := by
  rw [Component.ofJson_box hkind, Component.unplaced] at h
  exact unplacedFrom_eq_nil h (List.mem_map_of_mem hx)

/-- The node of a box has the children of its value. -/
theorem Founded.children {p : Policy} {w : Json} {b : Tree.Box} {cs : List Child}
    (h : Founded p w (.box b cs)) :
    ∃ axis, List.Forall₂ (fun x (c : Child) => nodeOf axis (.ofJson x) = some c.node)
      w.knownContents cs := by
  have hkind := h.stands.kind
  obtain ⟨axis, n, hn, hsame⟩ := h.node
  rw [nodeOf_ofJson_box hkind] at hn
  -- the attributes at the top of a section may differ, the children do not
  rcases hsame with rfl | ⟨b', b'', cs', rfl, hm, -⟩
  · cases hn
    exact ⟨_, forall₂_childrenOf _ _ 0 w.contents⟩
  · cases hn
    cases hm
    exact ⟨_, forall₂_childrenOf _ _ 0 w.contents⟩

/-- A child is the node of its value, not only up to the attributes of a box. -/
theorem Founded.nodeOf_child {p : Policy} {w x : Json} {b : Tree.Box} {cs : List Child} {i : Nat}
    {c : Child} (h : Founded p w (.box b cs)) (hx : w.knownContents[i]? = some x)
    (hc : cs[i]? = some c) : ∃ axis, nodeOf axis (.ofJson x) = some c.node := by
  obtain ⟨axis, hall⟩ := h.children
  obtain ⟨hxlt, rfl⟩ := List.getElem?_eq_some_iff.mp hx
  obtain ⟨hclt, rfl⟩ := List.getElem?_eq_some_iff.mp hc
  exact ⟨axis, hall.get hxlt hclt⟩

theorem Founded.child {p : Policy} {w x : Json} {b : Tree.Box} {cs : List Child} {i : Nat}
    {c : Child} (h : Founded p w (.box b cs)) (hx : w.knownContents[i]? = some x)
    (hc : cs[i]? = some c) : Founded p x c.node := by
  obtain ⟨axis, hnode⟩ := h.nodeOf_child hx hc
  refine .of_nodeOf hnode fun hp => ?_
  obtain ⟨path, hpath⟩ := h.complete hp
  exact unplaced_contents h.stands.kind hpath
    (List.mem_of_mem_filter (List.mem_of_getElem? hx))

/-- The same of alternative content. -/
theorem Founded.nodeOf_alt {p : Policy} {w x : Json} {v : Tree.Video} {m : Node}
    (h : Founded p w (.video v (some m))) (hx : w.slot? "altContent" = some x) :
    nodeOf .vertical (.ofJson x) = some m := by
  have hkind := h.stands.kind
  obtain ⟨axis, n, hn, hsame⟩ := h.node
  obtain rfl : n = .video v (some m) := by
    rcases hsame with rfl | ⟨b, b', cs, rfl, hm, -⟩
    · rfl
    · cases hm
  rw [nodeOf_ofJson_video hkind, hx, Option.some_inj, Node.video.injEq] at hn
  exact hn.2

theorem Founded.alt {p : Policy} {w x : Json} {v : Tree.Video} {m : Node}
    (h : Founded p w (.video v (some m))) (hx : w.slot? "altContent" = some x) :
    Founded p x m := by
  refine .of_nodeOf (h.nodeOf_alt hx) fun hp => ?_
  obtain ⟨path, hpath⟩ := h.complete hp
  rw [Component.ofJson_video h.stands.kind, hx, Option.map_some, Component.unplaced] at hpath
  exact ⟨_, hpath⟩

/-- The invariant holds at every position. -/
theorem Founded.inside {p : Policy} {w x : Json} {n m : Node} (h : Founded p w n)
    (hi : Inside w n x m) : Founded p x m := by
  induction hi with
  | self => exact h
  | child _ hx hc ih => exact (ih h).child hx hc
  | alt _ hx ih => exact (ih h).alt hx

/-- What holds of the root and of the node of every value holds at every position. -/
theorem Founded.forall_inside {p : Policy} {P : Json → Node → Prop} {w x : Json} {n m : Node}
    (h : Founded p w n) (hroot : P w n)
    (hnode : ∀ axis y k, nodeOf axis (.ofJson y) = some k → P y k) (hi : Inside w n x m) :
    P x m := by
  cases hi with
  | self => exact hroot
  | child hv hx hc =>
    obtain ⟨axis, hchild⟩ := (h.inside hv).nodeOf_child hx hc
    exact hnode axis _ _ hchild
  | alt hv hx => exact hnode .vertical _ _ ((h.inside hv).nodeOf_alt hx)

/-- Under rejection a box has a child for every item. -/
theorem Founded.length_children {w : Json} {b : Tree.Box} {cs : List Child}
    (h : Founded .reject w (.box b cs)) : cs.length = w.contents.length := by
  obtain ⟨axis, hall⟩ := h.children
  obtain ⟨path, hpath⟩ := h.complete rfl
  have hknown : w.knownContents = w.contents := List.filter_eq_self.mpr fun x hx => by
    obtain ⟨path', hpath'⟩ := unplaced_contents h.stands.kind hpath hx
    exact kind_of_unplaced_eq_nil hpath'
  rw [← hall.length_eq, hknown]

/-! ## Sections and bubbles -/

/-- What a section has of the value in its slot. It is there if the slot holds a value that the
section accepts, and every position inside has the node that stands for it. -/
structure SectionStands (p : Policy) (accepts : Json → Prop) (slot : Option Json)
    (s : Option Tree.Section) : Prop where
  present : s.isSome ↔ ∃ w, slot = some w ∧ accepts w
  inside : ∀ w sec, slot = some w → s = some sec →
    ∀ x m, Inside w sec.content x m → Stands x m
  /-- Under rejection every box has a child for every item of its contents. -/
  full : p = .reject → ∀ w sec, slot = some w → s = some sec →
    ∀ x b cs, Inside w sec.content x (.box b cs) → cs.length = x.contents.length

theorem SectionStands.of_founded {p : Policy} {accepts : Json → Prop} {w : Json}
    {sec : Tree.Section} (hw : accepts w) (h : Founded p w sec.content) :
    SectionStands p accepts (some w) (some sec) := by
  refine ⟨by simp [hw], fun w' sec' hw' hsec x m hi => ?_, fun hp w' sec' hw' hsec x b cs hi => ?_⟩
  · cases hw'
    cases hsec
    exact (h.inside hi).stands
  · cases hw'
    cases hsec
    subst hp
    exact (h.inside hi).length_children

theorem SectionStands.of_absent {p : Policy} {accepts : Json → Prop} {slot : Option Json}
    (h : ∀ w, slot = some w → ¬ accepts w) : SectionStands p accepts slot none := by
  refine ⟨?_, fun w sec _ hsec => ?_, fun _ w sec _ hsec => ?_⟩
  · simp only [Option.isSome_none, Bool.false_eq_true, false_iff, not_exists, not_and]
    exact h
  · cases hsec
  · cases hsec

/-- A box is what a header, body or footer accepts. -/
def IsBoxValue (w : Json) : Prop := w.kind? = some .box

/-- A value of a known kind is what a hero accepts. -/
def IsKnownValue (w : Json) : Prop := w.kind?.isSome

instance : DecidablePred IsBoxValue := fun w => inferInstanceAs (Decidable (w.kind? = some .box))

instance : DecidablePred IsKnownValue := fun w => inferInstanceAs (Decidable (w.kind?.isSome = true))

theorem boxedOf_stands {p : Policy} (size : BubbleSize) (hasFooter : Bool) (s : BoxedSection)
    (color : Option String) (slot : Option Json) (path : Path)
    (hp : p = .reject → Document.unplacedBoxed path (slot.map .ofJson) = []) :
    SectionStands p IsBoxValue slot (boxedOf size hasFooter s color (slot.map .ofJson)) := by
  rcases slot with _ | w
  · exact .of_absent fun w hw => by cases hw
  · by_cases hk : w.kind? = some .box
    · rw [Option.map_some, Component.ofJson_box hk] at hp ⊢
      refine .of_founded hk ⟨⟨.vertical, _, nodeOf_ofJson_box hk, .inr ⟨_, _, _, rfl, rfl, rfl⟩⟩,
        fun hreject => ⟨path, ?_⟩⟩
      rw [Component.ofJson_box hk, Component.unplaced]
      exact hp hreject
    · rw [Option.map_some, Component.ofJson_eq]
      have habsent : ∀ w', some w = some w' → ¬ IsBoxValue w' := fun w' hw => by
        cases hw
        exact hk
      rcases hk' : w.kind? with _ | k
      · exact .of_absent habsent
      · cases k with
        | box => exact (hk hk').elim
        | _ => exact .of_absent habsent

theorem heroOf_stands {p : Policy} (color : Option String) (slot : Option Json) (path : Path)
    (hp : p = .reject → Document.unplacedHero path (slot.map .ofJson) = []) :
    SectionStands p IsKnownValue slot (heroOf color (slot.map .ofJson)) := by
  rcases slot with _ | w
  · exact .of_absent fun w hw => by cases hw
  · have hsome := isSome_nodeOf .vertical w
    unfold heroOf
    rw [Option.map_some, Option.bind_some]
    rcases hn : nodeOf .vertical (.ofJson w) with _ | n
    · refine .of_absent fun w' hw hk => ?_
      cases hw
      rw [hn] at hsome
      rw [IsKnownValue, ← hsome] at hk
      cases hk
    · rw [hn] at hsome
      exact .of_founded hsome.symm (.of_nodeOf hn fun hreject => ⟨path, hp hreject⟩)

/-- What a bubble has of the value that it stands for. -/
structure BubbleStands (p : Policy) (v : Json) (b : Tree.Bubble) : Prop where
  resolved : ∀ path, (bubble .skip (.ofFields v.fields) path).result = .ok b
  header : SectionStands p IsBoxValue (v.slot? "header") b.header
  hero : SectionStands p IsKnownValue (v.slot? "hero") b.hero
  body : SectionStands p IsBoxValue (v.slot? "body") b.body
  footer : SectionStands p IsBoxValue (v.slot? "footer") b.footer

theorem bubbleOf_stands {p : Policy} (v : Json)
    (hp : p = .reject → ∃ path, (Document.Bubble.ofFields v.fields).unplaced path = []) :
    BubbleStands p v (bubbleOf (.ofFields v.fields)) := by
  have hsections : ∃ path : Path, p = .reject →
      Document.unplacedBoxed (path.field "header") ((v.slot? "header").map .ofJson) = [] ∧
        Document.unplacedHero (path.field "hero") ((v.slot? "hero").map .ofJson) = [] ∧
        Document.unplacedBoxed (path.field "body") ((v.slot? "body").map .ofJson) = [] ∧
        Document.unplacedBoxed (path.field "footer") ((v.slot? "footer").map .ofJson) = [] := by
    by_cases hreject : p = .reject
    · obtain ⟨path, h⟩ := hp hreject
      refine ⟨path, fun _ => ?_⟩
      simpa only [Document.Bubble.unplaced, Document.Bubble.ofFields, Document.sectionOf_eq,
        List.append_eq_nil_iff, and_assoc] using h
    · exact ⟨[], fun h => (hreject h).elim⟩
  obtain ⟨path, h⟩ := hsections
  unfold bubbleOf bubbleWith
  refine ⟨fun path => (yields_bubble _ path).skip_result, ?_, ?_, ?_, ?_⟩
  · simp only [Document.Bubble.ofFields, Document.sectionOf_eq]
    exact boxedOf_stands _ _ _ _ _ _ fun hreject => (h hreject).1
  · simp only [Document.Bubble.ofFields, Document.sectionOf_eq]
    exact heroOf_stands _ _ _ fun hreject => (h hreject).2.1
  · simp only [Document.Bubble.ofFields, Document.sectionOf_eq]
    exact boxedOf_stands _ _ _ _ _ _ fun hreject => (h hreject).2.2.1
  · simp only [Document.Bubble.ofFields, Document.sectionOf_eq]
    exact boxedOf_stands _ _ _ _ _ _ fun hreject => (h hreject).2.2.2

end FlexLayout.Resolve
