import FlexLayout.Proofs.Resolve.Kinds

/-!
# Margins and rules

The axis of a box shows in its children and nowhere else: it is the side of the margins that the
box puts between them, the side of the margins of separators and texts, and, crosswise, the
direction of rules. The top of a section and the alternative content of a video count as children
of a vertical parent. `LaidOut` says this of one node and the value that it stands for, and
`json_laidOut` says it of every place of every tree.
-/

namespace FlexLayout.Resolve

open FlexLayout.Document (Component)
open FlexLayout.Tree (Node Child)

/-! ## Children of a parent -/

/-- The margin is on top below a vertical parent, and on the left below any other. -/
def OnSide (axis : Layout) (m : Tree.Margin) : Prop :=
  m.side = if axis = .vertical then .top else .left

/-- What the axis of its parent says of a node. Rules lie across a vertical parent and stand in any
other. Boxes, buttons, icons and images keep their margin on top whatever the axis. -/
def Aligned (axis : Layout) : Node → Prop
  | .separator s =>
    (s.orientation = .horizontal ↔ axis = .vertical) ∧ ∀ m ∈ s.margin, OnSide axis m
  | .text t => ∀ m ∈ t.geometry.margin, OnSide axis m
  | .box b _ => ∀ m ∈ b.geometry.margin, m.side = .top
  | .button b => ∀ m ∈ b.geometry.margin, m.side = .top
  | .icon i => ∀ m ∈ i.geometry.margin, m.side = .top
  | .image i => ∀ m ∈ i.geometry.margin, m.side = .top
  | .filler _ | .spacer _ | .span _ | .video .. => True

/-- The spacing that the author of a box wrote, if it is a length other than the word `none`. -/
def AuthorSpacing (w : Json) (l : Length) : Prop :=
  ∃ s, w.field? "spacing" = some (.string s) ∧ s ≠ "none" ∧
    TokenTable.spacing.resolve? s = some l

/-- The margin that a box, standing for `w`, puts before its child from the item at an index. -/
structure SpacedChild (w : Json) (axis : Layout) (index : Nat) (c : Child) : Prop where
  side : ∀ m ∈ c.spacing, OnSide axis m
  space : c.node.kind = .filler ∨ c.node.kind = .spacer → c.spacing = none
  first : index = 0 → c.spacing = none
  amount : index ≠ 0 → c.node.kind ≠ .filler → c.node.kind ≠ .spacer →
    ∀ l, c.spacing.map Tree.Margin.amount = some l ↔ AuthorSpacing w l

/-- The items of the contents of a known kind, with their indices in the document. -/
def knownItems (w : Json) : List (Json × Nat) := w.contents.zipIdx.filter fun e => e.1.kind?.isSome

/-- What a node has of its own axis: the children of a box, paired with the known items of the
value that it stands for, and the alternative content of a video. -/
structure LaidOut (w : Json) (n : Node) : Prop where
  children : ∀ b cs, n = .box b cs → List.Forall₂ (fun (e : Json × Nat) (c : Child) =>
    e.1.kind? = some c.node.kind ∧ SpacedChild w b.layout e.2 c ∧ Aligned b.layout c.node)
      (knownItems w) cs
  alt : ∀ v m, n = .video v (some m) → Aligned .vertical m

/-! ## The side of a margin -/

theorem spacingSide_eq (axis : Layout) :
    axis.spacingSide = if axis = .vertical then .top else .left := by
  cases axis <;> rfl

theorem ruleOrientation_eq_horizontal_iff (axis : Layout) :
    axis.ruleOrientation = .horizontal ↔ axis = .vertical := by
  cases axis <;> decide

theorem side_of_mem_margin {value : Option String} {side : Side} {m : Tree.Margin}
    (h : m ∈ margin value side) : m.side = side := by
  obtain ⟨l, -, rfl⟩ := Option.map_eq_some_iff.mp h
  rfl

theorem onSide_of_mem_margin {value : Option String} {axis : Layout} {m : Tree.Margin}
    (h : m ∈ margin value axis.spacingSide) : OnSide axis m :=
  (side_of_mem_margin h).trans (spacingSide_eq axis)

/-- Every node follows the axis of its parent. -/
theorem aligned_nodeOf {axis : Layout} {x : Component} {n : Node} (h : nodeOf axis x = some n) :
    Aligned axis n := by
  cases x with
  | separator s =>
    cases h
    exact ⟨ruleOrientation_eq_horizontal_iff axis, fun m hm => onSide_of_mem_margin hm⟩
  | text t contents =>
    cases h
    exact fun m hm => onSide_of_mem_margin hm
  | box _ _ | button _ | icon _ | image _ =>
    cases h
    exact fun m hm => side_of_mem_margin hm
  | video v alt =>
    rw [nodeOf_video] at h
    cases h
    trivial
  | filler _ | spacer _ | span _ =>
    cases h
    trivial
  | unknown kind => cases h

/-! ## Spacing between children -/

theorem childSpacing_of_zero (spacing : Option String) (axis : Layout) (kind : String) :
    childSpacing spacing axis 0 kind = none := if_pos (.inl rfl)

theorem childSpacing_of_space {spacing : Option String} {axis : Layout} {index : Nat} {k : Kind}
    (h : k = .filler ∨ k = .spacer) : childSpacing spacing axis index k.word = none := by
  refine if_pos (.inr ?_)
  rcases h with rfl | rfl
  · exact .inl rfl
  · exact .inr rfl

/-- Behind the first item, what is neither filler nor spacer gets the spacing of the parent, unless
that is the word `none`. -/
theorem childSpacing_of_ne {index : Nat} {k : Kind} (hindex : index ≠ 0) (hfiller : k ≠ .filler)
    (hspacer : k ≠ .spacer) (spacing : Option String) (axis : Layout) :
    childSpacing spacing axis index k.word =
      ((spacing.filter fun s => s ≠ "none").bind TokenTable.spacing.resolve?).map
        (⟨axis.spacingSide, ·⟩) := by
  have hword : ¬ (index = 0 ∨ k.word = Kind.filler.word ∨ k.word = Kind.spacer.word) := by
    rintro (h | h | h)
    · exact hindex h
    · cases k <;> first | exact hfiller rfl | exact absurd h (by decide)
    · cases k <;> first | exact hspacer rfl | exact absurd h (by decide)
  unfold childSpacing
  rw [if_neg hword]
  split
  · rfl
  · rfl
  · rename_i s hs
    rw [Option.filter_some_pos (by simpa using hs), Option.bind_some]

theorem onSide_of_mem_childSpacing {spacing : Option String} {axis : Layout} {index : Nat}
    {k : Kind} {m : Tree.Margin} (h : m ∈ childSpacing spacing axis index k.word) :
    OnSide axis m := by
  by_cases hindex : index = 0
  · rw [hindex, childSpacing_of_zero] at h
    cases h
  · by_cases hspace : k = .filler ∨ k = .spacer
    · rw [childSpacing_of_space hspace] at h
      cases h
    · rw [not_or] at hspace
      rw [childSpacing_of_ne hindex hspace.1 hspace.2] at h
      obtain ⟨l, -, rfl⟩ := Option.map_eq_some_iff.mp h
      exact spacingSide_eq axis

/-- The spacing that a box is read with is the spacing that its author wrote. -/
theorem spacing_eq_some_iff (w : Json) (l : Length) :
    ((Document.Box.ofFields w.fields).spacing.filter fun s => s ≠ "none").bind
      TokenTable.spacing.resolve? = some l ↔ AuthorSpacing w l := by
  rw [Option.bind_eq_some_iff]
  simp only [Option.filter_eq_some_iff, decide_eq_true_eq, and_assoc]
  exact exists_congr fun s => and_congr_left' Json.bind_text?_eq_some_iff

theorem spacedChild_of_eq {w : Json} {axis : Layout} {index : Nat} {c : Child}
    (h : c.spacing = childSpacing (Document.Box.ofFields w.fields).spacing axis index
      c.node.kind.word) : SpacedChild w axis index c where
  side m hm := by
    rw [h] at hm
    exact onSide_of_mem_childSpacing hm
  space hspace := h.trans (childSpacing_of_space hspace)
  first hindex := by rw [h, hindex, childSpacing_of_zero]
  amount hindex hfiller hspacer l := by
    rw [h, childSpacing_of_ne hindex hfiller hspacer, Option.map_map, ← spacing_eq_some_iff w l]
    show Option.map (fun x => x) _ = _ ↔ _
    rw [Option.map_id']

/-! ## Nodes of values -/

theorem kind_of_nodeOf {axis : Layout} {x : Component} {n : Node} (h : nodeOf axis x = some n) :
    x.kind = n.kind.word := by
  cases x with
  | video v alt =>
    rw [nodeOf_video] at h
    cases h
    rfl
  | unknown kind => cases h
  | _ =>
    cases h
    rfl

/-- The children of a box, paired with the known items and their indices. -/
theorem forall₂_knownItems (axis : Layout) (spacing : Option String) (i : Nat) (ws : List Json) :
    List.Forall₂ (fun (e : Json × Nat) (c : Child) => nodeOf axis (.ofJson e.1) = some c.node ∧
        c.spacing = childSpacing spacing axis e.2 c.node.kind.word)
      ((ws.zipIdx i).filter fun e => e.1.kind?.isSome)
      (childrenOf axis spacing i (ws.map .ofJson)) := by
  induction ws generalizing i with
  | nil => exact .nil
  | cons w rest ih =>
    have hsome := isSome_nodeOf axis w
    rw [List.zipIdx_cons, List.map_cons, childrenOf]
    rcases hn : nodeOf axis (.ofJson w) with _ | n
    · rw [hn] at hsome
      rw [List.filter_cons_of_neg (by rw [← hsome]; simp)]
      exact ih (i + 1)
    · rw [hn] at hsome
      rw [List.filter_cons_of_pos (by rw [← hsome]; rfl)]
      refine .cons ⟨hn, ?_⟩ (ih (i + 1))
      rw [kind_of_nodeOf hn]

theorem laidOut_of_nodeOf {axis : Layout} {w : Json} {n : Node}
    (h : nodeOf axis (.ofJson w) = some n) : LaidOut w n := by
  have hkind := (resolves_of_nodeOf h).1
  refine ⟨fun b cs hn => ?_, fun v m hn => ?_⟩
  · subst hn
    rw [nodeOf_ofJson_box hkind] at h
    cases h
    exact (forall₂_knownItems _ _ 0 w.contents).imp fun e c he =>
      ⟨(resolves_of_nodeOf he.1).1, spacedChild_of_eq he.2, aligned_nodeOf he.1⟩
  · subst hn
    rw [nodeOf_ofJson_video hkind, Option.some_inj, Node.video.injEq] at h
    obtain ⟨x, -, hm⟩ := Option.bind_eq_some_iff.mp h.2
    exact aligned_nodeOf hm

/-- The root of a section has the children of its value, whatever its padding. -/
theorem Founded.laidOut {p : Policy} {w : Json} {m : Node} (h : Founded p w m) : LaidOut w m := by
  obtain ⟨axis, n, hn, hsame⟩ := h.node
  have hlaid := laidOut_of_nodeOf hn
  rcases hsame with rfl | ⟨b, b', cs, rfl, rfl, hlayout⟩
  · exact hlaid
  · refine ⟨fun b'' cs' hb => ?_, fun v m hv => ?_⟩
    · cases hb
      rw [← hlayout]
      exact hlaid.children b cs rfl
    · cases hv

/-! ## Every node -/

/-- The node `m` is the node `n` or stands below it. -/
inductive Under (n : Node) : Node → Prop where
  | self : Under n n
  | child {b : Tree.Box} {cs : List Child} {c : Child} :
    Under n (.box b cs) → c ∈ cs → Under n c.node
  | alt {v : Tree.Video} {m : Node} : Under n (.video v (some m)) → Under n m

/-- Every node stands for a value in its place. -/
theorem Founded.exists_inside {p : Policy} {w : Json} {n m : Node} (h : Founded p w n)
    (hm : Under n m) : ∃ x, Inside w n x m := by
  induction hm with
  | self => exact ⟨w, .self w n⟩
  | child _ hc ih =>
    obtain ⟨x, hx⟩ := ih
    obtain ⟨axis, hall⟩ := (h.inside hx).children
    obtain ⟨i, hi, rfl⟩ := List.getElem_of_mem hc
    have hlt : i < x.knownContents.length := by
      rw [hall.length_eq]
      exact hi
    exact ⟨_, .child hx (List.getElem?_eq_getElem hlt) (List.getElem?_eq_getElem hi)⟩
  | alt _ ih =>
    obtain ⟨x, hx⟩ := ih
    obtain ⟨y, hy, -⟩ := (h.inside hx).stands.alt _ _ rfl
    exact ⟨y, .alt hx hy⟩

/-- What a section has of the value in its slot: its root is aligned below a vertical parent, every
node stands for a value in the slot, and wherever a node stands for a value, it is laid out as that
value says. -/
structure SectionLaidOut (slot : Option Json) (s : Tree.Section) : Prop where
  root : Aligned .vertical s.content
  nodes : ∃ w, slot = some w ∧ (∀ m, Under s.content m → ∃ x, Inside w s.content x m) ∧
    ∀ x m, Inside w s.content x m → LaidOut x m

theorem SectionLaidOut.of_founded {w : Json} {s : Tree.Section}
    (hroot : Aligned .vertical s.content) (h : Founded .skip w s.content) :
    SectionLaidOut (some w) s :=
  ⟨hroot, w, rfl, fun _ hm => h.exists_inside hm, fun _ _ hi => (h.inside hi).laidOut⟩

/-- A header, body or footer that is there is the box in its slot, with the padding of its
place. -/
theorem exists_box_of_boxedOf {size : BubbleSize} {hasFooter : Bool} {s : BoxedSection}
    {color : Option String} {slot : Option Json} {sec : Tree.Section}
    (h : boxedOf size hasFooter s color (slot.map .ofJson) = some sec) :
    ∃ w, slot = some w ∧ w.kind? = some .box ∧
      sec = ⟨color, s.growth, .box
        (box (.ofFields w.fields) (some (defaultPadding size s hasFooter)))
        (childrenOf ((Document.Box.ofFields w.fields).layout.getD .vertical)
          (Document.Box.ofFields w.fields).spacing 0 (w.contents.map .ofJson))⟩ := by
  have hstands : SectionStands .skip IsBoxValue slot
      (boxedOf size hasFooter s color (slot.map .ofJson)) :=
    boxedOf_stands size hasFooter s color slot [] fun hreject => by cases hreject
  rw [h] at hstands
  obtain ⟨w, rfl, hk⟩ := hstands.present.mp rfl
  rw [Option.map_some, Component.ofJson_box hk] at h
  cases h
  exact ⟨w, rfl, hk, rfl⟩

/-- The root of such a section stands for the value in the slot. -/
theorem founded_root {w : Json} (hk : w.kind? = some .box) (d : Edges) :
    Founded .skip w (.box (box (.ofFields w.fields) (some d))
      (childrenOf ((Document.Box.ofFields w.fields).layout.getD .vertical)
        (Document.Box.ofFields w.fields).spacing 0 (w.contents.map .ofJson))) :=
  ⟨⟨.vertical, _, nodeOf_ofJson_box hk, .inr ⟨_, _, _, rfl, rfl, rfl⟩⟩,
    fun hreject => by cases hreject⟩

/-- A section is a header, body or footer, or else the hero, and comes from the slot of its
name. -/
theorem mem_sections_bubbleOf {v : Json} {name : String} {sec : Tree.Section}
    (h : (name, sec) ∈ (bubbleOf (.ofFields v.fields)).sections) :
    (∃ (s : BoxedSection) (size : BubbleSize) (hasFooter : Bool) (color : Option String),
      name = Keyword.word s ∧
        boxedOf size hasFooter s color ((v.slot? name).map .ofJson) = some sec) ∨
      name = "hero" ∧ ∃ color, heroOf color ((v.slot? name).map .ofJson) = some sec := by
  unfold Tree.Bubble.sections bubbleOf bubbleWith at h
  simp only [Document.Bubble.ofFields, Document.sectionOf_eq, List.mem_filterMap, List.mem_cons,
    List.not_mem_nil, or_false, Option.map_eq_some_iff] at h
  obtain ⟨_, (rfl | rfl | rfl | rfl), _, hsec, heq⟩ := h
  · cases heq
    exact .inl ⟨.header, _, _, _, rfl, hsec⟩
  · cases heq
    exact .inr ⟨rfl, _, hsec⟩
  · cases heq
    exact .inl ⟨.body, _, _, _, rfl, hsec⟩
  · cases heq
    exact .inl ⟨.footer, _, _, _, rfl, hsec⟩

/-- The node `n` is what the value `w` comes to at the top of a section: its node, or the node of a
box with the padding that its place asks for. -/
def RootOf (w : Json) (n : Node) : Prop :=
  nodeOf .vertical (.ofJson w) = some n ∨
    w.kind? = some .box ∧ ∃ d : Edges, n = .box (box (.ofFields w.fields) (some d))
      (childrenOf ((Document.Box.ofFields w.fields).layout.getD .vertical)
        (Document.Box.ofFields w.fields).spacing 0 (w.contents.map .ofJson))

/-- The content of every section stands for the value in the slot of its name. -/
theorem exists_root {v : Json} {name : String} {sec : Tree.Section}
    (h : (name, sec) ∈ (bubbleOf (.ofFields v.fields)).sections) :
    ∃ w, v.slot? name = some w ∧ Founded .skip w sec.content ∧ RootOf w sec.content := by
  rcases mem_sections_bubbleOf h with ⟨s, size, hasFooter, color, -, hsec⟩ | ⟨-, color, hsec⟩
  · obtain ⟨w, hw, hk, rfl⟩ := exists_box_of_boxedOf hsec
    exact ⟨w, hw, founded_root hk _, .inr ⟨hk, _, rfl⟩⟩
  · obtain ⟨n, hn, rfl⟩ := Option.map_eq_some_iff.mp hsec
    rcases hw : v.slot? name with _ | w
    · rw [hw] at hn
      cases hn
    · rw [hw] at hn
      have hn : nodeOf .vertical (.ofJson w) = some n := hn
      have hfounded : Founded .skip w n := .of_nodeOf hn fun hreject => by cases hreject
      exact ⟨w, rfl, hfounded, .inl hn⟩

theorem aligned_of_rootOf {w : Json} {n : Node} (h : RootOf w n) : Aligned .vertical n := by
  rcases h with h | ⟨-, d, rfl⟩
  · exact aligned_nodeOf h
  · exact fun m hm => side_of_mem_margin hm

theorem bubbleOf_laidOut {v : Json} {name : String} {sec : Tree.Section}
    (h : (name, sec) ∈ (bubbleOf (.ofFields v.fields)).sections) :
    SectionLaidOut (v.slot? name) sec := by
  obtain ⟨w, hw, hfounded, hroot⟩ := exists_root h
  rw [hw]
  exact .of_founded (aligned_of_rootOf hroot) hfounded

/-- **Margins and rules.** In the tree of every document, whatever the policy, every node of every
section stands for a value, and at every place the children of a box are those of the known items of
the value there, each with the margin that the box puts before it: on the side of its axis, none on
the first item, on fillers and on spacers, and on all others the one length that the author of the
box wrote. Separators and texts follow the axis of the box, and the root of a section and the
alternative content of a video follow a vertical parent. -/
theorem json_laidOut (p : Policy) (v : Json) (t : Tree.Message)
    (h : (json p v).result = .ok t) :
    ∃ c, v.field? "contents" = some c ∧
      List.Forall₂ (fun (w : Json) (b : Tree.Bubble) =>
        ∀ name sec, (name, sec) ∈ b.sections → SectionLaidOut (w.slot? name) sec)
          c.bubbles t.bubbles :=
  forall₂_bubbles h fun _ _ _ hsec => bubbleOf_laidOut hsec

/-- A row of spaced children whose first item is left out. -/
def spacedRow : Json :=
  let typed (kind : String) (fs : List (String × Json)) : Json :=
    .object (("type", .string kind) :: fs)
  typed "flex" [("contents", typed "bubble" [("body", typed "box" [
    ("layout", .string "horizontal"), ("spacing", .string "md"),
    ("contents", .array [typed "table" [], typed "separator" [("margin", .string "sm")],
      typed "filler" [], typed "text" [("margin", .string "5px")]])])])]

theorem json_laidOut_spacedRow :
    ∃ t, (json .skip spacedRow).result = .ok t ∧
      ∃ c, spacedRow.field? "contents" = some c ∧
        List.Forall₂ (fun (w : Json) (b : Tree.Bubble) =>
          ∀ name sec, (name, sec) ∈ b.sections → SectionLaidOut (w.slot? name) sec)
            c.bubbles t.bubbles := by
  obtain ⟨m, hm⟩ : ∃ m, Document.Message.ofJson spacedRow = .ok m := ⟨_, rfl⟩
  have h : (json .skip spacedRow).result = .ok (treeOf m) := json_skip_result hm
  exact ⟨treeOf m, h, json_laidOut .skip spacedRow (treeOf m) h⟩

end FlexLayout.Resolve
