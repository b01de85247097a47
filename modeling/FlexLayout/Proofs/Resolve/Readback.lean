import FlexLayout.Proofs.Resolve.Envelope
import FlexLayout.Proofs.Tree.Readability

/-!
# Which trees are read again

The text of a tree is read just if the tree holds no infinity and no NaN and its writing is not
nested too deeply (`Message.isSome_ofText?_text`). Resolving guarantees neither: the side of a ratio
may be infinite, and a box inside a box takes two levels of the document but three of the tree.
-/

namespace FlexLayout

namespace Json

theorem le_fieldDepth {fs : List (String × Json)} {name : String} {v : Json}
    (h : (name, v) ∈ fs) : v.depth ≤ fieldDepth fs := fieldDepth_le.mp le_rfl (name, v) h

theorem le_itemDepth {items : List Json} {v : Json} (h : v ∈ items) :
    v.depth ≤ itemDepth items := itemDepth_le.mp le_rfl v h

/-- A field lies one level below its object. -/
theorem depth_field_lt {fs : List (String × Json)} (name : String) {v : Json}
    (h : (name, v) ∈ fs) : v.depth < (object fs).depth := by
  rw [depth]
  exact Nat.lt_succ_of_le (le_fieldDepth h)

theorem depth_item_lt {items : List Json} {v : Json} (h : v ∈ items) :
    v.depth < (array items).depth := by
  rw [depth]
  exact Nat.lt_succ_of_le (le_itemDepth h)

end Json

namespace Tree

/-! ## Texts -/

namespace Message

theorem legible (m : Message) : m.toJson.Legible := m.recovers.legible

/-- A tree that is not nested too deeply is read just if its doubles are finite. -/
theorem isSome_ofText?_of_depth {m : Message} (h : m.toJson.depth ≤ Json.maxNesting) :
    (ofText? m.text).isSome = m.floats.all Float.isFinite := by
  unfold ofText? text
  rw [Json.readFields?_pretty_of_legible names m.legible h, Option.bind_some]
  exact m.recovers.isSome_read

theorem ofText?_of_depth {m : Message} (h : Json.maxNesting < m.toJson.depth) :
    ofText? m.text = none := by
  have hnames : ∀ f ∈ [("alt_text", Json.string m.altText), ("contents", m.contents.toJson)],
      f.1 ∈ names := by
    intro f hf
    rw [List.mem_cons, List.mem_singleton] at hf
    rcases hf with rfl | rfl
    · exact List.mem_cons_self
    · exact List.mem_cons_of_mem _ List.mem_cons_self
  unfold ofText? text
  rw [toJson, Json.readFields?_pretty_deep m.legible hnames h]
  rfl

end Message

/-! ## Boxes in boxes -/

mutual

/-- How many boxes stand in each other. -/
def Node.boxes : Node → Nat
  | .box _ children => childBoxes children + 1
  | .video _ (some alt) => Node.boxes alt
  | _ => 0
termination_by structural n => n

def childBoxes : List (Spaced Node) → Nat
  | [] => 0
  | ⟨_, n⟩ :: rest => max (Node.boxes n) (childBoxes rest)
termination_by structural children => children

end

theorem two_le_depth_geometry (g : Geometry) : 2 ≤ g.toJson.depth := by
  have h : g.offsets.toJson.depth < g.toJson.depth :=
    Json.depth_field_lt "offsets" (by simp)
  have hoffsets : 0 < g.offsets.toJson.depth := Nat.succ_pos _
  omega

mutual

/-- Each box takes three levels: its own, that of its children, and that of the child with its
spacing. -/
theorem three_mul_boxes_le : ∀ n : Node, 3 * n.boxes ≤ n.toJson.depth
  | .box b children => by
    have hgeometry : b.geometry.toJson.depth < (Node.box b children).toJson.depth :=
      Json.depth_field_lt "geometry" (by simp [Box.fields])
    have hchildren : (Json.array (Node.childrenToJson children)).depth <
        (Node.box b children).toJson.depth :=
      Json.depth_field_lt "children" (by simp [Box.fields])
    have := two_le_depth_geometry b.geometry
    have := three_mul_childBoxes_le children
    rw [Json.depth] at hchildren
    rw [Node.boxes]
    omega
  | .video v (some alt) => by
    have halt : alt.toJson.depth < (Node.video v (some alt)).toJson.depth :=
      Json.depth_field_lt "alt_content" (by simp [Video.fields])
    have := three_mul_boxes_le alt
    rw [Node.boxes]
    omega
  | .video _ none | .button _ | .filler _ | .icon _ | .image _ | .separator _ | .spacer _
  | .text _ | .span _ => Nat.zero_le _
termination_by structural n => n

theorem three_mul_childBoxes_le : ∀ cs : List (Spaced Node), childBoxes cs = 0 ∨
    3 * childBoxes cs + 1 ≤ Json.itemDepth (Node.childrenToJson cs)
  | [] => .inl rfl
  | ⟨m, n⟩ :: rest => by
    have hnode : n.toJson.depth <
        (Json.object [("spacing", optionalMargin m), ("node", n.toJson)]).depth :=
      Json.depth_field_lt "node" (by simp)
    have := three_mul_boxes_le n
    have := three_mul_childBoxes_le rest
    rw [childBoxes, Node.childrenToJson, Json.itemDepth]
    omega
termination_by structural cs => cs

end

theorem Bubble.mem_fields_of_mem_sections {b : Bubble} {name : String} {s : Section}
    (h : (name, s) ∈ b.sections) : (name, s.toJson) ∈ b.fields := by
  have hsome (a : Option Section) (ha : a = some s) : optionalSection a = s.toJson := by
    rw [ha]
    rfl
  simp only [sections, List.mem_filterMap, List.mem_cons, List.not_mem_nil, or_false] at h
  obtain ⟨_, hmem, hs⟩ := h
  rcases hmem with rfl | rfl | rfl | rfl <;>
  · obtain ⟨_, ha, hpair⟩ := Option.map_eq_some_iff.mp hs
    cases hpair
    simp [fields, hsome _ ha]

/-- A bubble lies below the message, alone or in a carousel. -/
theorem Message.depth_bubble_lt {m : Message} {b : Bubble} (h : b ∈ m.bubbles) :
    (Json.object b.fields).depth < m.toJson.depth := by
  have hcontents : m.contents.toJson.depth < m.toJson.depth :=
    Json.depth_field_lt "contents" (by simp)
  refine lt_of_le_of_lt ?_ hcontents
  unfold bubbles at h
  cases hm : m.contents with
  | bubble b' =>
    rw [hm] at h
    rw [List.mem_singleton.mp h]
    show _ ≤ Json.fieldDepth (("type", .string "bubble") :: b'.fields) + 1
    rw [Json.depth, Json.fieldDepth]
    omega
  | carousel c =>
    rw [hm] at h
    have hitem : (Json.object b.fields).depth <
        (Json.array (c.bubbles.map fun b => .object b.fields)).depth :=
      Json.depth_item_lt (List.mem_map_of_mem h)
    have hfield : (Json.array (c.bubbles.map fun b => .object b.fields)).depth <
        (Container.carousel c).toJson.depth :=
      Json.depth_field_lt "bubbles" (by simp [Carousel.fields])
    omega

/-- **Boxes.** A tree with more than 41 boxes in each other is not read. -/
theorem Message.ofText?_of_boxes {m : Message} {b : Bubble} {name : String} {s : Section}
    (hb : b ∈ m.bubbles) (hs : (name, s) ∈ b.sections) (h : 41 < s.content.boxes) :
    ofText? m.text = none := by
  have hbubble := depth_bubble_lt hb
  have hsection : s.toJson.depth < (Json.object b.fields).depth :=
    Json.depth_field_lt name (Bubble.mem_fields_of_mem_sections hs)
  have hcontent : s.content.toJson.depth < s.toJson.depth :=
    Json.depth_field_lt "content" (by simp)
  have hboxes := three_mul_boxes_le s.content
  refine ofText?_of_depth ?_
  unfold Json.maxNesting
  omega

/-! ## Trees that are read -/

/-- **Reading.** The text of a tree is read as some tree just if all doubles in the tree are finite
and its writing has at most 127 levels. -/
theorem Message.isSome_ofText?_text (m : Message) : (ofText? m.text).isSome = true ↔
    (∀ x ∈ m.floats, x.isFinite = true) ∧ m.toJson.depth ≤ Json.maxNesting := by
  by_cases h : m.toJson.depth ≤ Json.maxNesting
  · rw [isSome_ofText?_of_depth h, List.all_eq_true]
    exact ⟨fun hfinite => ⟨hfinite, h⟩, And.left⟩
  · rw [ofText?_of_depth (not_le.mp h)]
    constructor
    · rintro ⟨⟩
    · intro hall
      exact (h hall.2).elim

end Tree

namespace Resolve

theorem text?_of_read? {s : String} {v : Json} (h : Json.read? s = some v) (p : Policy) :
    text? p s = json p v := by
  unfold text?
  rw [h]

/-- An icon with a ratio whose width is infinite. -/
def unboundedIcon : Json :=
  .object [("altText", .string ""), ("contents", .object [("hero", .object [
    ("aspectRatio", .string "inf:1"), ("type", .string "icon"), ("url", .string "u")]),
    ("type", .string "bubble")]), ("type", .string "flex")]

/-- Nothing of the icon is left out, and its width comes last among the doubles of the tree. -/
theorem unboundedIcon_tree : (Document.Message.ofJson unboundedIcon).toOption.any (fun m =>
    m.unplaced.isEmpty && decide ((treeOf m).toJson.depth ≤ Json.maxNesting) &&
      (treeOf m).floats.getLast?.any fun x => !x.isFinite) = true := by
  decide +kernel

/-- Both policies resolve the icon, but the text of its tree is not read. -/
theorem text_unread : ∃ s m, (text? .skip s).result = .ok m ∧ (text? .reject s).result = .ok m ∧
    Tree.Message.ofText? m.text = none := by
  have htree := unboundedIcon_tree
  rcases hm : Document.Message.ofJson unboundedIcon with fault | m
  · rw [hm] at htree
    cases htree
  rw [hm] at htree
  simp only [Except.toOption, Option.any_some, Bool.and_eq_true, List.isEmpty_iff,
    decide_eq_true_eq, Option.any_eq_true] at htree
  obtain ⟨⟨hunplaced, hdepth⟩, x, hlast, hx⟩ := htree
  have hread : Json.read? unboundedIcon.pretty = some unboundedIcon :=
    Json.read?_pretty (by simp [unboundedIcon]) (by decide)
  have hresult (p : Policy) : (text? p unboundedIcon.pretty).result = .ok (treeOf m) := by
    rw [text?_of_read? hread, json_of_ok hm, (yields_message m).result_eq, hunplaced]
    cases p <;> rfl
  refine ⟨unboundedIcon.pretty, treeOf m, hresult .skip, hresult .reject, ?_⟩
  have hnone : (Tree.Message.ofText? (treeOf m).text).isSome = false := by
    rw [Tree.Message.isSome_ofText?_of_depth hdepth, List.all_eq_false]
    exact ⟨x, List.mem_of_getLast? hlast, by simpa using hx⟩
  exact Option.isNone_iff_eq_none.mp (Option.isSome_eq_false_iff.mp hnone)

end Resolve

end FlexLayout
