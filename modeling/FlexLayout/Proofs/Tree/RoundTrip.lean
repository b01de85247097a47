import FlexLayout.Proofs.Tree.Parts

/-!
# Written trees are read back

The text of a tree is read as the tree. Nodes are read from the leaves up, so the induction over a
node says of its writing what the reading annotates it with: the node itself, and for a list of
children the list. Above the nodes, sections, bubbles and containers are records again.
-/

namespace FlexLayout.Tree

/-! ## Annotations -/

namespace Reading

theorem ofFields_eq_map (fs : List (String × Json)) :
    ofFields fs = fs.map fun (k, v) => (k, ofJson v) := by
  induction fs with
  | nil => rfl
  | cons f rest ih =>
    rw [ofFields, ih]
    rfl

theorem json_ofJson (v : Json) : (ofJson v).json = v := by
  cases v <;> rfl

theorem keys_ofFields (fs : List (String × Json)) :
    (ofFields fs).map Prod.fst = fs.map Prod.fst := by
  rw [ofFields_eq_map, List.map_map]
  rfl

/-- Annotated fields that are all given are the given fields underneath. -/
theorem json_given (fs : List (String × Json)) :
    Record.json (given (ofFields fs)) = given fs := by
  rw [ofFields_eq_map]
  unfold Record.json given
  rw [List.map_map, List.map_map]
  refine List.map_congr_left fun f _ => ?_
  show (f.1, Slot.given (ofJson f.2).json) = _
  rw [json_ofJson]

variable {α : Type} {names : List String} {read : Record Json → Option α}
  {fs : List (String × Json)} {a : α}

theorem named_ofFields (h : NamedFields names fs) : NamedFields names (ofFields fs) :=
  ⟨(keys_ofFields fs).trans h.names_eq, h.nodup⟩

/-- Reading annotated fields as a record gives what the record stands for. -/
theorem bind_record {β : Type} (h : FaithfulRecord names read fs a)
    (f : Record Reading → α → Option β) :
    (((Parts.fields (ofFields fs)).record? names).bind fun r => (read r.json).bind (f r)) =
      f (given (ofFields fs)) a := by
  rw [(named_ofFields h.named).record?_eq, Option.bind_some, json_given, h.read_given,
    Option.bind_some]

/-- A case is read as the node of its kind. -/
theorem node_tagged (k : Kind) (h : NamedFields names fs) :
    (ofJson (tagged k.word fs)).node = nodeOfKind? (.fields (ofFields fs)) k := by
  have hword : (Dialect.tree.case? Kind.words (ofJson (.string k.word)).json).bind
      Keyword.ofWord? = some k := by
    cases k <;> rfl
  show nodeOf? (.fields (("type", ofJson (.string k.word)) :: ofFields fs)) = _
  unfold nodeOf?
  rw [tagged?_fields (named_ofFields h).not_mem_type]
  simp only [Option.bind_eq_bind, Option.bind_some, hword]

end Reading

/-! ## Nodes -/

mutual

/-- The doubles in a node and in all below it. -/
def Node.floats : Node → List Float
  | .box b children => b.floats ++ childFloats children
  | .button b => b.floats
  | .filler f => f.floats
  | .icon i => i.floats
  | .image i => i.floats
  | .separator s => s.floats
  | .spacer s => s.floats
  | .text t => t.floats
  | .span s => s.floats
  | .video v none => v.floats
  | .video v (some alt) => v.floats ++ Node.floats alt
termination_by structural n => n

def childFloats : List (Spaced Node) → List Float
  | [] => []
  | ⟨m, n⟩ :: rest => optionFloats Margin.floats m ++ Node.floats n ++ childFloats rest
termination_by structural children => children

end

theorem readable_tagged {kind : String} {fs : List (String × Json)}
    (h : ∀ f ∈ fs, f.2.Readable) : (tagged kind fs).Readable := by
  rw [tagged, Json.readable_object, List.forall_mem_cons]
  exact ⟨Json.readable_string kind, h⟩

/-- A case whose record is read as its node is faithful. -/
theorem Node.faithful_tagged {α : Type} {names : List String} {read : Record Json → Option α}
    {fs : List (String × Json)} {a : α} {n : Node} (h : FaithfulRecord names read fs a)
    (hwrite : n.toJson = tagged n.kind.word fs)
    (hread : Reading.nodeOfKind? (.fields (Reading.ofFields fs)) n.kind = some n) :
    Faithful toJson ofJson? n where
  read_write := by
    unfold ofJson?
    rw [hwrite, Reading.node_tagged n.kind h.named, hread]
  ne_null := by rw [hwrite]; rintro ⟨⟩
  readable := by
    rw [hwrite]
    exact readable_tagged h.readable

/-- A node that is nothing but its record. -/
theorem Node.faithful_leaf {α : Type} {names : List String} {read : Record Json → Option α}
    {fs : List (String × Json)} {a : α} {f : α → Node} (h : FaithfulRecord names read fs a)
    (hwrite : (f a).toJson = tagged (f a).kind.word fs)
    (hread : ∀ parts, Reading.nodeOfKind? parts (f a).kind =
      (parts.record? names).bind fun r => (read r.json).bind fun a => some (f a)) :
    Faithful toJson ofJson? (f a) := by
  refine Node.faithful_tagged h hwrite ?_
  rw [hread]
  exact Reading.bind_record h fun _ a => some (f a)

/-- The fields of a child, with the margin before it. -/
theorem child_record {m : Option Margin} {v : Json} (hm : AllExact (optionFloats Margin.floats m))
    (hv : v.Readable) :
    FaithfulRecord ["spacing", "node"] (fun r => r.optional "spacing" Margin.ofJson?)
      [("spacing", optionalMargin m), ("node", v)] m :=
  ⟨rfl, by decide, by simp [hm], by simp [hm, hv]⟩

/-- A child is read with its node. -/
theorem child_toJson {m : Option Margin} {n : Node}
    (hm : AllExact (optionFloats Margin.floats m)) (hn : Faithful Node.toJson Node.ofJson? n) :
    (Reading.ofJson (.object [("spacing", optionalMargin m), ("node", n.toJson)])).child =
      some ⟨m, n⟩ := by
  have hnode : (Reading.ofJson n.toJson).node = some n := hn.read_write
  refine (Reading.bind_record (child_record hm hn.readable) fun r spacing =>
    (r.required "node" Reading.node).bind fun node => some (Spaced.mk spacing node)).trans ?_
  simp [Reading.ofFields, hnode]

/-- A box is read with its children. -/
theorem node_box {b : Box} {items : List Json} {cs : List Child}
    (h : FaithfulRecord Box.names Box.ofRecord? (b.fields (.array items)) b)
    (hchildren : (Reading.ofItems items).mapM Reading.child = some cs) :
    Reading.nodeOfKind? (.fields (Reading.ofFields (b.fields (.array items)))) .box =
      some (.box b cs) := by
  have hread : (Reading.ofJson (.array items)).children = some cs := hchildren
  refine (Reading.bind_record h fun r b =>
    (r.required "children" Reading.children).bind fun cs => some (Node.box b cs)).trans ?_
  simp [Box.fields, Reading.ofFields, hread]

/-- A video is read with its alternative content. -/
theorem node_video {v : Video} {w : Json} {alt : Option Node}
    (h : FaithfulRecord Video.names Video.ofRecord? (v.fields w) v)
    (halt : nullable Reading.node (Reading.ofJson w) = some alt) :
    Reading.nodeOfKind? (.fields (Reading.ofFields (v.fields w))) .video =
      some (.video v alt) := by
  refine (Reading.bind_record h fun r v =>
    (r.optional "alt_content" Reading.node).bind fun alt => some (Node.video v alt)).trans ?_
  simp [Video.fields, Reading.ofFields, halt]

mutual

theorem Node.faithful : ∀ n : Node, AllExact n.floats → Faithful Node.toJson Node.ofJson? n
  | .box b cs, h => by
    rw [Node.floats, allExact_append] at h
    obtain ⟨hread, hreadable⟩ := faithful_children cs h.2
    have hrecord := Box.record h.1 (Json.readable_array.mpr hreadable)
    exact Node.faithful_tagged hrecord rfl (node_box hrecord hread)
  | .button _, h => Node.faithful_leaf (Button.record h) rfl fun _ => rfl
  | .filler _, h => Node.faithful_leaf (Filler.record h) rfl fun _ => rfl
  | .icon _, h => Node.faithful_leaf (Icon.record h) rfl fun _ => rfl
  | .image _, h => Node.faithful_leaf (Image.record h) rfl fun _ => rfl
  | .separator _, h => Node.faithful_leaf (Separator.record h) rfl fun _ => rfl
  | .spacer _, h => Node.faithful_leaf (Spacer.record h) rfl fun _ => rfl
  | .text _, h => Node.faithful_leaf (Text.record h) rfl fun _ => rfl
  | .span _, h => Node.faithful_leaf (Span.record h) rfl fun _ => rfl
  | .video v none, h =>
    have hrecord := Video.record h Json.readable_null
    Node.faithful_tagged hrecord rfl (node_video hrecord rfl)
  | .video v (some n), h => by
    rw [Node.floats, allExact_append] at h
    have hn := Node.faithful n h.2
    have hrecord := Video.record h.1 hn.readable
    have hne : (Reading.ofJson n.toJson).json ≠ .null := by
      rw [Reading.json_ofJson]
      exact hn.ne_null
    have hnode : nullable Reading.node (Reading.ofJson n.toJson) = some (some n) := by
      rw [nullable_of_ne_null hne]
      exact congrArg (Option.map some) hn.read_write
    exact Node.faithful_tagged hrecord rfl (node_video hrecord hnode)
termination_by structural n => n

theorem faithful_children : ∀ cs : List (Spaced Node), AllExact (childFloats cs) →
    (Reading.ofItems (Node.childrenToJson cs)).mapM Reading.child = some cs ∧
      ∀ v ∈ Node.childrenToJson cs, v.Readable
  | [], _ => ⟨rfl, by rintro v ⟨⟩⟩
  | ⟨m, n⟩ :: rest, h => by
    rw [childFloats, allExact_append, allExact_append] at h
    have hn := Node.faithful n h.1.2
    obtain ⟨hread, hreadable⟩ := faithful_children rest h.2
    rw [Node.childrenToJson]
    refine ⟨?_, List.forall_mem_cons.mpr
      ⟨Json.readable_object.mpr (child_record h.1.1 hn.readable).readable, hreadable⟩⟩
    rw [Reading.ofItems, List.mapM_cons, child_toJson h.1.1 hn, hread]
    rfl
termination_by structural cs => cs

end

/-! ## Sections and bubbles -/

def Section.floats (s : Section) : List Float := s.flex.floats ++ s.content.floats

theorem Section.faithful {s : Section} (h : AllExact s.floats) :
    Faithful toJson ofJson? s := by
  simp only [floats, allExact_append] at h
  have hcontent := s.content.faithful h.2
  have hrecord : FaithfulRecord ["background_color", "flex", "content"]
      (fun r => do
        some {
          backgroundColor := ← r.optional "background_color" Json.text?
          flex := ← r.required "flex" Growth.ofJson?
          content := ← r.required "content" Node.ofJson? })
      [("background_color", optionalString s.backgroundColor), ("flex", s.flex.toJson),
        ("content", s.content.toJson)] s :=
    ⟨rfl, by decide, by simp [h, hcontent.read_write], by simp [h, hcontent.readable]⟩
  exact hrecord.faithful rfl rfl

@[simp] theorem nullable_optionalSection {s : Option Section}
    (h : AllExact (optionFloats Section.floats s)) :
    nullable Section.ofJson? (optionalSection s) = some s :=
  Faithful.nullable_ofOption fun b hb => Section.faithful (allExact_optionFloats.mp h b hb)

@[simp] theorem readable_optionalSection {s : Option Section}
    (h : AllExact (optionFloats Section.floats s)) : (optionalSection s).Readable :=
  Faithful.readable_ofOption fun b hb => Section.faithful (allExact_optionFloats.mp h b hb)

def Bubble.floats (b : Bubble) : List Float :=
  b.maxWidth.floats ++ b.cornerRadius.floats ++ optionFloats Section.floats b.header
    ++ optionFloats Section.floats b.hero ++ optionFloats Section.floats b.body
    ++ optionFloats Section.floats b.footer

theorem Bubble.record {b : Bubble} (h : AllExact b.floats) :
    FaithfulRecord names ofRecord? b.fields b := by
  simp only [floats, allExact_append] at h
  exact ⟨rfl, by decide, by simp [ofRecord?, fields, h], by simp [fields, h]⟩

theorem Bubble.faithful {b : Bubble} (h : AllExact b.floats) :
    Faithful (fun b : Bubble => .object b.fields) ofJson? b := (record h).faithful rfl rfl

def Carousel.floats (c : Carousel) : List Float :=
  c.bubbles.flatMap Bubble.floats ++ c.gap.floats ++ c.insetStart.floats ++ c.insetEnd.floats
    ++ c.bubbleWidth.floats

/-- The bubbles of a carousel, item by item. -/
theorem Carousel.record {c : Carousel} (h : AllExact c.floats) :
    FaithfulRecord names ofRecord? c.fields c := by
  simp only [floats, allExact_append, allExact_flatMap] at h
  obtain ⟨⟨⟨⟨hbubbles, hgap⟩, hstart⟩, hend⟩, hwidth⟩ := h
  have hread : list? Bubble.ofJson? (.array (c.bubbles.map fun b => .object b.fields)) =
      some c.bubbles := mapM_write fun b hb => (Bubble.faithful (hbubbles b hb)).read_write
  have hreadable : ∀ b ∈ c.bubbles, ∀ f ∈ b.fields, f.2.Readable := fun b hb =>
    (Bubble.record (hbubbles b hb)).readable
  refine ⟨rfl, by decide, ?_, ?_⟩
  · simp [ofRecord?, fields, hgap, hstart, hend, hwidth, hread]
  · simpa [fields, hgap, hstart, hend, hwidth] using
      fun b hb k v hf => hreadable b hb (k, v) hf

/-! ## Messages -/

def Container.floats : Container → List Float
  | bubble b => b.floats
  | carousel c => c.floats

theorem Container.faithful {c : Container} (h : AllExact c.floats) :
    Faithful toJson ofJson? c := by
  cases c with
  | bubble b =>
    have hrecord := Bubble.record h
    refine ⟨?_, by rintro ⟨⟩, readable_tagged hrecord.readable⟩
    unfold ofJson? toJson tagged
    simp only [Json.parts?, Option.bind_eq_bind, Option.bind_some,
      tagged?_fields hrecord.not_mem_type, Json.text?, hrecord.record?_eq, hrecord.read_given]
    rfl
  | carousel c =>
    have hrecord := Carousel.record h
    refine ⟨?_, by rintro ⟨⟩, readable_tagged hrecord.readable⟩
    unfold ofJson? toJson tagged
    simp only [Json.parts?, Option.bind_eq_bind, Option.bind_some,
      tagged?_fields hrecord.not_mem_type, Json.text?, hrecord.record?_eq, hrecord.read_given]
    rfl

/-- All doubles in a message. -/
def Message.floats (m : Message) : List Float := m.contents.floats

theorem Message.faithful {m : Message} (h : AllExact m.floats) : Faithful toJson ofJson? m := by
  have hcontents := Container.faithful h
  have hrecord : FaithfulRecord names
      (fun r => do
        some ⟨← r.required "alt_text" Json.text?, ← r.required "contents" Container.ofJson?⟩)
      [("alt_text", .string m.altText), ("contents", m.contents.toJson)] m :=
    ⟨rfl, by decide, by simp [hcontents.read_write], by simp [hcontents.readable]⟩
  exact hrecord.faithful rfl rfl

/-- **Round trip.** A tree is read back from its text: every tree whose doubles are finite and
read back as themselves one by one, and whose writing is not nested too deeply. -/
theorem Message.ofText?_text (m : Message) (hfinite : ∀ x ∈ m.floats, x.isFinite = true)
    (hreread : ∀ x ∈ m.floats, x.isFinite = true → Json.Rereads (.float x))
    (hdepth : m.toJson.depth ≤ Json.maxNesting) : ofText? m.text = some m := by
  have h : Faithful toJson ofJson? m :=
    Message.faithful fun x hx => ⟨hfinite x hx, hreread x hx (hfinite x hx)⟩
  unfold ofText? text
  rw [Json.readFields?_pretty names h.readable hdepth, Option.bind_some, h.read_write]

/-- A bubble with a video, its alternative content, and an action without its options. -/
def Message.sample : Message where
  altText := "one \"two\"\n"
  contents := .bubble {
    size := .mega
    direction := .ltr
    maxWidth := .px 300
    cornerRadius := .literal "5px"
    header := none
    hero := none
    body := some ⟨none, .weight 1, .video ⟨"v", "p", 56.25, none⟩ (some (.spacer ⟨.px 12.5⟩))⟩
    footer := none
    action := some (.uri none "a" (some ⟨none⟩)) }

theorem Message.ofText?_sample : ofText? sample.text = some sample := by
  have hfloats : sample.floats = [300, 56.25, 12.5] := by decide +kernel
  refine ofText?_text sample ?_ ?_ (by decide +kernel)
  · rw [hfloats]
    decide +kernel
  · rw [hfloats]
    intro x hx _
    rw [Json.rereads_iff]
    rcases List.mem_cons.mp hx with rfl | hx
    · exact ⟨⟨false, ['3', '0', '0'], some ['0'], none⟩, by decide +kernel, by decide +kernel⟩
    rcases List.mem_cons.mp hx with rfl | hx
    · exact ⟨⟨false, ['5', '6'], some ['2', '5'], none⟩, by decide +kernel, by decide +kernel⟩
    rw [List.mem_singleton.mp hx]
    exact ⟨⟨false, ['1', '2'], some ['5'], none⟩, by decide +kernel, by decide +kernel⟩

end FlexLayout.Tree
