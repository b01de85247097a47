import FlexLayout.Proofs.Outline
import FlexLayout.Tree.Drawing

/-!
# The elements of a message

A drawing gives a line to the message, the carousel, every bubble, section and node, and every span
inside a text. These are the elements, each with the elements right below it. A drawing whose raw
strings hold no line feed is the elements line by line, and its guides and markers alone tell the
shape of the message (`drawing_lines`).
-/

namespace FlexLayout.Tree

open FlexLayout.Text (OneLine oneLine_append oneLine_quote split split_closed)

/-- Something that a drawing gives a line of its own. -/
inductive Element where
  | ofMessage (m : Message)
  | ofCarousel (c : Carousel)
  | ofBubble (b : Bubble)
  | ofSection (name : String) (s : Section)
  /-- A node with the spacing before it. -/
  | ofNode (spacing : Option Margin) (n : Node)
  /-- A span inside a text. -/
  | ofSpan (s : Span)

namespace Element

/-- The elements right below an element. -/
def parts : Element → List Element
  | ofMessage m =>
    match m.contents with
    | .bubble b => [ofBubble b]
    | .carousel c => [ofCarousel c]
  | ofCarousel c => c.bubbles.map ofBubble
  | ofBubble b => b.sections.map fun (name, s) => ofSection name s
  | ofSection _ s => [ofNode none s.content]
  | ofNode _ (.box _ children) => children.map fun child => ofNode child.spacing child.node
  | ofNode _ (.text t) => t.spans.map ofSpan
  | ofNode _ (.video _ alt) => alt.toList.map (ofNode none)
  | ofNode _ _ => []
  | ofSpan _ => []

/-- Follows indices down. -/
def at? (e : Element) : List Nat → Option Element
  | [] => some e
  | i :: rest => (e.parts[i]?).bind fun part => part.at? rest

/-- The outline of an element and all below it. -/
def outline : Element → Outline
  | ofMessage m => m.outline
  | ofCarousel c => (Container.carousel c).outline
  | ofBubble b => b.outline
  | ofSection name s => s.outline name
  | ofNode spacing n => n.outline spacing
  | ofSpan s => .node ("span " ++ Text.quote s.text) []

/-- What the line of an element says. -/
def label (e : Element) : String := e.outline.label

/-! ## Outlines of elements -/

theorem outlines_eq (children : List Child) :
    Node.outlines children = children.map fun child => child.node.outline child.spacing := by
  induction children with
  | nil => rfl
  | cons child rest ih =>
    obtain ⟨spacing, n⟩ := child
    rw [Node.outlines, ih]
    rfl

/-- An outline has a part for every element right below. -/
theorem parts_outline (e : Element) : e.outline.parts = e.parts.map outline := by
  cases e with
  | ofMessage m =>
    obtain ⟨altText, contents⟩ := m
    cases contents <;> rfl
  | ofCarousel c =>
    rw [parts, List.map_map]
    rfl
  | ofBubble b =>
    rw [parts, List.map_map]
    rfl
  | ofSection name s => rfl
  | ofNode spacing n =>
    cases n with
    | box b children =>
      rw [parts, List.map_map, outline, Node.outline, Outline.parts, outlines_eq]
      rfl
    | text t =>
      rw [parts, List.map_map]
      rfl
    | video v alt => cases alt <;> rfl
    | _ => rfl
  | ofSpan s => rfl

theorem at?_outline (e : Element) (p : List Nat) :
    e.outline.at? p = (e.at? p).map outline := by
  induction p generalizing e with
  | nil => rfl
  | cons i rest ih =>
    rw [Outline.at?, at?, parts_outline, List.getElem?_map]
    rcases e.parts[i]? with _ | part
    · rfl
    · exact ih part

/-! ## Raw strings -/

end Element

/-- The strings of a length that are shown as they are. -/
def lengthRaw : Length → List String
  | .literal s => [s]
  | .px _ | .percent _ => []

/-- The strings of a margin that are shown as they are, up to capitals. -/
def marginRaw (m : Option Margin) : List String := (m.map (·.amount)).elim [] lengthRaw

/-- The strings of a node that are shown as they are. -/
def Node.raw : Node → List String
  | .box b _ => marginRaw b.geometry.margin
  | .button b => b.label :: lengthRaw b.height
  | .filler _ | .span _ => []
  | .icon i => [i.url]
  | .image i => i.url :: lengthRaw i.width
  | .separator s => s.color :: marginRaw s.margin
  | .spacer s => lengthRaw s.height
  | .text t => t.fontSize.elim [] lengthRaw ++ marginRaw t.geometry.margin
  | .video v _ => [v.url]

/-- The strings of an element that its line shows as they are: the alternative text, labels,
addresses, colors and literal lengths. -/
def Element.raw : Element → List String
  | ofMessage m => [m.altText]
  | ofCarousel c => lengthRaw c.gap ++ lengthRaw c.bubbleWidth
  | ofBubble b => lengthRaw b.maxWidth ++ lengthRaw b.cornerRadius
  | ofSection _ s => s.backgroundColor.toList
  | ofNode spacing n => n.raw ++ marginRaw spacing
  | ofSpan _ => []

/-- Strings without a line feed. -/
def OneLines (ss : List String) : Prop := ∀ s ∈ ss, OneLine s

theorem oneLines_append {ss ts : List String} :
    OneLines (ss ++ ts) ↔ OneLines ss ∧ OneLines ts := List.forall_mem_append

theorem oneLines_cons {s : String} {ts : List String} :
    OneLines (s :: ts) ↔ OneLine s ∧ OneLines ts := List.forall_mem_cons

theorem oneLine_lengthText {l : Length} (h : OneLines (lengthRaw l)) : OneLine l.text := by
  cases l with
  | px x => exact oneLine_append.mpr ⟨Text.oneLine_numberText x, by decide⟩
  | percent x => exact oneLine_append.mpr ⟨Text.oneLine_numberText x, by decide⟩
  | literal s => exact h s (List.mem_singleton_self s)

theorem oneLine_marginText {m : Option Margin} (h : OneLines (marginRaw m)) :
    OneLine (marginText m) := by
  rcases m with _ | ⟨side, amount⟩
  · decide
  · have hside : OneLine (Keyword.word side) := by cases side <;> decide
    refine Text.OneLine.lowercase ?_
    simp only [oneLine_append]
    exact ⟨⟨⟨by decide, hside⟩, by decide⟩, oneLine_lengthText h⟩

theorem oneLine_growthText (g : Growth) : OneLine (growthText g) := by
  have hg : OneLine g.text := by
    cases g with
    | default => decide
    | none => decide
    | weight w => exact Text.oneLine_toString_nat _
    | factor x => exact Text.oneLine_numberText x
  exact oneLine_append.mpr ⟨oneLine_append.mpr ⟨by decide, hg⟩, by decide⟩

theorem oneLine_kind (a : Action) : OneLine a.kind := by
  have hkinds : ∀ s ∈ Action.kinds, OneLine s := by decide
  exact hkinds a.kind (by cases a <;> simp [Action.kind, Action.kinds])

theorem Node.oneLine_heading {n : Node} (h : OneLines n.raw) : OneLine n.heading := by
  have hlayout : ∀ l : Layout, OneLine (Keyword.title l) := by rintro (_ | _ | _) <;> decide +kernel
  have hstyle : ∀ s : ButtonStyle, OneLine (Keyword.title s) := by
    rintro (_ | _ | _) <;> decide +kernel
  have horientation : ∀ o : Orientation, OneLine (Keyword.title o) := by
    rintro (_ | _) <;> decide +kernel
  cases n with
  | box b children =>
    unfold heading
    simp only [oneLine_append]
    exact ⟨⟨⟨⟨by decide, hlayout _⟩, by decide⟩, oneLine_growthText _⟩, oneLine_marginText h⟩
  | button b =>
    obtain ⟨hlabel, hheight⟩ := oneLines_cons.mp h
    unfold heading
    simp only [oneLine_append]
    exact ⟨⟨⟨⟨⟨⟨⟨by decide, hlabel⟩, by decide⟩, hstyle _⟩, by decide⟩, oneLine_lengthText hheight⟩,
      by decide⟩, oneLine_growthText _⟩
  | filler f => exact oneLine_append.mpr ⟨by decide, oneLine_growthText _⟩
  | icon i =>
    unfold heading
    simp only [oneLine_append]
    exact ⟨⟨⟨⟨by decide, h i.url (List.mem_singleton_self _)⟩, by decide⟩,
      Text.oneLine_numberText _⟩, by decide⟩
  | image i =>
    obtain ⟨hurl, hwidth⟩ := oneLines_cons.mp h
    unfold heading
    simp only [oneLine_append]
    exact ⟨⟨⟨⟨⟨⟨by decide, hurl⟩, by decide⟩, oneLine_lengthText hwidth⟩, by decide⟩,
      Text.oneLine_numberText _⟩, by decide⟩
  | separator s =>
    obtain ⟨hcolor, hmargin⟩ := oneLines_cons.mp h
    unfold heading
    simp only [oneLine_append]
    exact ⟨⟨⟨⟨by decide, horientation _⟩, by decide⟩, hcolor⟩, oneLine_marginText hmargin⟩
  | spacer s => exact oneLine_append.mpr ⟨by decide, oneLine_lengthText h⟩
  | text t =>
    obtain ⟨hsize, hmargin⟩ := oneLines_append.mp h
    unfold heading
    simp only [oneLine_append]
    refine ⟨⟨⟨⟨by decide, oneLine_quote _⟩, ?_⟩, ?_⟩, oneLine_marginText hmargin⟩
    · rcases hfont : t.fontSize with _ | size
      · exact of_decide_eq_true rfl
      · rw [hfont] at hsize
        exact oneLine_append.mpr ⟨by decide, oneLine_lengthText hsize⟩
    · rcases t.lineHeight with x | x
      · simp only [oneLine_append]
        exact ⟨⟨by decide, Text.oneLine_numberText x⟩, by decide⟩
      · exact of_decide_eq_true rfl
  | span s => exact oneLine_append.mpr ⟨by decide, oneLine_quote _⟩
  | video v alt =>
    unfold heading
    simp only [oneLine_append]
    exact ⟨⟨⟨⟨by decide, h v.url (List.mem_singleton_self _)⟩, by decide⟩,
      Text.oneLine_numberText _⟩, by decide⟩

theorem Node.oneLine_label {spacing : Option Margin} {n : Node} (hn : OneLines n.raw)
    (hspacing : OneLines (marginRaw spacing)) : OneLine (n.label spacing) := by
  simp only [label, oneLine_append]
  refine ⟨⟨oneLine_heading hn, ?_⟩, ?_⟩
  · rcases spacing with _ | ⟨side, amount⟩
    · decide
    · exact oneLine_append.mpr ⟨by decide, oneLine_lengthText hspacing⟩
  · rcases n.action with _ | a
    · decide
    · simp only [oneLine_append]
      exact ⟨⟨by decide, oneLine_kind a⟩, by decide⟩

/-! ## Labels of elements -/

/-- The names that sections have. -/
def sectionNames : List String := ["header", "hero", "body", "footer"]

theorem name_mem_sectionNames {b : Bubble} {name : String} {s : Section}
    (h : (name, s) ∈ b.sections) : name ∈ sectionNames := by
  obtain ⟨⟨word, slot⟩, hmem, hslot⟩ := List.mem_filterMap.mp h
  obtain ⟨_, -, heq⟩ := Option.map_eq_some_iff.mp hslot
  cases heq
  exact List.mem_map_of_mem (f := Prod.fst) hmem

theorem oneLine_name {b : Bubble} {name : String} {s : Section} (h : (name, s) ∈ b.sections) :
    OneLine name := by
  have hnames : ∀ name ∈ sectionNames, OneLine name := by decide
  exact hnames name (name_mem_sectionNames h)

namespace Element

theorem label_ofNode (spacing : Option Margin) (n : Node) :
    (ofNode spacing n).label = n.label spacing := by
  cases n with
  | video v alt => cases alt <;> rfl
  | _ => rfl

/-- The name of a section is on one line. -/
def Named : Element → Prop
  | ofSection name _ => OneLine name
  | _ => True

theorem named_of_mem_parts {e part : Element} (h : part ∈ e.parts) : part.Named := by
  cases part with
  | ofSection name s =>
    cases e with
    | ofBubble b =>
      obtain ⟨⟨word, t⟩, hmem, heq⟩ := List.mem_map.mp h
      cases heq
      exact oneLine_name hmem
    | ofMessage m =>
      obtain ⟨altText, contents⟩ := m
      cases contents <;> simp [parts] at h
    | ofNode spacing n => cases n <;> simp [parts] at h
    | _ => simp [parts] at h
  | _ => trivial

theorem named_of_at? {e x : Element} {p : List Nat} (he : e.Named) (h : e.at? p = some x) :
    x.Named := by
  induction p generalizing e with
  | nil =>
    cases h
    exact he
  | cons i rest ih =>
    obtain ⟨part, hi, hpart⟩ := Option.bind_eq_some_iff.mp h
    exact ih (named_of_mem_parts (List.mem_of_getElem? hi)) hpart

/-- An element whose raw strings are on one line is on one line. -/
theorem oneLine_label {e : Element} (hname : e.Named) (h : OneLines e.raw) : OneLine e.label := by
  cases e with
  | ofMessage m =>
    have haltText := h m.altText (List.mem_singleton_self _)
    exact oneLine_append.mpr ⟨oneLine_append.mpr ⟨by decide, haltText⟩, by decide⟩
  | ofCarousel c =>
    obtain ⟨hgap, hwidth⟩ := oneLines_append.mp h
    simp only [label, outline, Container.outline, Outline.label, oneLine_append]
    exact ⟨⟨⟨⟨⟨⟨by decide, Text.oneLine_toString_nat _⟩, by decide⟩, oneLine_lengthText hgap⟩,
      by decide⟩, oneLine_lengthText hwidth⟩, by decide⟩
  | ofBubble b =>
    obtain ⟨hwidth, hradius⟩ := oneLines_append.mp h
    have hsize : OneLine (Keyword.word b.size) := by cases b.size <;> decide
    simp only [label, outline, Bubble.outline, Outline.label, oneLine_append]
    exact ⟨⟨⟨⟨⟨⟨by decide, hsize⟩, by decide⟩, oneLine_lengthText hwidth⟩, by decide⟩,
      oneLine_lengthText hradius⟩, by decide⟩
  | ofSection name s =>
    simp only [label, outline, Section.outline, Outline.label, oneLine_append]
    refine ⟨⟨⟨hname, by decide⟩, oneLine_growthText _⟩, ?_⟩
    rcases hcolor : s.backgroundColor with _ | color
    · decide
    · exact oneLine_append.mpr ⟨by decide, h color (by simp [raw, hcolor])⟩
  | ofNode spacing n =>
    obtain ⟨hn, hspacing⟩ := oneLines_append.mp h
    rw [label_ofNode]
    exact Node.oneLine_label hn hspacing
  | ofSpan s => exact oneLine_append.mpr ⟨by decide, oneLine_quote _⟩

end Element

/-! ## Messages -/

namespace Message

/-- The element at a position. -/
def element? (m : Message) (p : List Nat) : Option Element := (Element.ofMessage m).at? p

/-- The positions of a message, in their lexicographic order. -/
def positions (m : Message) : List (List Nat) := m.outline.positions

/-- Where a message has elements. -/
def shape (m : Message) : Outline.Shape := fun p => (m.element? p).isSome

/-- The line of the element at a position. -/
def line (m : Message) (p : List Nat) : String :=
  m.shape.stem p ++ (m.element? p).elim "" Element.label

/-- No string that the drawing shows as it is holds a line feed. -/
def Unbroken (m : Message) : Prop := ∀ p e, m.element? p = some e → OneLines e.raw

theorem shape_outline (m : Message) : m.outline.shape = m.shape := by
  funext p
  unfold Outline.shape shape element?
  rw [← Option.isSome_map (f := Element.outline), ← Element.at?_outline]
  rfl

theorem mem_positions (m : Message) (p : List Nat) :
    p ∈ m.positions ↔ (m.element? p).isSome = true := by
  unfold positions
  rw [Outline.mem_positions, shape_outline]
  rfl

theorem labelAt_outline (m : Message) (p : List Nat) :
    m.outline.labelAt p = (m.element? p).elim "" Element.label := by
  have hat : m.outline.at? p = (m.element? p).map Element.outline :=
    Element.at?_outline (.ofMessage m) p
  unfold Outline.labelAt
  rw [hat]
  rcases m.element? p with _ | e
  · rfl
  · rfl

/-- The drawing has one line for each position, in their order. -/
theorem lines_outline (m : Message) : m.outline.lines = m.positions.map m.line := by
  rw [Outline.lines_eq]
  refine List.map_congr_left fun p _ => ?_
  rw [shape_outline, labelAt_outline]
  rfl

theorem oneLine_label {m : Message} (h : m.Unbroken) (p : List Nat) :
    OneLine ((m.element? p).elim "" Element.label) := by
  rcases he : m.element? p with _ | e
  · decide
  · have hm : (Element.ofMessage m).Named := trivial
    exact Element.oneLine_label (Element.named_of_at? hm he) (h p e he)

/-- The drawing of a message whose raw strings hold no line feed, line by line. -/
theorem split_drawing {m : Message} (h : m.Unbroken) :
    split '\n' m.drawing = m.positions.map m.line ++ [""] := by
  unfold drawing Outline.draw
  rw [lines_outline]
  refine split_closed fun s hs => ?_
  obtain ⟨p, -, rfl⟩ := List.mem_map.mp hs
  exact oneLine_append.mpr ⟨Outline.oneLine_stem _ p, oneLine_label h p⟩

/-- The line of the message itself has no marker. -/
theorem ofText?_top (m : Message) {p : List Nat} (hp : p = []) :
    Outline.Row.ofText? ((m.element? p).elim "" Element.label) = none := by
  subst hp
  show Outline.Row.ofText? ("flex \"" ++ m.altText ++ "\"") = none
  unfold Outline.Row.ofText?
  rw [String.append_assoc, String.toList_append]
  rfl

instance (ss : List String) : Decidable (OneLines ss) :=
  inferInstanceAs (Decidable (∀ s ∈ ss, OneLine s))

theorem unbroken_iff (m : Message) :
    m.Unbroken ↔ ∀ p ∈ m.positions, ∀ e ∈ m.element? p, OneLines e.raw := by
  constructor
  · exact fun h p _ e he => h p e he
  · intro h p e he
    exact h p ((mem_positions m p).mpr (by rw [he]; rfl)) e he

instance (m : Message) : Decidable m.Unbroken := decidable_of_iff _ (unbroken_iff m).symm

/-- A carousel with a bubble and an empty bubble. The first holds a text with two spans, and a
video with alternative content. -/
def pair : Message where
  altText := "└── flex"
  contents := .carousel {
    bubbles := [first, second]
    gap := .px 8
    insetStart := .px 0
    insetEnd := .px 0
    bubbleWidth := .px 260 }
where
  flexible : Geometry := ⟨.default, none, none, ⟨none, none, none, none⟩⟩
  inline (s : String) : Span := ⟨s, none, none, none, none, none⟩
  first : Bubble :=
    { second with
      hero := some ⟨none, .none, .text {
        geometry := flexible
        lines := ["a\n"]
        spans := [inline "b", inline "c"]
        fontSize := none
        lineHeight := .multiplier 1.5
        wrap := true
        maxLines := none
        weight := none
        style := none
        decoration := none
        color := none
        align := none
        gravity := none
        action := none }⟩
      footer := some ⟨some "#fff", .none,
        .video ⟨"v", "p", 56.25, none⟩ (some (.filler ⟨.weight 1⟩))⟩ }
  second : Bubble := ⟨.nano, .ltr, .px 120, .px 10, none, none, none, none, none⟩

example : pair.line [0, 0, 0, 0, 1] = "    │   │       └── span \"c\"" := by decide +kernel

end Message

end FlexLayout.Tree
