import FlexLayout.Proofs.Resolve.Carousel
import FlexLayout.Proofs.Resolve.Dropped
import FlexLayout.Proofs.Tree.Hole

/-!
# Edits are local

Take a place in a document and put one value after another there, all else staying as it is. The
trees that the documents resolve to, with dropped content skipped, are one hole filled with what
each value becomes. So nothing but the part that stands for the value can change, not even the
spacing of its siblings, which goes by their own indices.

A bubble asks one question about one of its sections from outside: whether the footer is a box. The
answer reaches the bottom padding at the top of the body, if the author set no padding there.
-/

namespace FlexLayout

open FlexLayout.Document

/-! ## What a value becomes -/

namespace Resolve

open FlexLayout.Tree (Node Child Part Hole Around Bottoms)

/-- The child that a component becomes at an index. -/
def childOf (axis : Layout) (spacing : Option String) (i : Nat) (c : Component) : Option Child :=
  (nodeOf axis c).map (⟨childSpacing spacing axis i c.kind, ·⟩)

def spanOf : Component → Option Tree.Span
  | .span s => some (span s)
  | _ => none

def entryOf : Entry → Option Tree.Bubble
  | .bubble b => some (bubbleOf b)
  | .unknown _ => none

theorem childrenOf_cons (axis : Layout) (spacing : Option String) (i : Nat) (c : Component)
    (rest : List Component) : childrenOf axis spacing i (c :: rest) =
      (childOf axis spacing i c).toList ++ childrenOf axis spacing (i + 1) rest := by
  rw [childrenOf, childOf]
  cases nodeOf axis c <;> rfl

theorem childrenOf_append (axis : Layout) (spacing : Option String) (i : Nat)
    (xs ys : List Component) : childrenOf axis spacing i (xs ++ ys) =
      childrenOf axis spacing i xs ++ childrenOf axis spacing (i + xs.length) ys := by
  induction xs generalizing i with
  | nil => rfl
  | cons x rest ih =>
    rw [List.cons_append, childrenOf_cons, childrenOf_cons, ih, List.append_assoc,
      List.length_cons, Nat.add_assoc, Nat.add_comm 1]

theorem spansOf_cons (c : Component) (rest : List Component) :
    spansOf (c :: rest) = (spanOf c).toList ++ spansOf rest := by
  cases c <;> rfl

theorem spansOf_append (xs ys : List Component) :
    spansOf (xs ++ ys) = spansOf xs ++ spansOf ys := by
  induction xs with
  | nil => rfl
  | cons x rest ih => rw [List.cons_append, spansOf_cons, spansOf_cons, ih, List.append_assoc]

theorem bubblesOf_cons (e : Entry) (rest : List Entry) :
    bubblesOf (e :: rest) = (entryOf e).toList ++ bubblesOf rest := by
  cases e <;> rfl

theorem bubblesOf_append (xs ys : List Entry) :
    bubblesOf (xs ++ ys) = bubblesOf xs ++ bubblesOf ys := by
  induction xs with
  | nil => rfl
  | cons x rest ih => rw [List.cons_append, bubblesOf_cons, bubblesOf_cons, ih, List.append_assoc]

/-- What the surroundings of a place contribute to the part that a value becomes there. -/
inductive Seat : Site → Type where
  | entry : Seat .entry
  | boxed (size : BubbleSize) (hasFooter : Bool) (s : BoxedSection) (color : Option String) :
    Seat .boxed
  | hero (color : Option String) : Seat .hero
  | alt : Seat .alt
  | boxItem (axis : Layout) (spacing : Option String) (i : Nat) : Seat .boxItem
  | textItem : Seat .textItem

/-- The part that a value becomes in a seat, or nothing if it is dropped there. -/
def Seat.part : {site : Site} → Seat site → Json → Option (Part site)
  | _, entry, x => entryOf (.ofJson x)
  | _, boxed size hasFooter s color, x => boxedOf size hasFooter s color (some (.ofJson x))
  | _, hero color, x => heroOf color (some (.ofJson x))
  | _, alt, x => nodeOf .vertical (.ofJson x)
  | _, boxItem axis spacing i, x => childOf axis spacing i (.ofJson x)
  | _, textItem, x => spanOf (.ofJson x)

variable {site : Site} {w : Json}

/-- What a seat makes of a box: nothing, or always the same part but for the children. -/
theorem Seat.part_box (seat : Seat site) (hsite : site ≠ .entry) (b : Box) :
    (∀ y, Component.ofJson y = .box b (y.contents.map .ofJson) → seat.part y = none) ∨
      ∃ (whole : Part site) (root : Tree.Box),
        ∀ y, Component.ofJson y = .box b (y.contents.map .ofJson) →
          seat.part y = some (whole.withNode (.box root
            (childrenOf (b.layout.getD .vertical) b.spacing 0 (y.contents.map .ofJson)))) := by
  cases seat with
  | entry => exact absurd rfl hsite
  | boxed size hasFooter s color =>
    refine .inr ⟨⟨color, s.growth, .box (box b none) []⟩,
      box b (some (defaultPadding size s hasFooter)), fun y hy => ?_⟩
    rw [part, hy]
    rfl
  | hero color =>
    refine .inr ⟨⟨color, .none, .box (box b none) []⟩, box b none, fun y hy => ?_⟩
    rw [part, hy]
    rfl
  | alt =>
    refine .inr ⟨.box (box b none) [], box b none, fun y hy => ?_⟩
    rw [part, hy]
    rfl
  | boxItem axis spacing i =>
    refine .inr ⟨⟨childSpacing spacing axis i Kind.box.word, .box (box b none) []⟩, box b none,
      fun y hy => ?_⟩
    rw [part, hy]
    rfl
  | textItem =>
    refine .inl fun y hy => ?_
    rw [part, hy]
    rfl

/-- What a seat makes of a text or a video: nothing, or always the same part around the node. -/
theorem Seat.part_node (seat : Seat site) (hsite : site ≠ .entry) {k : Kind}
    (hk : k = .text ∨ k = .video) :
    (∀ y : Json, y.kind? = some k → seat.part y = none) ∨
      ∃ (whole : Part site) (axis : Layout), ∀ y : Json, y.kind? = some k →
        seat.part y = (nodeOf axis (.ofJson y)).map whole.withNode := by
  have hnode : Node := .filler ⟨.none⟩
  cases seat with
  | entry => exact absurd rfl hsite
  | boxed size hasFooter s color =>
    refine .inl fun y hy => boxedOf_of_not_isBox ?_ size hasFooter s color
    rw [Component.ofJson_eq, hy]
    rcases hk with rfl | rfl <;> rfl
  | hero color => exact .inr ⟨⟨color, .none, hnode⟩, .vertical, fun y _ => rfl⟩
  | alt => exact .inr ⟨hnode, .vertical, fun y _ => by rw [part]; exact Option.map_id'.symm⟩
  | boxItem axis spacing i =>
    refine .inr ⟨⟨childSpacing spacing axis i k.word, hnode⟩, axis, fun y hy => ?_⟩
    rw [part, childOf]
    rcases hn : nodeOf axis (.ofJson y) with _ | n
    · rfl
    · have hkind : n.kind = k := Option.some.inj ((resolves_of_nodeOf hn).1.symm.trans hy)
      rw [kind_of_nodeOf hn, hkind]
      rfl
  | textItem =>
    refine .inl fun y hy => ?_
    rw [part, Component.ofJson_eq, hy]
    rcases hk with rfl | rfl <;> rfl

/-! ## Edits below a place -/

/-- The message around a container, with dropped content skipped. -/
def messageOf (altText : String) (c : Json) : Except Fault Tree.Message :=
  (Container.ofJson c).map fun d => ⟨altText, containerOf d⟩

/-- With any value at the end of the path, the container becomes the hole filled with what the
value becomes in the seat. -/
def Opens (altText : String) (c : Json) (path : Path) (K : Hole site) (seat : Seat site) : Prop :=
  ∀ x, messageOf altText (c.change (fun _ => x) path) = .ok (K.fill (seat.part x))

variable {altText : String} {c : Json} {path : Path} {K : Hole site} {seat : Seat site}

/-- One more step on the path changes the value that stood at its end. -/
theorem Opens.step (h : Opens altText c path K seat) (hw : c.at? path = some w) (s : Segment)
    (x : Json) : messageOf altText (c.change (fun _ => x) (path ++ [s])) =
      .ok (K.fill (seat.part (w.changeStep s fun _ => x))) := by
  rw [← h, Json.change_append]
  exact congrArg _ (Json.change_congr hw rfl)

theorem contents_changeStep {i : Nat} {x : Json} (hx : w.contents[i]? = some x) (y : Json) :
    (w.changeStep ⟨"contents", some i⟩ fun _ => y).contents =
      w.contents.take i ++ y :: w.contents.drop (i + 1) := by
  rw [Json.getElem?_contents, Option.bind_eq_some_iff] at hx
  obtain ⟨v, hv, hitem⟩ := hx
  have hfield := Json.field?_changeField w "contents" "contents" (Json.changeItem i fun _ => y)
  rw [if_pos rfl, hv, Option.map_some] at hfield
  unfold Json.contents
  show (((w.changeField "contents" (Json.changeItem i fun _ => y)).field? "contents").bind
    Json.items?).getD [] = _
  rw [hfield, hv]
  cases v with
  | array items =>
    have hi : i < items.length := (List.getElem?_eq_some_iff.mp hitem).1
    exact List.modify_eq_take_cons_drop hi
  | _ => cases hitem

theorem Opens.boxItem {i : Nat} {x : Json} (h : Opens altText c path K seat)
    (hw : c.at? path = some w) (hsite : site ≠ .entry) (hk : w.kind? = some .box)
    (hx : w.contents[i]? = some x) :
    ∃ (K' : Hole .boxItem) (seat' : Seat .boxItem),
      Opens altText c (path.item i) K' seat' ∧ K'.bottoms? = none := by
  have hbox (y : Json) : Component.ofJson (w.changeStep ⟨"contents", some i⟩ fun _ => y) =
      .box (.ofFields w.fields)
        ((w.changeStep ⟨"contents", some i⟩ fun _ => y).contents.map .ofJson) := by
    have hsame : SameBut ["contents"] (w.changeStep ⟨"contents", some i⟩ fun _ => y) w :=
      .changeField w "contents" _
    rw [Component.ofJson_box ((hsame.kind? (by decide)).trans hk), hsame.box]
  rcases seat.part_box hsite (.ofFields w.fields) with hnone | ⟨whole, root, hsome⟩
  · refine ⟨.closed (K.fill none), .boxItem .vertical none 0, fun y => ?_, rfl⟩
    exact (h.step hw _ y).trans (by rw [hnone _ (hbox y)]; rfl)
  · let b := Box.ofFields w.fields
    let axis := b.layout.getD .vertical
    let before := childrenOf axis b.spacing 0 ((w.contents.take i).map .ofJson)
    let after := childrenOf axis b.spacing (i + 1) ((w.contents.drop (i + 1)).map .ofJson)
    refine ⟨.boxItem K whole root before after, .boxItem axis b.spacing i, fun y => ?_, rfl⟩
    have hlength : (w.contents.take i).length = i :=
      List.length_take_of_le (List.getElem?_eq_some_iff.mp hx).1.le
    refine (h.step hw _ y).trans ?_
    rw [hsome _ (hbox y), contents_changeStep hx, List.map_append, List.map_cons,
      childrenOf_append, childrenOf_cons, List.length_map, hlength, Nat.zero_add,
      ← List.append_assoc]
    rfl

theorem Opens.textItem {i : Nat} {x : Json} (h : Opens altText c path K seat)
    (hw : c.at? path = some w) (hsite : site ≠ .entry) (hk : w.kind? = some .text)
    (hx : w.contents[i]? = some x) :
    ∃ (K' : Hole .textItem) (seat' : Seat .textItem),
      Opens altText c (path.item i) K' seat' ∧ K'.bottoms? = none := by
  have hsame (y : Json) : SameBut ["contents"] (w.changeStep ⟨"contents", some i⟩ fun _ => y) w :=
    .changeField w "contents" _
  have hkind (y : Json) : (w.changeStep ⟨"contents", some i⟩ fun _ => y).kind? = some .text :=
    ((hsame y).kind? (by decide)).trans hk
  rcases seat.part_node hsite (.inl rfl) with hnone | ⟨whole, axis, hsome⟩
  · refine ⟨.closed (K.fill none), .textItem, fun y => ?_, rfl⟩
    exact (h.step hw _ y).trans (by rw [hnone _ (hkind y)]; rfl)
  · let before := spansOf ((w.contents.take i).map .ofJson)
    let after := spansOf ((w.contents.drop (i + 1)).map .ofJson)
    refine ⟨.textItem K whole (textOf axis (.ofFields w.fields) []) before after, .textItem,
      fun y => ?_, rfl⟩
    refine (h.step hw _ y).trans ?_
    rw [hsome _ (hkind y), Component.ofJson_text (hkind y), (hsame y).text, nodeOf, textOf,
      contents_changeStep hx, List.map_append, List.map_cons, spansOf_append, spansOf_cons,
      ← List.append_assoc]
    rfl

/-- A slot that is filled anew is read from the new value. -/
theorem read_slot_changeStep {name : String} {x : Json} (hx : w.slot? name = some x) (y : Json) :
    ((w.changeStep ⟨name, none⟩ fun _ => y).slot? name).map .ofJson = Component.read? y := by
  have hfield := Json.field?_changeField w name name fun _ => y
  rw [if_pos rfl, Json.field_of_slot hx, Option.map_some] at hfield
  rw [slot_eq_of]
  exact congrArg (·.bind Component.read?) hfield

theorem Opens.alt {x : Json} (h : Opens altText c path K seat) (hw : c.at? path = some w)
    (hsite : site ≠ .entry) (hk : w.kind? = some .video) (hx : w.slot? "altContent" = some x) :
    ∃ (K' : Hole .alt) (seat' : Seat .alt),
      Opens altText c (path.field "altContent") K' seat' ∧ K'.bottoms? = none := by
  have hsame (y : Json) : SameBut ["altContent"] (w.changeStep ⟨"altContent", none⟩ fun _ => y) w :=
    .changeField w "altContent" _
  have hkind (y : Json) : (w.changeStep ⟨"altContent", none⟩ fun _ => y).kind? = some .video :=
    ((hsame y).kind? (by decide)).trans hk
  rcases seat.part_node hsite (.inr rfl) with hnone | ⟨whole, axis, hsome⟩
  · refine ⟨.closed (K.fill none), .alt, fun y => ?_, rfl⟩
    exact (h.step hw _ y).trans (by rw [hnone _ (hkind y)]; rfl)
  · refine ⟨.alt K whole (video (.ofFields w.fields)), .alt, fun y => ?_, rfl⟩
    refine (h.step hw _ y).trans ?_
    rw [hsome _ (hkind y), Component.ofJson_video (hkind y), (hsame y).video,
      read_slot_changeStep hx, nodeOf_video]
    cases y <;> rfl

/-! ## Sections -/

section

variable {b : Json} {x : Json}

theorem ofFields_header (hx : b.slot? "header" = some x) (y : Json) :
    Bubble.ofFields (b.changeStep ⟨"header", none⟩ fun _ => y).fields =
      { Bubble.ofFields b.fields with header := Component.read? y } := by
  have hsame : SameBut ["header"] (b.changeStep ⟨"header", none⟩ fun _ => y) b :=
    .changeField b "header" _
  simp (disch := decide) only [Bubble.ofFields, sectionOf_eq, wordOf, actionOf, hsame.lenient,
    hsame.slot?, read_slot_changeStep hx]

theorem ofFields_hero (hx : b.slot? "hero" = some x) (y : Json) :
    Bubble.ofFields (b.changeStep ⟨"hero", none⟩ fun _ => y).fields =
      { Bubble.ofFields b.fields with hero := Component.read? y } := by
  have hsame : SameBut ["hero"] (b.changeStep ⟨"hero", none⟩ fun _ => y) b :=
    .changeField b "hero" _
  simp (disch := decide) only [Bubble.ofFields, sectionOf_eq, wordOf, actionOf, hsame.lenient,
    hsame.slot?, read_slot_changeStep hx]

theorem ofFields_body (hx : b.slot? "body" = some x) (y : Json) :
    Bubble.ofFields (b.changeStep ⟨"body", none⟩ fun _ => y).fields =
      { Bubble.ofFields b.fields with body := Component.read? y } := by
  have hsame : SameBut ["body"] (b.changeStep ⟨"body", none⟩ fun _ => y) b :=
    .changeField b "body" _
  simp (disch := decide) only [Bubble.ofFields, sectionOf_eq, wordOf, actionOf, hsame.lenient,
    hsame.slot?, read_slot_changeStep hx]

theorem ofFields_footer (hx : b.slot? "footer" = some x) (y : Json) :
    Bubble.ofFields (b.changeStep ⟨"footer", none⟩ fun _ => y).fields =
      { Bubble.ofFields b.fields with footer := Component.read? y } := by
  have hsame : SameBut ["footer"] (b.changeStep ⟨"footer", none⟩ fun _ => y) b :=
    .changeField b "footer" _
  simp (disch := decide) only [Bubble.ofFields, sectionOf_eq, wordOf, actionOf, hsame.lenient,
    hsame.slot?, read_slot_changeStep hx]

end

/-- A slot with `null` in it is as good as one with a component of no kind. -/
theorem boxedOf_read? (size : BubbleSize) (hasFooter : Bool) (s : BoxedSection)
    (color : Option String) (y : Json) :
    boxedOf size hasFooter s color (Component.read? y) =
      boxedOf size hasFooter s color (some (.ofJson y)) := by
  cases y <;> rfl

theorem heroOf_read? (color : Option String) (y : Json) :
    heroOf color (Component.read? y) = heroOf color (some (.ofJson y)) := by
  cases y <;> rfl

/-- A footer has no say in the padding of headers and footers. -/
theorem boxedOf_congr {s : BoxedSection} (hs : s ≠ .body) (size : BubbleSize) (f g : Bool)
    (color : Option String) (c : Option Component) :
    boxedOf size f s color c = boxedOf size g s color c := by
  cases s with
  | header | footer =>
    rcases c with _ | c
    · rfl
    · cases c <;> rfl
  | body => exact absurd rfl hs

/-- The size of a bubble, which fixes the padding of its sections. -/
def sizeOf (b : Json) : BubbleSize := (Bubble.ofFields b.fields).size.getD .mega

def hasFooter (b : Json) : Bool := (Bubble.ofFields b.fields).footer.any Component.isBox

def stylesOf (b : Json) : Styles := (Bubble.ofFields b.fields).styles

/-- The bottom paddings of a body that leaves its padding to the bubble. -/
def bottomsOf (size : BubbleSize) : Option Component → Option Bottoms
  | some (.box b _) =>
    if b.padding.isUnset then some ⟨bodyBottom size, basePadding size⟩ else none
  | _ => none

/-- A footer has a say in the bottom padding of such a body, and in nothing else. -/
theorem boxedOf_body (size : BubbleSize) (f g : Bool) (color : Option String)
    (c : Option Component) :
    boxedOf size f .body color c =
      match bottomsOf size c with
      | none => boxedOf size g .body color c
      | some bottoms => (boxedOf size g .body color c).map (.withBottom (bottoms.of f)) := by
  rcases c with _ | c
  · rfl
  · cases c with
    | box b contents =>
      by_cases hunset : b.padding.isUnset = true
      · simp only [bottomsOf, if_pos hunset, boxedOf, Option.map_some, Tree.Section.withBottom,
          box, boxPadding, defaultPadding]
        rfl
      · simp only [bottomsOf, if_neg hunset, boxedOf, box, boxPadding]
    | _ => rfl

theorem isSome_boxedOf (size : BubbleSize) (f : Bool) (s : BoxedSection) (color : Option String)
    (c : Option Component) : (boxedOf size f s color c).isSome = c.any Component.isBox := by
  rcases c with _ | c
  · rfl
  · cases c <;> rfl

theorem fill_footer (around : Around) (b : Document.Bubble) (c : Option Component) :
    around.fill (bubbleOf { b with footer := c }) =
      (Hole.footer around (bubbleOf b) (bottomsOf (b.size.getD .mega) b.body)).fill
        (boxedOf (b.size.getD .mega) true .footer b.styles.footer c) := by
  have hheader := boxedOf_congr (s := .header) (by decide) (b.size.getD .mega)
    (c.any Component.isBox) (b.footer.any Component.isBox) b.styles.header b.header
  have hbody := boxedOf_body (b.size.getD .mega) (c.any Component.isBox)
    (b.footer.any Component.isBox) b.styles.body b.body
  have hfooter := boxedOf_congr (s := .footer) (by decide) (b.size.getD .mega)
    (c.any Component.isBox) true b.styles.footer c
  have hsome := isSome_boxedOf (b.size.getD .mega) true .footer b.styles.footer c
  have hbubble : bubbleOf { b with footer := c } = { bubbleOf b with
      body := boxedOf (b.size.getD .mega) (c.any Component.isBox) .body b.styles.body b.body
      footer := boxedOf (b.size.getD .mega) true .footer b.styles.footer c } := by
    rw [← hfooter]
    unfold bubbleOf bubbleWith
    simp only [hheader]
  rw [hbubble, hbody]
  cases bottomsOf (b.size.getD .mega) b.body with
  | none => rfl
  | some bottoms =>
    rw [Hole.fill, hsome]
    rfl

/-! ## Bubbles -/

theorem messageOf_carousel {i : Nat} {e : Json} (hc : c.typeText? = some "carousel")
    (he : c.contents[i]? = some e) (altText : String) (y : Json) :
    messageOf altText (c.change (fun _ => y) (Path.item [] i)) =
      .ok ((Hole.entry altText (carousel []) (bubblesOf ((c.contents.take i).map .ofJson))
        (bubblesOf ((c.contents.drop (i + 1)).map .ofJson))).fill (entryOf (.ofJson y))) := by
  have hsame : SameBut ["contents"] (c.changeStep ⟨"contents", some i⟩ fun _ => y) c :=
    .changeField c "contents" _
  have htype := (hsame "type" (by decide)).trans (Json.typeText?_eq_some_iff.mp hc)
  have hcontents := contents_changeStep he y
  unfold Json.contents at hcontents
  show messageOf altText (c.changeStep ⟨"contents", some i⟩ fun _ => y) = _
  rw [messageOf, Container.ofJson_carousel htype, hcontents, List.map_append, List.map_cons]
  show Except.ok (⟨altText, .carousel (carousel (bubblesOf _))⟩ : Tree.Message) = _
  rw [bubblesOf_append, bubblesOf_cons, ← List.append_assoc]
  rfl

/-- A bubble whose type stays the same stays in its place, whatever else changes in it. -/
theorem exists_around {b : Json} (h : BubbleAt c path b) (altText : String) :
    ∃ around : Around, ∀ (s : Segment) (x : Json), s.name ≠ "type" →
      messageOf altText (c.change (fun _ => x) (path ++ [s])) =
        .ok (around.fill (bubbleOf (.ofFields (b.changeStep s fun _ => x).fields))) := by
  have hstep (s : Segment) (x : Json) : c.change (fun _ => x) (path ++ [s]) =
      c.change (fun _ => b.changeStep s fun _ => x) path := by
    rw [Json.change_append]
    exact Json.change_congr h.at? rfl
  have htype {s : Segment} (hs : s.name ≠ "type") (x : Json) (hb : b.typeText? = some "bubble") :
      (b.changeStep s fun _ => x).field? "type" = some (.string "bubble") :=
    (Json.field?_changeField_of_ne hs.symm b _).trans (Json.typeText?_eq_some_iff.mp hb)
  cases h with
  | single hc =>
    refine ⟨.alone altText, fun s x hs => ?_⟩
    rw [hstep, messageOf]
    show (Container.ofJson (c.changeStep s fun _ => x)).map _ = _
    rw [Container.ofJson_bubble (htype hs x hc)]
    rfl
  | @entry i e hc he hbubble =>
    refine ⟨.among altText (carousel []) (bubblesOf ((c.contents.take i).map .ofJson))
      (bubblesOf ((c.contents.drop (i + 1)).map .ofJson)), fun s x hs => ?_⟩
    have hentry : Entry.ofJson (b.changeStep s fun _ => x) =
        .bubble (.ofFields (b.changeStep s fun _ => x).fields) := by
      rw [Entry.ofJson, htype hs x hbubble]
      rfl
    rw [hstep, messageOf_carousel hc he, hentry, Around.fill, List.append_cons]
    rfl

/-- The attributes of a box that set padding. -/
def paddingNames : List String :=
  ["paddingAll", "paddingTop", "paddingBottom", "paddingStart", "paddingEnd"]

/-- No padding is written, as a string. -/
def SetsNoPadding (w : Json) : Prop := ∀ name ∈ paddingNames, ∀ s, w.field? name ≠ some (.string s)

theorem stringOf_eq_none_iff (w : Json) (name : String) :
    stringOf w.fields name = none ↔ ∀ s, w.field? name ≠ some (.string s) := by
  rw [Option.eq_none_iff_forall_ne_some]
  exact forall_congr' fun s => not_congr Json.bind_text?_eq_some_iff

/-- An attribute of another type than a string counts as not written. -/
theorem isUnset_iff (w : Json) :
    (Box.ofFields w.fields).padding.isUnset = true ↔ SetsNoPadding w := by
  simp only [PaddingAttributes.isUnset, Box.ofFields, Bool.and_eq_true,
    Option.isNone_iff_eq_none, stringOf_eq_none_iff, SetsNoPadding, paddingNames,
    List.forall_mem_cons, List.not_mem_nil, false_implies, implies_true, and_true, and_assoc]

/-- The location is the footer of a bubble whose body is a box that sets no padding. -/
def BodyUnpadded (c : Json) (path : Path) : Prop :=
  ∃ (p : Path) (b y : Json), BubbleAt c p b ∧ path = p.field "footer" ∧
    b.slot? "body" = some y ∧ IsBoxValue y ∧ SetsNoPadding y

theorem exists_body_of_bottomsOf {b : Json} {size : BubbleSize} {bottoms : Bottoms}
    (h : bottomsOf size (Bubble.ofFields b.fields).body = some bottoms) :
    ∃ y, b.slot? "body" = some y ∧ IsBoxValue y ∧ SetsNoPadding y := by
  rw [show (Bubble.ofFields b.fields).body = (b.slot? "body").map .ofJson from
    sectionOf_eq b "body"] at h
  rcases hy : b.slot? "body" with _ | y
  · rw [hy] at h
    cases h
  · have hbox : (Component.ofJson y).isBox = true := by
      rw [hy, Option.map_some] at h
      cases hc : Component.ofJson y with
      | box _ _ => rfl
      | _ =>
        rw [hc] at h
        cases h
    have hk : IsBoxValue y := (isBox_ofJson y).mp hbox
    rw [hy, Option.map_some, Component.ofJson_box hk, bottomsOf] at h
    split at h
    · rename_i hunset
      exact ⟨y, rfl, hk, (isUnset_iff y).mp hunset⟩
    · cases h

/-- Every place in a container opens a hole. Its bottom paddings are only those of a body that sets
no padding, below a footer. -/
theorem exists_hole {site : Site} (h : Located c site path w) (altText : String) :
    ∃ (K : Hole site) (seat : Seat site), Opens altText c path K seat ∧
      ∀ bottoms, K.bottoms? = some bottoms → BodyUnpadded c path := by
  induction h with
  | entry hc he =>
    exact ⟨_, .entry, fun y => messageOf_carousel hc he altText y, fun _ hnone => by cases hnone⟩
  | @boxed path b w name hb hname hw =>
    obtain ⟨around, haround⟩ := exists_around hb altText
    simp only [boxedSections, List.mem_cons, List.not_mem_nil, or_false] at hname
    rcases hname with rfl | rfl | rfl
    · refine ⟨.header around (bubbleOf (.ofFields b.fields)), .boxed (sizeOf b) (hasFooter b)
        .header (stylesOf b).header, fun y => ?_, fun _ hnone => by cases hnone⟩
      refine (haround ⟨"header", none⟩ y (by decide)).trans ?_
      rw [ofFields_header hw, Seat.part, ← boxedOf_read?]
      rfl
    · refine ⟨.body around (bubbleOf (.ofFields b.fields)), .boxed (sizeOf b) (hasFooter b)
        .body (stylesOf b).body, fun y => ?_, fun _ hnone => by cases hnone⟩
      refine (haround ⟨"body", none⟩ y (by decide)).trans ?_
      rw [ofFields_body hw, Seat.part, ← boxedOf_read?]
      rfl
    · refine ⟨.footer around (bubbleOf (.ofFields b.fields)) (bottomsOf (sizeOf b)
        (Bubble.ofFields b.fields).body), .boxed (sizeOf b) true .footer (stylesOf b).footer,
        fun y => ?_, fun bottoms hbottoms => ?_⟩
      · refine (haround ⟨"footer", none⟩ y (by decide)).trans ?_
        rw [ofFields_footer hw, fill_footer, boxedOf_read?]
        rfl
      · obtain ⟨y, hy, hbox, hunset⟩ := exists_body_of_bottomsOf hbottoms
        exact ⟨path, b, y, hb, rfl, hy, hbox, hunset⟩
  | @hero path b w hb hw =>
    obtain ⟨around, haround⟩ := exists_around hb altText
    refine ⟨.hero around (bubbleOf (.ofFields b.fields)), .hero (stylesOf b).hero, fun y => ?_,
      fun _ hnone => by cases hnone⟩
    refine (haround ⟨"hero", none⟩ y (by decide)).trans ?_
    rw [ofFields_hero hw, Seat.part, ← heroOf_read?]
    rfl
  | boxItem hw hne hk hx ih =>
    obtain ⟨K, seat, hopens, -⟩ := ih
    obtain ⟨K', seat', hopens', hnone⟩ := hopens.boxItem hw.at? hne hk hx
    exact ⟨K', seat', hopens', fun bottoms h => by rw [hnone] at h; cases h⟩
  | textItem hw hne hk hx ih =>
    obtain ⟨K, seat, hopens, -⟩ := ih
    obtain ⟨K', seat', hopens', hnone⟩ := hopens.textItem hw.at? hne hk hx
    exact ⟨K', seat', hopens', fun bottoms h => by rw [hnone] at h; cases h⟩
  | alt hw hne hk hx ih =>
    obtain ⟨K, seat, hopens, -⟩ := ih
    obtain ⟨K', seat', hopens', hnone⟩ := hopens.alt hw.at? hne hk hx
    exact ⟨K', seat', hopens', fun bottoms h => by rw [hnone] at h; cases h⟩

/-! ## Documents -/

/-- What a site keeps of the values that can stand there. -/
def Keeps : Site → Json → Prop
  | .entry, x => x.typeText? = some "bubble"
  | .boxed, x => IsBoxValue x
  | .hero, x | .alt, x | .boxItem, x => IsKnownValue x
  | .textItem, x => x.kind? = some .span

/-- The part is what the value resolves to in its place. -/
def Made : (site : Site) → Json → Part site → Prop
  | .entry, x, b => ∀ path, (bubble .skip (.ofFields x.fields) path).result = .ok b
  | .boxed, x, s => ∃ size hasFooter sec color, ∀ path,
    (boxedSection .skip size hasFooter sec color path (some (.ofJson x))).result = .ok (some s)
  | .hero, x, s => ∃ color, ∀ size path,
    (hero .skip size color path (some (.ofJson x))).result = .ok (some s)
  | .alt, x, n => Resolves .vertical x n
  | .boxItem, x, c => ∃ axis, Resolves axis x c.node
  | .textItem, x, s => s = span (.ofFields x.fields)

/-- The part of a value in its place: there if the value is kept, and what it resolves to. -/
structure Fits {site : Site} (x : Json) (part : Option (Part site)) : Prop where
  kept : part.isSome ↔ Keeps site x
  made : ∀ a, part = some a → Made site x a

theorem Seat.fits (seat : Seat site) (x : Json) : Fits x (seat.part x) := by
  cases seat with
  | entry =>
    by_cases hx : x.typeText? = some "bubble"
    · rw [part, entry_ofJson_bubble hx]
      refine ⟨⟨fun _ => hx, fun _ => rfl⟩, fun b hb path => ?_⟩
      cases hb
      exact (yields_bubble _ path).skip_result
    · have hnone : entryOf (.ofJson x) = none := by
        rw [entry_ofJson_unknown hx]
        rfl
      rw [part, hnone]
      refine ⟨⟨fun h => ?_, fun h => absurd h hx⟩, fun _ h => ?_⟩
      · cases h
      · cases h
  | boxed size hasFooter s color =>
    refine ⟨?_, fun sec hsec => ⟨size, hasFooter, s, color, fun path => ?_⟩⟩
    · rw [part, isSome_boxedOf]
      exact isBox_ofJson x
    · rw [← hsec]
      exact (yields_boxedSection size hasFooter s color path _).skip_result
  | hero color =>
    refine ⟨?_, fun sec hsec => ⟨color, fun size path => ?_⟩⟩
    · rw [part, heroOf, Option.isSome_map, Option.bind_some, isSome_nodeOf]
      exact Iff.rfl
    · rw [← hsec]
      exact (yields_hero size color path _).skip_result
  | alt =>
    refine ⟨?_, fun n hn => resolves_of_nodeOf hn⟩
    rw [part, isSome_nodeOf]
    exact Iff.rfl
  | boxItem axis spacing i =>
    refine ⟨?_, fun child hchild => ⟨axis, ?_⟩⟩
    · rw [part, childOf, Option.isSome_map, isSome_nodeOf]
      exact Iff.rfl
    · obtain ⟨n, hn, rfl⟩ := Option.map_eq_some_iff.mp hchild
      exact resolves_of_nodeOf hn
  | textItem =>
    by_cases hx : x.kind? = some .span
    · have hspan : Component.ofJson x = .span (.ofFields x.fields) := by
        rw [Component.ofJson_eq, hx]
      rw [part, hspan]
      exact ⟨⟨fun _ => hx, fun _ => rfl⟩, fun s hs => (Option.some.inj hs).symm⟩
    · have hnone : spanOf (.ofJson x) = none := by
        rw [Component.ofJson_eq]
        rcases hk : x.kind? with _ | k
        · rfl
        · cases k with
          | span => exact absurd hk hx
          | _ => rfl
      rw [part, hnone]
      refine ⟨⟨fun h => ?_, fun h => absurd h hx⟩, fun _ h => ?_⟩
      · cases h
      · cases h

/-- A document that is resolved is a message whose type is `flex`. -/
theorem altTextOf_of_ofJson {v : Json} {m : Message} (h : Message.ofJson v = .ok m) :
    Message.altTextOf v = .ok m.altText ∧ IsFlex v := by
  obtain ⟨s', d'⟩ := m
  obtain ⟨d, hd, hm⟩ := exists_contents h
  have hobject := isObject_of_field hd
  unfold Message.ofJson at h
  rw [if_pos hobject] at h
  rcases ha : Message.altTextOf v with _ | s
  · rw [ha] at h
    cases h
  · rw [ha] at h
    dsimp only [Bind.bind, Except.bind] at h
    split at h
    · rename_i hflex
      rw [hd, Option.getD_some, hm] at h
      cases h
      exact ⟨rfl, hobject, (Json.discriminant_eq_iff Json.isWord_flex).mp hflex⟩
    · cases h

theorem json_change_contents {v : Json} {m : Message} (h : Message.ofJson v = .ok m)
    (hc : v.field? "contents" = some c) {f : Json → Json} {t : Tree.Message}
    (ht : messageOf m.altText (f c) = .ok t) :
    (json .skip (v.changeField "contents" f)).result = .ok t := by
  obtain ⟨haltText, hobject, htype⟩ := altTextOf_of_ofJson h
  have hsame : SameBut ["contents"] (v.changeField "contents" f) v := .changeField v "contents" f
  have hcontents := Json.field?_changeField v "contents" "contents" f
  rw [if_pos rfl, hc, Option.map_some] at hcontents
  have haltText' : Message.altTextOf (v.changeField "contents" f) = .ok m.altText := by
    rw [← haltText]
    unfold Message.altTextOf
    rw [hsame "altText" (by decide)]
  have hflex : IsFlex (v.changeField "contents" f) :=
    ⟨isObject_of_field hcontents, (hsame "type" (by decide)).trans htype⟩
  unfold messageOf at ht
  rcases hd : Container.ofJson (f c) with _ | d
  · rw [hd] at ht
    cases ht
  · rw [hd] at ht
    cases ht
    exact json_result_of_contents haltText' hflex hcontents hd

/-- **Locality.** Take a document that is resolved with dropped content skipped, and a place in it:
an entry of a carousel, a section of a bubble, or, at any depth, an item of a box or of a text or
the alternative content of a video. There is one message with a hole such that, whatever value is
put in the place, the document resolves to the hole filled with what that value becomes. Only below
a footer can filling the hole reach further, to the bottom padding of the body of the bubble, and
only if the body is a box that sets no padding. -/
theorem json_local {site : Site} (v : Json) (t : Tree.Message)
    (h : (json .skip v).result = .ok t) (hc : v.field? "contents" = some c)
    (hw : Located c site path w) :
    ∃ K : Hole site,
      (∀ bottoms, K.bottoms? = some bottoms → BodyUnpadded c path) ∧
      (∃ part, Fits w part ∧ t = K.fill part) ∧
      ∀ x, ∃ part, Fits x part ∧
        (json .skip (v.change (fun _ => x) (contentsPath ++ path))).result =
          .ok (K.fill part) := by
  obtain ⟨m, d, hm, hd, hcontents, rfl, -⟩ := exists_message h
  cases hd.symm.trans hc
  obtain ⟨K, seat, hopens, hbottoms⟩ := exists_hole hw m.altText
  refine ⟨K, hbottoms, ⟨seat.part w, seat.fits w, ?_⟩, fun x => ⟨seat.part x, seat.fits x, ?_⟩⟩
  · have hself : c.change (fun _ => w) path = c :=
      (Json.change_congr (f := fun _ => w) (g := id) hw.at? rfl).trans (Json.change_id c path)
    have hw' := hopens w
    rw [hself, messageOf, hcontents] at hw'
    exact Except.ok.inj hw'
  · exact json_change_contents hm hc (hopens x)

/-- The path to the item of the body in the sample with room for dropped content. -/
def litteredItem : Path := ((Path.item [] 0).field "body").item 1

/-- The table in the body of the sample, put in the place of which any value leaves the text before
it and the video after it as they are. -/
theorem json_local_littered : ∃ t c w,
    (json .skip littered₁).result = .ok t ∧ littered₁.field? "contents" = some c ∧
      Located c .boxItem litteredItem w ∧ w.kind? = none ∧
      ∃ K : Hole .boxItem,
        (∀ bottoms, K.bottoms? = some bottoms → BodyUnpadded c litteredItem) ∧
        (∃ part, Fits w part ∧ t = K.fill part) ∧
        ∀ x, ∃ part, Fits x part ∧
          (json .skip (littered₁.change (fun _ => x) (contentsPath ++ litteredItem))).result =
            .ok (K.fill part) := by
  obtain ⟨c, hc⟩ : ∃ c, littered₁.field? "contents" = some c := ⟨_, rfl⟩
  obtain ⟨w, hw, hk⟩ : ∃ w, Located c .boxItem litteredItem w ∧ w.kind? = none := by
    cases hc
    exact ⟨_, .boxItem (.boxed (.entry rfl rfl rfl) (by decide) rfl) (by decide) rfl rfl, rfl⟩
  obtain ⟨m, hm⟩ : ∃ m, Message.ofJson littered₁ = .ok m := ⟨_, rfl⟩
  have h : (json .skip littered₁).result = .ok (treeOf m) := json_skip_result hm
  exact ⟨treeOf m, c, w, h, hc, hw, hk, json_local littered₁ (treeOf m) h hc hw⟩

end Resolve

end FlexLayout
