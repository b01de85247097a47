import FlexLayout.Proofs.Growth
import FlexLayout.Proofs.Tree.Margin

/-!
# Numbers in drawings

Besides lengths, a line of a drawing shows at most one number: a growth, a line height, the height
of an image or a video in percent, or the width of an icon. It stands between texts that do not
depend on it (`label_eq_frame`). So two drawings that are alike but for a number are the same
exactly if this number is written alike in both. Whole numbers of different value never are within
the range of 64-bit integers, and always are beyond the same end of it (`drawing_numbers`).
-/

namespace FlexLayout.Tree

variable {x y : Float}

/-! ## Numbers of elements -/

/-- The number of a line height, if it is shown. -/
def LineHeight.number? : LineHeight → Option Float
  | px x => some x
  | multiplier _ => none

namespace Node

/-- The number in the heading of a node. -/
def number? : Node → Option Float
  | box b _ => b.geometry.flex.number?
  | button b => b.geometry.flex.number?
  | filler f => f.flex.number?
  | icon i => some i.widthEm
  | image i => some i.aspectPercent
  | text t => t.lineHeight.number?
  | video v _ => some v.aspectPercent
  | separator _ | spacer _ | span _ => none

/-- What the heading of a node says before its number, and what after it. -/
def frame : Node → String × String
  | box b _ => ("box " ++ Keyword.title b.layout ++ " (flex ", ")" ++ marginText b.geometry.margin)
  | button b =>
    ("button \"" ++ b.label ++ "\" " ++ Keyword.title b.style ++ " height=" ++ b.height.text
      ++ " (flex ", ")")
  | filler _ => ("filler (flex ", ")")
  | icon i => ("icon " ++ i.url ++ " width=", "em")
  | image i => ("image " ++ i.url ++ " width=" ++ i.width.text ++ " aspect=", "%")
  | text t =>
    ("text " ++ Text.quote (String.intercalate "\\n" t.lines)
      ++ t.fontSize.elim "" (fun size => " size=" ++ size.text) ++ " line-height=",
      "px" ++ marginText t.geometry.margin)
  | video v _ => ("video " ++ v.url ++ " aspect=", "%")
  | n => (n.heading, "")

theorem heading_eq_frame {n : Node} (h : n.number? = some x) :
    n.heading = n.frame.1 ++ numberText x ++ n.frame.2 := by
  cases n with
  | box | button | filler =>
    have hg := Growth.text_eq_numberText h
    simp only [heading, frame, growthText, hg, String.append_assoc]
    rfl
  | icon | image | video =>
    cases h
    simp only [heading, frame, String.append_assoc]
  | text t =>
    change t.lineHeight.number? = some x at h
    rcases hline : t.lineHeight with y | y <;> rw [hline] at h <;> cases h
    simp only [heading, frame, hline, String.append_assoc]
    rcases t.fontSize with _ | size <;> rfl
  | separator | spacer | span => cases h

end Node

namespace Element

/-- The number in the line of an element. -/
def number? : Element → Option Float
  | ofSection _ s => s.flex.number?
  | ofNode _ n => n.number?
  | _ => none

/-- What the line of an element says before its number, and what after it. -/
def frame : Element → String × String
  | ofSection name s =>
    (name ++ " (flex ", ")" ++ s.backgroundColor.elim "" (fun color => " bg=" ++ color))
  | ofNode spacing n => (n.frame.1, n.frame.2 ++ n.tail spacing)
  | e => (e.label, "")

theorem label_eq_frame {e : Element} (h : e.number? = some x) :
    e.label = e.frame.1 ++ numberText x ++ e.frame.2 := by
  cases e with
  | ofSection name s =>
    have hg := Growth.text_eq_numberText h
    simp only [label, outline, Section.outline, Outline.label, frame, growthText, hg,
      String.append_assoc]
    rcases s.backgroundColor with _ | color <;> rfl
  | ofNode spacing n =>
    rw [label_ofNode, Node.label_eq_heading, Node.heading_eq_frame h, frame]
    simp only [String.append_assoc]
  | ofMessage | ofCarousel | ofBubble | ofSpan => cases h

/-- Elements that say the same about their numbers are told apart by these alone. -/
theorem label_eq_iff {e e' : Element} (hx : e.number? = some x) (hy : e'.number? = some y)
    (hframe : e.frame = e'.frame) : e.label = e'.label ↔ numberText x = numberText y := by
  rw [label_eq_frame hx, label_eq_frame hy, hframe, String.append_left_inj,
    String.append_right_inj]

end Element

/-! ## Drawings that differ in a number -/

/-- Where only one item of a list counts, texts put together from it are equal if that item has
equal texts. -/
theorem join_map_inj {α : Type} {l : List α} {f g : α → String} {a : α} (hl : l.Nodup)
    (ha : a ∈ l) (h : ∀ b ∈ l, b ≠ a → f b = g b) :
    String.join (l.map f) = String.join (l.map g) ↔ f a = g a := by
  obtain ⟨before, after, rfl⟩ := List.append_of_mem ha
  obtain ⟨-, hafter, hdisjoint⟩ := List.nodup_append.mp hl
  have hbefore : before.map f = before.map g := List.map_congr_left fun b hb =>
    h b (List.mem_append_left _ hb) (hdisjoint b hb a List.mem_cons_self)
  have hafter' : after.map f = after.map g := List.map_congr_left fun b hb =>
    h b (List.mem_append_right _ (List.mem_cons_of_mem a hb)) fun hba =>
      (List.nodup_cons.mp hafter).1 (hba ▸ hb)
  simp only [List.map_append, List.map_cons, String.join_append, String.join_cons, hbefore, hafter',
    String.append_right_inj, String.append_left_inj]

namespace Message

/-- Drawings that have the same lines, except that in one place one of them shows the number `x`
and the other the number `y` between the same texts. -/
structure DifferAt (m m' : Message) (p : List Nat) (x y : Float) : Prop where
  positions_eq : m.positions = m'.positions
  line_eq : ∀ q ∈ m.positions, q ≠ p → m.line q = m'.line q
  shows : ∃ e e', m.element? p = some e ∧ m'.element? p = some e' ∧
    e.number? = some x ∧ e'.number? = some y ∧ e.frame = e'.frame

theorem shape_eq_of_positions {m m' : Message} (h : m.positions = m'.positions) :
    m.shape = m'.shape := by
  funext p
  have hp : (m.element? p).isSome = true ↔ (m'.element? p).isSome = true := by
    rw [← mem_positions, ← mem_positions, h]
  exact Bool.eq_iff_iff.mpr hp

theorem drawing_eq_join (m : Message) :
    m.drawing = String.join (m.positions.map fun p => m.line p ++ "\n") := by
  rw [drawing, Outline.draw, lines_outline, List.map_map]
  rfl

theorem nodup_positions (m : Message) : m.positions.Nodup :=
  (Outline.sorted_positions m.outline).imp ne_of_lt

theorem DifferAt.drawing_eq_iff {m m' : Message} {p : List Nat} (h : DifferAt m m' p x y) :
    m.drawing = m'.drawing ↔ numberText x = numberText y := by
  obtain ⟨e, e', he, he', hx, hy, hframe⟩ := h.shows
  have hmem : p ∈ m.positions := (mem_positions m p).mpr (by rw [he]; rfl)
  have hline : m.line p = m'.line p ↔ e.label = e'.label := by
    unfold line
    rw [shape_eq_of_positions h.positions_eq, he, he', String.append_right_inj]
    rfl
  rw [drawing_eq_join, drawing_eq_join, ← h.positions_eq, ← Element.label_eq_iff hx hy hframe,
    ← hline, join_map_inj m.nodup_positions hmem fun q hq hqp => by rw [h.line_eq q hq hqp],
    String.append_left_inj]

/-- **Whole numbers in drawings.** A number that is equal to an integer is written as the integer
in the range of 64-bit integers that is nearest to it, which is the integer itself within that range
only. A flex from zero on is kept with its value. Lengths, lines and whole drawings that differ
in nothing but two such numbers are alike exactly if the numbers are equal or lie at or beyond the
same end of the range. -/
theorem drawing_numbers {x y : Float} {k n : Int} (hx : Integral x k) (hy : Integral y n) :
    numberText x = toString (clampInt64 k) ∧
      (numberText x = toString k ↔ IsInt64 k) ∧
      ((Length.px x).text = (Length.px y).text ↔ k = n ∨ SameEnd k n) ∧
      ((Length.percent x).text = (Length.percent y).text ↔ k = n ∨ SameEnd k n) ∧
      (0 ≤ k → ∃ z, (Growth.ofFlex (some x)).orEqual.number? = some z ∧ Integral z k) ∧
      (∀ (m : Message) p e, m.element? p = some e → e.number? = some x →
        m.line p = m.shape.stem p ++ e.frame.1 ++ numberText x ++ e.frame.2) ∧
      (∀ e e' : Element, e.number? = some x → e'.number? = some y → e.frame = e'.frame →
        (e.label = e'.label ↔ k = n ∨ SameEnd k n)) ∧
      ∀ m m' p, DifferAt m m' p x y → (m.drawing = m'.drawing ↔ k = n ∨ SameEnd k n) := by
  have halike := hx.numberText_eq_iff hy
  refine ⟨hx.numberText_eq, hx.numberText_eq_toString_iff, ?_, ?_, ?_, ?_, ?_, ?_⟩
  · exact Length.text_px_inj.trans halike
  · exact Length.text_percent_inj.trans halike
  · intro hk
    obtain ⟨z, hz, hzk⟩ := Growth.number?_ofFlex hx hk
    exact ⟨z, Growth.number?_orEqual hz, hzk⟩
  · intro m p e he hnumber
    rw [line, he, Option.elim_some, Element.label_eq_frame hnumber]
    simp only [String.append_assoc]
  · exact fun e e' he he' hframe => (Element.label_eq_iff he he' hframe).trans halike
  · exact fun m m' p h => h.drawing_eq_iff.trans halike

/-- A message whose only node is an empty box with a growth. -/
def stretched (g : Growth) : Message where
  altText := ""
  contents := .bubble {
    size := .mega
    direction := .ltr
    maxWidth := .px 300
    cornerRadius := .px 17
    header := none
    hero := some ⟨none, .none, .box {
      layout := .vertical
      geometry := ⟨g, none, none, ⟨none, none, none, none⟩⟩
      padding := ⟨none, none, none, none⟩
      backgroundColor := none
      background := none
      borderColor := none
      borderWidth := none
      cornerRadius := none
      width := none
      maxWidth := none
      height := none
      maxHeight := none
      justifyContent := none
      alignItems := none
      action := none } []⟩
    body := none
    footer := none
    action := none }

theorem differAt_stretched {g g' : Growth} (hx : g.number? = some x) (hy : g'.number? = some y) :
    DifferAt (stretched g) (stretched g') [0, 0, 0] x y := by
  have hpositions : ∀ g, (stretched g).positions = [[], [0], [0, 0], [0, 0, 0]] := fun _ => rfl
  have hshape := shape_eq_of_positions ((hpositions g).trans (hpositions g').symm)
  refine ⟨(hpositions g).trans (hpositions g').symm, fun q hq hne => ?_,
    _, _, rfl, rfl, hx, hy, rfl⟩
  rw [hpositions] at hq
  unfold line
  rw [hshape]
  congr 1
  -- the lines above the box do not hold its growth
  obtain rfl | rfl | rfl | rfl : q = [] ∨ q = [0] ∨ q = [0, 0] ∨ q = [0, 0, 0] := by
    simpa only [List.mem_cons, List.not_mem_nil, or_false] using hq
  · show (Element.ofMessage _).label = (Element.ofMessage _).label
    simp only [Element.label, Element.outline, outline, Outline.label, stretched]
  · show (Element.ofBubble _).label = (Element.ofBubble _).label
    simp only [Element.label, Element.outline, Bubble.outline, Outline.label]
  · show (Element.ofSection "hero" _).label = (Element.ofSection "hero" _).label
    simp only [Element.label, Element.outline, Section.outline, Outline.label]
  · contradiction

/-- The last double within the range of 64-bit integers, and the first one beyond it. -/
theorem drawing_numbers_edge :
    Integral 9223372036854774784 (2 ^ 63 - 1024) ∧ Integral 9223372036854775808 (2 ^ 63) ∧
      numberText 9223372036854774784 = toString (2 ^ 63 - 1024 : Int) ∧
      numberText 9223372036854775808 ≠ toString (2 ^ 63 : Int) ∧
      (stretched (.factor 9223372036854774784)).drawing ≠
        (stretched (.factor 9223372036854775808)).drawing := by
  have hlast : Integral 9223372036854774784 (2 ^ 63 - 1024) := by decide +kernel
  have hbeyond : Integral 9223372036854775808 (2 ^ 63) := by decide +kernel
  obtain ⟨-, hself, -, -, -, -, -, hdrawing⟩ := drawing_numbers hlast hbeyond
  refine ⟨hlast, hbeyond, hself.mpr (by decide), ?_, ?_⟩
  · exact (drawing_numbers hbeyond hlast).2.1.not.mpr (by decide)
  · exact (hdrawing _ _ _ (differAt_stretched rfl rfl)).not.mpr (by decide)

/-- The document that such a message is resolved from. -/
def stretchedDocument (flex : Float) : Json :=
  .object [("type", .string "flex"), ("altText", .string ""), ("contents", .object [
    ("type", .string "bubble"), ("hero", .object [
      ("type", .string "box"), ("layout", .string "vertical"), ("flex", .number (.float flex)),
      ("contents", .array [])])])]

/-- Whole numbers are not always written as they are, and growths of different value that were asked
for in documents can be drawn alike. -/
theorem numbers_confused : (¬ ∀ x n, Integral x n → numberText x = toString n) ∧
    ¬ ∀ v w m m' p x y k n, (Resolve.json .skip v).result.toOption = some m →
      (Resolve.json .skip w).result.toOption = some m' → DifferAt m m' p x y →
      Integral x k → Integral y n → m.drawing = m'.drawing → k = n := by
  have hsmaller : Integral 1e19 (10 ^ 19) := by decide +kernel
  have hgreater : Integral 1e20 (10 ^ 20) := by decide +kernel
  constructor
  · intro h
    have hwritten := h _ _ hsmaller
    revert hwritten
    decide +kernel
  · intro h
    have hv : (Resolve.json .skip (stretchedDocument 1e19)).result.toOption =
        some (stretched (.factor 1e19)) := by decide +kernel
    have hw : (Resolve.json .skip (stretchedDocument 1e20)).result.toOption =
        some (stretched (.factor 1e20)) := by decide +kernel
    have hdrawing : (stretched (.factor 1e19)).drawing = (stretched (.factor 1e20)).drawing := by
      decide +kernel
    have hvalue := h _ _ _ _ _ _ _ _ _ hv hw (differAt_stretched rfl rfl) hsmaller hgreater hdrawing
    revert hvalue
    decide

end Message

end FlexLayout.Tree
