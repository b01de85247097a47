import FlexLayout.Proofs.Document.Location
import FlexLayout.Proofs.Sample.Message

/-!
# How many children the boxes of a sample have

Headers and bodies, and the boxes in them at any depth, have up to as many children as the shape
allows. Footers do not ask the shape: a footer is always a box of two buttons, so the boxes of a
sample keep to the width if it is two or more, and a footer is the only box that exceeds a width of
one (`always_widths`).
-/

namespace FlexLayout.Sample

open FlexLayout.Document (BubbleAt Located Site)

/-- Every box of the container, at any depth, has at least one item in its contents and at most
`width`. -/
def KeepsTo (width : Nat) (c : Json) : Prop :=
  ∀ site path w, Located c site path w → w.kind? = some .box →
    1 ≤ w.contents.length ∧ w.contents.length ≤ width

/-- The value `w` is the footer of a bubble of the container, and the path leads to it. -/
def FooterAt (c : Json) (path : Path) (w : Json) : Prop :=
  ∃ p b, BubbleAt c p b ∧ path = p.field "footer" ∧ b.slot? "footer" = some w

variable {s : Shape} {n : Nat} {c w : Json} {site : Site} {path : Path}

theorem BubbleGrown.kind?_eq_none (h : BubbleGrown s w) : w.kind? = none := by
  unfold Json.kind?
  rw [h.type]
  decide

theorem ContentsGrown.of_bubbleAt (hc : ContentsGrown s n c) {b : Json} (h : BubbleAt c path b) :
    BubbleGrown s b := by
  cases h with
  | single htype =>
    cases hc with
    | bubble _ hc => exact hc
    | carousel _ hcarousel =>
      rw [hcarousel] at htype
      exact absurd htype (by decide)
  | entry hcarousel he =>
    cases hc with
    | bubble _ hc =>
      rw [hc.type] at hcarousel
      exact absurd hcarousel (by decide)
    | carousel _ _ _ hall => exact hall _ (List.mem_of_getElem? he)

/-- A component that stands anywhere in a sample is grown, unless it is a footer. -/
theorem ContentsGrown.of_located (hc : ContentsGrown s n c) (h : Located c site path w)
    (hsite : site ≠ .entry) :
    (∃ room, Grown s.unknown s.Admits room w) ∨ FooterAt c path w := by
  induction h with
  | entry => exact absurd rfl hsite
  | @boxed path b w name hb hname hw =>
    have hgrown := hc.of_bubbleAt hb
    simp only [Document.boxedSections, List.mem_cons, List.not_mem_nil, or_false] at hname
    rcases hname with rfl | rfl | rfl
    · exact .inl ⟨_, (hgrown.header w hw).grown⟩
    · exact .inl ⟨_, (hgrown.grown_body w hw).grown⟩
    · exact .inr ⟨path, b, hb, rfl, hw⟩
  | hero hb hw => exact .inl ⟨0, .leaf ((hc.of_bubbleAt hb).hero _ hw) (by decide)⟩
  | boxItem _ hne hbox hx ih =>
    have hmem := List.mem_of_getElem? hx
    rcases ih hne with ⟨room, hgrown⟩ | ⟨p, b, hb, -, hfooter⟩
    · have hinside := hgrown.inside
      rw [hbox] at hinside
      exact .inl (hinside.2 _ hmem)
    · exact .inl ⟨0, .leaf (((hc.of_bubbleAt hb).footer _ hfooter).buttons _ hmem) (by decide)⟩
  | textItem _ hne htext hx ih =>
    have hmem := List.mem_of_getElem? hx
    rcases ih hne with ⟨room, hgrown⟩ | ⟨p, b, hb, -, hfooter⟩
    · have hinside := hgrown.inside
      rw [htext] at hinside
      exact .inl ⟨0, .leaf (hinside _ hmem) (by decide)⟩
    · cases htext.symm.trans ((hc.of_bubbleAt hb).footer _ hfooter).kind
  | alt _ hne hvideo _ ih =>
    rcases ih hne with ⟨room, hgrown⟩ | ⟨p, b, hb, -, hfooter⟩
    · have hinside := hgrown.inside
      rw [hvideo] at hinside
      exact hinside.elim
    · cases hvideo.symm.trans ((hc.of_bubbleAt hb).footer _ hfooter).kind

/-- Numbers of children in the contents of a sample. -/
structure Widths (s : Shape) (c : Json) : Prop where
  boxes : ∀ site path w, Located c site path w → w.kind? = some .box → ¬ FooterAt c path w →
    1 ≤ w.contents.length ∧ w.contents.length ≤ s.width
  footers : ∀ path w, FooterAt c path w → w.kind? = some .box ∧ w.contents.length = 2
  keeps : 2 ≤ s.width → KeepsTo s.width c

theorem ContentsGrown.widths (hc : ContentsGrown s n c) : Widths s c := by
  have hboxes : ∀ site path w, Located c site path w → w.kind? = some .box →
      ¬ FooterAt c path w → 1 ≤ w.contents.length ∧ w.contents.length ≤ s.width := by
    intro site path w hw hbox hfooter
    by_cases hsite : site = .entry
    · -- the entries of the carousel are bubbles, which are no components
      subst hsite
      cases hw with
      | entry hcarousel he =>
        cases hc with
        | bubble _ hc =>
          rw [hc.type] at hcarousel
          exact absurd hcarousel (by decide)
        | carousel _ _ _ hall =>
          cases (hall _ (List.mem_of_getElem? he)).kind?_eq_none.symm.trans hbox
    · rcases hc.of_located hw hsite with ⟨room, hgrown⟩ | hat
      · have hinside := hgrown.inside
        rw [hbox] at hinside
        exact hinside.1
      · exact absurd hat hfooter
  have hfooters : ∀ path w, FooterAt c path w → w.kind? = some .box ∧ w.contents.length = 2 := by
    rintro path w ⟨p, b, hb, -, hw⟩
    have hfooter := (hc.of_bubbleAt hb).footer w hw
    exact ⟨hfooter.kind, hfooter.length⟩
  refine ⟨hboxes, hfooters, fun hwidth site path w hw hbox => ?_⟩
  by_cases hfooter : FooterAt c path w
  · have hlength := (hfooters path w hfooter).2
    omega
  · exact hboxes site path w hw hbox hfooter

/-- **Widths.** However the dice fall, every box of a sample that is no footer has at least one
child and no more than the width allows, and every footer has two. So all boxes keep to a width of
two or more. -/
theorem always_widths (s : Shape) (hs : s.Proper) (n : Nat) :
    Always (message s n) fun v => ∃ c, v.field? "contents" = some c ∧ Widths s c :=
  (always_message hs n).imp fun _ ⟨c, hv, hc⟩ => ⟨c, hv.contents, hc.widths⟩

/-- A sample of one bubble whose boxes are to have one child each. -/
theorem always_widths_narrow : Shape.Proper ⟨1, 1, false⟩ ∧ ∀ dice,
    ∃ c, (message ⟨1, 1, false⟩ 1 dice).1.field? "contents" = some c ∧ Widths ⟨1, 1, false⟩ c := by
  have hs : Shape.Proper ⟨1, 1, false⟩ := ⟨by decide, by decide⟩
  exact ⟨hs, fun dice => always_widths ⟨1, 1, false⟩ hs 1 dice⟩

/-- Dice that always fall alike, so that the bubble gets a footer. -/
def evenDice : Dice where
  faces _ := 44

theorem evenDice_footer :
    (((message ⟨1, 1, false⟩ 1 evenDice).1.field? "contents").bind (·.field? "footer")).any
      Json.isObject = true := by
  decide +kernel

/-- With these dice, the footer has two children where one was allowed. -/
theorem overfull_footer : Shape.Proper ⟨1, 1, false⟩ ∧
    ∃ c w, (message ⟨1, 1, false⟩ 1 evenDice).1.field? "contents" = some c ∧
      Located c .boxed (Path.field [] "footer") w ∧ w.kind? = some .box ∧
      w.contents.length = 2 ∧ ¬ KeepsTo 1 c := by
  have hs : Shape.Proper ⟨1, 1, false⟩ := ⟨by decide, by decide⟩
  obtain ⟨c, hv, hc⟩ := always_message hs 1 evenDice
  have hbubble : BubbleAt c [] c := .single (hc.type.1.mpr rfl)
  have hfooter := evenDice_footer
  rw [hv.contents] at hfooter
  obtain ⟨w, hfield, hobject⟩ := (Option.any_eq_true _ _).mp hfooter
  have hslot := Json.slot?_of_field hfield hobject
  have hlocated : Located c .boxed (Path.field [] "footer") w :=
    .boxed hbubble (by decide) hslot
  obtain ⟨hbox, hlength⟩ := hc.widths.footers _ w ⟨[], c, hbubble, rfl, hslot⟩
  refine ⟨hs, c, w, hv.contents, hlocated, hbox, hlength, fun hkeeps => ?_⟩
  have hone := (hkeeps _ _ w hlocated hbox).2
  omega

end FlexLayout.Sample
