import FlexLayout.Proofs.Resolve.Locality

/-!
# Sections and their paddings

A box has the padding that its author wrote, edge by edge. The bubble lends a default to the boxes
at the top of its header, body and footer if they write no padding at all, and to no other box: the
hero, the children of any box and the alternative content of any video have what they write, or
nothing. The default of a body depends on whether the bubble keeps its footer, so a footer that is
dropped counts as none (`bubble_padded`).
-/

namespace FlexLayout.Resolve

open FlexLayout.Document (stringOf)
open FlexLayout.Tree (Node Child)

/-! ## What an author writes -/

/-- The length that a padding attribute stands for; zero if it is neither a token nor absolute. -/
def paddingLength (s : String) : Length := (TokenTable.padding.resolve? s).getD (.px 0)

/-- One edge of a box that stands for `w`. The attribute of that edge goes before the attribute for
all edges, each if it is a string, and without either there is no padding. -/
structure EdgeWritten (w : Json) (name : String) (edge : Option Length) : Prop where
  own : ∀ s, w.field? name = some (.string s) → edge = some (paddingLength s)
  all : (∀ s, w.field? name ≠ some (.string s)) →
    ∀ s, w.field? "paddingAll" = some (.string s) → edge = some (paddingLength s)
  neither : (∀ s, w.field? name ≠ some (.string s)) →
    (∀ s, w.field? "paddingAll" ≠ some (.string s)) → edge = none

/-- The edges are those that the author of `w` wrote. -/
structure PaddingWritten (w : Json) (e : Edges) : Prop where
  top : EdgeWritten w "paddingTop" e.top
  bottom : EdgeWritten w "paddingBottom" e.bottom
  start : EdgeWritten w "paddingStart" e.start
  «end» : EdgeWritten w "paddingEnd" e.end

/-- A node that stands for `w` has the padding that is written there, if it is a box. -/
def Padded (w : Json) : Node → Prop
  | .box b _ => PaddingWritten w b.padding
  | _ => True

/-- At the top of a section, a box that writes no padding has the default of its place. -/
def RootPadded (default : Edges) (w : Json) (n : Node) : Prop :=
  ∃ b cs, n = .box b cs ∧ (SetsNoPadding w → b.padding = default) ∧
    (¬ SetsNoPadding w → PaddingWritten w b.padding)

/-- What stands directly below a node has the padding that is written on it: the children of a box,
paired with the known items of its value, and the alternative content of a video. -/
structure InnerPadded (w : Json) (n : Node) : Prop where
  children : ∀ b cs, n = .box b cs →
    List.Forall₂ (fun x (c : Child) => Padded x c.node) w.knownContents cs
  alt : ∀ v m, n = .video v (some m) → ∃ x, w.slot? "altContent" = some x ∧ Padded x m

/-- What a section has of the value in its slot and of the style for it. Its root is padded by the
rule of its place, and whatever stands below it, at any depth, as it is written. -/
structure SectionPadded (slot : Option Json) (color : Option String) (root : Json → Node → Prop)
    (s : Tree.Section) : Prop where
  color : s.backgroundColor = color
  nodes : ∃ w, slot = some w ∧ root w s.content ∧
    (∀ m, Under s.content m → ∃ x, Inside w s.content x m) ∧
    ∀ x m, Inside w s.content x m → InnerPadded x m

/-- What the sections of a bubble have of the value that it stands for. -/
structure BubblePadded (v : Json) (b : Tree.Bubble) : Prop where
  size : b.size = sizeOf v
  hasFooter : hasFooter v = b.footer.isSome
  header : ∀ s, b.header = some s → SectionPadded (v.slot? "header") (stylesOf v).header
    (RootPadded (defaultPadding b.size .header b.footer.isSome)) s
  hero : ∀ s, b.hero = some s → SectionPadded (v.slot? "hero") (stylesOf v).hero Padded s
  body : ∀ s, b.body = some s → SectionPadded (v.slot? "body") (stylesOf v).body
    (RootPadded (defaultPadding b.size .body b.footer.isSome)) s
  footer : ∀ s, b.footer = some s → SectionPadded (v.slot? "footer") (stylesOf v).footer
    (RootPadded (defaultPadding b.size .footer b.footer.isSome)) s

/-! ## Boxes -/

theorem edgeWritten (w : Json) (name : String) :
    EdgeWritten w name ((stringOf w.fields name <|> stringOf w.fields "paddingAll").map fun s =>
      TokenTable.padding.resolveD s (.px 0)) where
  own s hs := by
    have hread : stringOf w.fields name = some s := Json.bind_text?_eq_some_iff.mpr hs
    rw [hread]
    rfl
  all hown s hs := by
    have hread : stringOf w.fields "paddingAll" = some s := Json.bind_text?_eq_some_iff.mpr hs
    rw [(stringOf_eq_none_iff w name).mpr hown, hread]
    rfl
  neither hown hall := by
    rw [(stringOf_eq_none_iff w name).mpr hown, (stringOf_eq_none_iff w _).mpr hall]
    rfl

theorem paddingWritten (w : Json) :
    PaddingWritten w (.padding (Document.Box.ofFields w.fields).padding) where
  top := edgeWritten w "paddingTop"
  bottom := edgeWritten w "paddingBottom"
  start := edgeWritten w "paddingStart"
  «end» := edgeWritten w "paddingEnd"

/-- Without a default, the padding of a box is what is written. -/
theorem padded_nodeOf {axis : Layout} {w : Json} {n : Node}
    (h : nodeOf axis (.ofJson w) = some n) : Padded w n := by
  cases n with
  | box b cs =>
    rw [nodeOf_ofJson_box (resolves_of_nodeOf h).1] at h
    cases h
    exact paddingWritten w
  | _ => trivial

theorem rootPadded_box (d : Edges) (w : Json) (cs : List Child) :
    RootPadded d w (.box (box (.ofFields w.fields) (some d)) cs) := by
  refine ⟨_, cs, rfl, fun hunset => ?_, fun hset => ?_⟩
  · exact if_pos ((isUnset_iff w).mpr hunset)
  · have hpadding : (box (.ofFields w.fields) (some d)).padding =
        .padding (Document.Box.ofFields w.fields).padding :=
      if_neg fun h => hset ((isUnset_iff w).mp h)
    rw [hpadding]
    exact paddingWritten w

/-! ## Sections -/

theorem Founded.innerPadded {p : Policy} {w : Json} {n : Node} (h : Founded p w n) :
    InnerPadded w n := by
  refine ⟨fun b cs hn => ?_, fun v m hn => ?_⟩
  · subst hn
    obtain ⟨axis, hall⟩ := h.children
    exact hall.imp fun _ _ => padded_nodeOf
  · subst hn
    obtain ⟨x, hx, -⟩ := h.stands.alt v m rfl
    exact ⟨x, hx, padded_nodeOf (h.nodeOf_alt hx)⟩

theorem SectionPadded.of_founded {w : Json} {root : Json → Node → Prop} {n : Node}
    (color : Option String) (growth : Growth) (hroot : root w n) (h : Founded .skip w n) :
    SectionPadded (some w) color root ⟨color, growth, n⟩ :=
  ⟨rfl, w, rfl, hroot, fun _ hm => h.exists_inside hm, fun _ _ hi => (h.inside hi).innerPadded⟩

theorem boxedOf_padded {size : BubbleSize} {hasFooter : Bool} {s : BoxedSection}
    {color : Option String} {slot : Option Json} {sec : Tree.Section}
    (h : boxedOf size hasFooter s color (slot.map .ofJson) = some sec) :
    SectionPadded slot color (RootPadded (defaultPadding size s hasFooter)) sec := by
  obtain ⟨w, rfl, hk, rfl⟩ := exists_box_of_boxedOf h
  exact .of_founded color s.growth (rootPadded_box _ w _) (founded_root hk _)

theorem heroOf_padded {color : Option String} {slot : Option Json} {sec : Tree.Section}
    (h : heroOf color (slot.map .ofJson) = some sec) : SectionPadded slot color Padded sec := by
  obtain ⟨n, hn, rfl⟩ := Option.map_eq_some_iff.mp h
  obtain ⟨c, hc, hn⟩ := Option.bind_eq_some_iff.mp hn
  obtain ⟨w, rfl, rfl⟩ := Option.map_eq_some_iff.mp hc
  have hfounded : Founded .skip w n := .of_nodeOf hn fun hreject => by cases hreject
  exact .of_founded color .none (padded_nodeOf hn) hfounded

theorem bubbleOf_padded (v : Json) : BubblePadded v (bubbleOf (.ofFields v.fields)) := by
  -- a footer is kept exactly if it is a box, which is what the body asks
  have hfooter : hasFooter v = (bubbleOf (.ofFields v.fields)).footer.isSome :=
    (isSome_boxedOf ..).symm
  have hboxed (s : BoxedSection) (name : String) (color : Option String) (sec : Tree.Section)
      (h : boxedOf (sizeOf v) (hasFooter v) s color (Document.sectionOf v.fields name) = some sec) :
      SectionPadded (v.slot? name) color (RootPadded (defaultPadding (sizeOf v) s
        (bubbleOf (.ofFields v.fields)).footer.isSome)) sec := by
    rw [Document.sectionOf_eq] at h
    rw [← hfooter]
    exact boxedOf_padded h
  have hhero (sec : Tree.Section)
      (h : heroOf (stylesOf v).hero (Document.sectionOf v.fields "hero") = some sec) :
      SectionPadded (v.slot? "hero") (stylesOf v).hero Padded sec := by
    rw [Document.sectionOf_eq] at h
    exact heroOf_padded h
  exact ⟨rfl, hfooter, hboxed .header "header" _, hhero, hboxed .body "body" _,
    hboxed .footer "footer" _⟩

/-- **Paddings.** However a bubble is resolved, under either policy, every section has the colour of
the style of its name. The box at the top of a header, body or footer has the default of its place
if it writes no padding at all, where a body has a footer below it if the footer is kept. All other
boxes, and that one if it writes any padding, have what they write: on each edge the attribute of
that edge, or else that for all edges, or else nothing. -/
theorem bubble_padded (p : Policy) (v : Json) (path : Path) (b : Tree.Bubble)
    (h : (bubble p (.ofFields v.fields) path).result = .ok b) : BubblePadded v b := by
  obtain ⟨rfl, -⟩ := (yields_bubble _ path).of_result h
  exact bubbleOf_padded v

/-- A bubble whose footer is dropped, whose header writes some padding and whose body none. -/
def framed : Json :=
  let typed (kind : String) (fs : List (String × Json)) : Json :=
    .object (("type", .string kind) :: fs)
  typed "bubble" [("size", .string "kilo"),
    ("styles", .object [("body", .object [("backgroundColor", .string "#ffffff")])]),
    ("header", typed "box" [("paddingAll", .string "lg"), ("paddingTop", .string "wide")]),
    ("hero", typed "video" [("altContent", typed "box" [])]),
    ("body", typed "box" [("paddingAll", .number (.int 4)), ("contents", .array [
      typed "box" [("paddingStart", .string "5px")]])]),
    ("footer", typed "text" [])]

theorem bubble_padded_framed :
    ∃ b, (bubble .skip (.ofFields framed.fields) []).result = .ok b ∧ BubblePadded framed b := by
  have h := (yields_bubble (.ofFields framed.fields) []).skip_result
  exact ⟨_, h, bubble_padded .skip framed [] _ h⟩

end FlexLayout.Resolve
