import FlexLayout.Proofs.Decimal.Sign
import FlexLayout.Proofs.Resolve.Alignment
import FlexLayout.Proofs.Text.Lines

/-!
# Well-formed trees

What a renderer may rely on in every resolved tree, whatever the author wrote: the growth of every
node and of every section is settled, texts have lines, buttons have labels, and a box with a width
has a greatest width. `WellFormed` says this of one node and the value that it stands for, and
`json_wellFormed` says it of every place of every tree.
-/

namespace FlexLayout

/-! ## Growth -/

namespace Growth

/-- Growth that a renderer can apply: none, one of the three weights, or a positive factor that is
not one of them. -/
inductive Settled : Growth → Prop where
  | none : Settled none
  | weight {w : UInt8} : w ∈ [1, 2, 3] → Settled (weight w)
  | factor {x : Float} : 0 < x → (x == 1) = false → (x == 2) = false → (x == 3) = false →
    Settled (factor x)

/-- Whatever an author asks for, the growth is settled once equal growth stands in for nothing. -/
theorem settled_orEqual_ofFlex (flex : Option Float) : (ofFlex flex).orEqual.Settled := by
  have hone : (weight 1).Settled := .weight (by decide)
  rcases flex with _ | x
  · exact hone
  · simp only [ofFlex]
    split
    · exact hone
    · rename_i hasks
      rw [Bool.or_eq_true, not_or, Bool.not_eq_true, decide_eq_true_eq] at hasks
      split
      · exact .none
      · rename_i hzero
        split
        · exact hone
        · split
          · exact .weight (by decide)
          · split
            · exact .weight (by decide)
            · rename_i h1 h2 h3
              have hpos : 0 < x := by
                rcases Rounding.neg_or_zero_or_pos hasks.1 with h | h | h
                · exact absurd h hasks.2
                · exact absurd h hzero
                · exact h
              exact .factor hpos (by simpa using h1) (by simpa using h2) (by simpa using h3)

end Growth

namespace Resolve

open FlexLayout.Document (Component)
open FlexLayout.Tree (Node Child)
open FlexLayout.Text (OneLine split)

/-! ## Nodes -/

/-- The text that the author of a text wrote; empty unless it is a string. -/
def authorText (w : Json) : String := ((w.field? "text").bind Json.text?).getD ""

structure BoxWellFormed (b : Tree.Box) : Prop where
  growth : b.geometry.flex.Settled
  maxWidth : b.width.isSome → b.maxWidth.isSome

structure ButtonWellFormed (b : Tree.Button) : Prop where
  growth : b.geometry.flex.Settled
  label : b.label ≠ ""
  /-- An address is opened exactly by the actions that have one. -/
  external : b.externalLink = true ↔ ∃ label address alt, b.action = some (.uri label address alt)

/-- A text that stands for `w` has at least one line, and its lines make up what `w` says. -/
structure TextWellFormed (w : Json) (t : Tree.Text) : Prop where
  growth : t.geometry.flex.Settled
  lines_ne_nil : t.lines ≠ []
  oneLine : ∀ line ∈ t.lines, OneLine line
  joined : String.intercalate "\n" t.lines = authorText w
  maxLines : t.maxLines ≠ some 0

/-- What a renderer may rely on in a node that stands for `w`. Separators, spacers, spans and
videos store no growth and nothing else that could be out of order. -/
def WellFormed (w : Json) : Node → Prop
  | .box b _ => BoxWellFormed b
  | .button b => ButtonWellFormed b
  | .filler f => f.flex.Settled
  | .icon i => i.geometry.flex = .none
  | .image i => i.geometry.flex.Settled
  | .text t => TextWellFormed w t
  | .separator _ | .spacer _ | .span _ | .video .. => True

theorem buttonLabel_ne_empty (action : Option Action) : buttonLabel action ≠ "" := by
  unfold buttonLabel
  split
  · decide
  · decide
  · rename_i label hne hlabel
    exact hne

theorem isExternal_iff (action : Option Action) :
    isExternal action = true ↔ ∃ label address alt, action = some (.uri label address alt) := by
  rcases action with _ | ⟨label, address, alt⟩ | _ | _ <;> simp [isExternal]

theorem boxWellFormed_box (b : Document.Box) (d : Option Edges) : BoxWellFormed (box b d) where
  growth := Growth.settled_orEqual_ofFlex b.flex
  maxWidth h := by
    have hwidth : b.width.isSome := by rwa [← Option.isSome_map]
    show ((b.maxWidth <|> b.width).map Length.literal).isSome
    rw [Option.isSome_map]
    cases b.maxWidth with
    | none => exact hwidth
    | some _ => rfl

theorem buttonWellFormed_button (b : Document.Button) : ButtonWellFormed (button b) where
  growth := Growth.settled_orEqual_ofFlex b.flex
  label := buttonLabel_ne_empty b.action
  external := isExternal_iff b.action

theorem textWellFormed_textOf (axis : Layout) (w : Json) (contents : List Component) :
    TextWellFormed w (textOf axis (.ofFields w.fields) contents) where
  growth := Growth.settled_orEqual_ofFlex _
  lines_ne_nil := Text.split_ne_nil '\n' _
  oneLine _ hline := Text.oneLine_of_mem_split hline
  joined := Text.intercalate_split _
  maxLines h := absurd (Option.filter_eq_some_iff.mp h).2 (by decide)

/-- The node of every value is well formed, whatever its attributes are. -/
theorem wellFormed_nodeOf {axis : Layout} {w : Json} {n : Node}
    (h : nodeOf axis (.ofJson w) = some n) : WellFormed w n := by
  rw [Component.ofJson_eq] at h
  rcases hk : w.kind? with _ | k
  · rw [hk] at h
    cases h
  · rw [hk] at h
    cases k with
    | box =>
      cases h
      exact boxWellFormed_box _ none
    | button =>
      cases h
      exact buttonWellFormed_button _
    | text =>
      cases h
      exact textWellFormed_textOf axis w _
    | filler | image =>
      cases h
      exact Growth.settled_orEqual_ofFlex _
    | icon =>
      cases h
      rfl
    | video =>
      rw [nodeOf_video] at h
      cases h
      trivial
    | separator | spacer | span =>
      cases h
      trivial

/-! ## Sections -/

/-- Below the top of a section every node is well formed. -/
theorem Founded.wellFormed_inside {p : Policy} {w x : Json} {n m : Node} (h : Founded p w n)
    (hroot : WellFormed w n) (hi : Inside w n x m) : WellFormed x m :=
  h.forall_inside hroot (fun _ _ _ => wellFormed_nodeOf) hi

/-- What a renderer may rely on in the section of a name, which comes from the value in the slot of
that name: bodies take the space that is left, other sections only their own, every node stands for
a value in the slot, and wherever a node stands for a value, it is well formed for it. -/
structure SectionWellFormed (name : String) (slot : Option Json) (s : Tree.Section) : Prop where
  growth : s.flex = if name = "body" then .weight 1 else .none
  nodes : ∃ w, slot = some w ∧ (∀ m, Under s.content m → ∃ x, Inside w s.content x m) ∧
    ∀ x m, Inside w s.content x m → WellFormed x m

theorem SectionWellFormed.of_founded {name : String} {w : Json} {s : Tree.Section}
    (hgrowth : s.flex = if name = "body" then .weight 1 else .none)
    (h : Founded .skip w s.content) (hroot : WellFormed w s.content) :
    SectionWellFormed name (some w) s :=
  ⟨hgrowth, w, rfl, fun _ hm => h.exists_inside hm, fun _ _ hi => h.wellFormed_inside hroot hi⟩

theorem growth_eq (s : BoxedSection) :
    s.growth = if Keyword.word s = "body" then .weight 1 else .none := by
  cases s <;> decide

/-- Only bodies grow. -/
theorem growth_of_mem_sections {v : Json} {name : String} {sec : Tree.Section}
    (h : (name, sec) ∈ (bubbleOf (.ofFields v.fields)).sections) :
    sec.flex = if name = "body" then .weight 1 else .none := by
  rcases mem_sections_bubbleOf h with ⟨s, size, hasFooter, color, rfl, hsec⟩ | ⟨rfl, color, hsec⟩
  · obtain ⟨w, -, -, rfl⟩ := exists_box_of_boxedOf hsec
    exact growth_eq s
  · obtain ⟨n, -, rfl⟩ := Option.map_eq_some_iff.mp hsec
    rfl

theorem wellFormed_of_rootOf {w : Json} {n : Node} (h : RootOf w n) : WellFormed w n := by
  rcases h with h | ⟨-, d, rfl⟩
  · exact wellFormed_nodeOf h
  · exact boxWellFormed_box _ _

theorem bubbleOf_wellFormed {v : Json} {name : String} {sec : Tree.Section}
    (h : (name, sec) ∈ (bubbleOf (.ofFields v.fields)).sections) :
    SectionWellFormed name (v.slot? name) sec := by
  obtain ⟨w, hw, hfounded, hroot⟩ := exists_root h
  rw [hw]
  exact .of_founded (growth_of_mem_sections h) hfounded (wellFormed_of_rootOf hroot)

/-- **Well-formedness.** In the tree of every document, whatever the policy, every section takes
the space that is left if it is a body and only its own otherwise. Every node of every section,
alternative content included, stands for a value, and at every place the node is well formed for the
value there; so the lines of each text make up what the author wrote in that place. -/
theorem json_wellFormed (p : Policy) (v : Json) (t : Tree.Message)
    (h : (json p v).result = .ok t) :
    ∃ c, v.field? "contents" = some c ∧
      List.Forall₂ (fun (w : Json) (b : Tree.Bubble) =>
        ∀ name sec, (name, sec) ∈ b.sections → SectionWellFormed name (w.slot? name) sec)
          c.bubbles t.bubbles :=
  forall₂_bubbles h fun _ _ _ hsec => bubbleOf_wellFormed hsec

/-- A body with growth, labels and lines that have to be put in order. -/
def untidy : Json :=
  let typed (kind : String) (fs : List (String × Json)) : Json :=
    .object (("type", .string kind) :: fs)
  typed "flex" [("contents", typed "bubble" [("body", typed "box" [
    ("flex", .number (.int (-1))), ("width", .string "50%"),
    ("contents", .array [
      typed "text" [("text", .string "one\n"), ("maxLines", .number (.int 0))],
      typed "button" [("flex", .number (.int 7)), ("action", typed "uri" [("label", .string "")])],
      typed "video" [("altContent", typed "icon" [("flex", .number (.int 2))])]])])])]

theorem json_wellFormed_untidy :
    ∃ t, (json .skip untidy).result = .ok t ∧
      ∃ c, untidy.field? "contents" = some c ∧
        List.Forall₂ (fun (w : Json) (b : Tree.Bubble) =>
          ∀ name sec, (name, sec) ∈ b.sections → SectionWellFormed name (w.slot? name) sec)
            c.bubbles t.bubbles := by
  obtain ⟨m, hm⟩ : ∃ m, Document.Message.ofJson untidy = .ok m := ⟨_, rfl⟩
  have h : (json .skip untidy).result = .ok (treeOf m) := json_skip_result hm
  exact ⟨treeOf m, h, json_wellFormed .skip untidy (treeOf m) h⟩

end Resolve

end FlexLayout
