import FlexLayout.Proofs.Text.Lowercase
import FlexLayout.Proofs.Tree.Elements
import FlexLayout.Resolve.Message

/-!
# Margins in drawings

A box, a separator and a text show their margin behind their heading, as its side and its amount.
The amount is put into lower case, unlike every other length of a drawing. That leaves all numbers
as they are, but not a value that its author wrote with capitals (`line_margin`).
-/

namespace FlexLayout.Tree

open FlexLayout.Text (Small small_append lowercase lowercase_eq_self_iff lowercase_append_equals
  small_numberText_iff)

namespace Node

/-- The margin that the line of a node shows. -/
def shownMargin? : Node → Option Margin
  | box b _ => b.geometry.margin
  | separator s => s.margin
  | text t => t.geometry.margin
  | _ => none

/-- The same node without the margin that it shows. -/
def bare : Node → Node
  | box b children => box { b with geometry.margin := none } children
  | separator s => separator { s with margin := none }
  | text t => text { t with geometry.margin := none }
  | n => n

/-- What stands behind the heading of a node: the amount of the spacing before it, and the kind of
its action. -/
def tail (spacing : Option Margin) (n : Node) : String :=
  spacing.elim "" (fun m => " +spacing " ++ m.amount.text)
    ++ n.action.elim "" (fun a => " [" ++ a.kind ++ "]")

theorem heading_eq (n : Node) : n.heading = n.bare.heading ++ marginText n.shownMargin? := by
  have hnone (s : String) : s = s ++ marginText none := (String.append_empty).symm
  cases n with
  | box | separator | text =>
    show _ ++ _ = _ ++ marginText none ++ _
    rw [← hnone]
    rfl
  | _ => exact hnone _

theorem label_eq_heading (spacing : Option Margin) (n : Node) :
    n.label spacing = n.heading ++ n.tail spacing := by
  unfold label tail
  rw [String.append_assoc]
  rcases spacing with _ | m <;> rcases n.action with _ | a <;> rfl

theorem label_eq (spacing : Option Margin) (n : Node) :
    n.label spacing = n.bare.heading ++ marginText n.shownMargin? ++ n.tail spacing := by
  rw [label_eq_heading, heading_eq]

end Node

/-- A margin with its amount as it is. -/
def Margin.shown (m : Margin) : String :=
  " margin-" ++ Keyword.word m.side ++ "=" ++ m.amount.text

theorem marginText_some (m : Margin) :
    marginText (some m) = " margin-" ++ Keyword.word m.side ++ "=" ++ lowercase m.amount.text := by
  have hside : lowercase (" margin-" ++ Keyword.word m.side) =
      " margin-" ++ Keyword.word m.side := by
    cases m.side <;> decide +kernel
  rw [marginText, lowercase_append_equals, hside]

theorem marginText_eq_shown_iff {m : Margin} :
    marginText (some m) = m.shown ↔ Small m.amount.text := by
  rw [marginText_some, Margin.shown, String.append_right_inj, lowercase_eq_self_iff]

/-- The text of a number has no capitals, apart from that of a nan. -/
theorem small_text_iff {l : Length} {x : Float} (h : l = .px x ∨ l = .percent x) :
    Small l.text ↔ Binary.ofFloat x ≠ .nan := by
  have hpx : Small "px" := by decide +kernel
  have hpercent : Small "%" := by decide +kernel
  obtain rfl | rfl := h
  · rw [Length.text, small_append, small_numberText_iff, and_iff_left hpx]
  · rw [Length.text, small_append, small_numberText_iff, and_iff_left hpercent]

namespace Message

theorem line_ofNode {m : Message} {p : List Nat} {spacing : Option Margin} {n : Node}
    (h : m.element? p = some (.ofNode spacing n)) :
    m.line p = m.shape.stem p ++ n.bare.heading ++ marginText n.shownMargin? ++ n.tail spacing := by
  rw [line, h, Option.elim_some, Element.label_ofNode, Node.label_eq]
  simp only [String.append_assoc]

/-- **Margins in drawings.** The line of a node that shows a margin has, between its heading and the
spacing before it, the side of the margin and its amount in lower case. The amount is shown as it is
exactly if it is its own lower case. Every number is, but not every literal value. -/
theorem line_margin (m : Message) {p : List Nat} {spacing : Option Margin} {n : Node} {mg : Margin}
    (hn : m.element? p = some (.ofNode spacing n)) (hmg : n.shownMargin? = some mg) :
    m.drawing = String.join ((m.positions.map m.line).map (· ++ "\n")) ∧ p ∈ m.positions ∧
      m.line p = m.shape.stem p ++ n.bare.heading
        ++ (" margin-" ++ Keyword.word mg.side ++ "=" ++ lowercase mg.amount.text)
        ++ n.tail spacing ∧
      (m.line p = m.shape.stem p ++ n.bare.heading ++ mg.shown ++ n.tail spacing ↔
        Small mg.amount.text) ∧
      ∀ x, mg.amount = .px x ∨ mg.amount = .percent x →
        (Small mg.amount.text ↔ Binary.ofFloat x ≠ .nan) := by
  have hline := line_ofNode hn
  rw [hmg] at hline
  refine ⟨?_, ?_, ?_, ?_, fun x => small_text_iff⟩
  · rw [drawing, Outline.draw, lines_outline]
  · rw [mem_positions, hn]
    rfl
  · rw [hline, marginText_some]
  · rw [hline, String.append_left_inj, String.append_right_inj, marginText_eq_shown_iff]

/-- A message whose only node has a literal margin with capitals. -/
def loud : Message where
  altText := ""
  contents := .bubble {
    size := .mega
    direction := .ltr
    maxWidth := .px 300
    cornerRadius := .px 17
    header := none
    hero := some ⟨none, .none, .separator {
      margin := some ⟨.top, .literal "CALC(1px)"⟩
      orientation := .horizontal
      thickness := .px 1
      color := "#d4d6da" }⟩
    body := none
    footer := none
    action := none }

theorem line_margin_loud : ∃ n mg, loud.element? [0, 0, 0] = some (.ofNode none n) ∧
    n.shownMargin? = some mg ∧ ¬ Small mg.amount.text ∧
    loud.line [0, 0, 0] = "        └── " ++ n.bare.heading ++ " margin-top=calc(1px)" := by
  refine ⟨_, _, rfl, rfl, by decide +kernel, ?_⟩
  rw [(line_margin loud (p := [0, 0, 0]) rfl rfl).2.2.1]
  decide +kernel

/-- The document that the message is resolved from. -/
def loudDocument : Json :=
  .object [("type", .string "flex"), ("altText", .string ""), ("contents", .object [
    ("type", .string "bubble"), ("hero", .object [
      ("type", .string "separator"), ("margin", .string "CALC(1px)")])])]

/-- The margin of a resolved message is not always shown as it is. -/
theorem margin_altered : ¬ ∀ v m, (Resolve.json .skip v).result.toOption = some m →
    ∀ p spacing n mg, m.element? p = some (.ofNode spacing n) → n.shownMargin? = some mg →
      m.line p = m.shape.stem p ++ n.bare.heading ++ mg.shown ++ n.tail spacing := by
  intro h
  have hloud : (Resolve.json .skip loudDocument).result.toOption = some loud := by decide +kernel
  have hline := h loudDocument loud hloud [0, 0, 0] none _ _ rfl rfl
  revert hline
  decide +kernel

end Message

end FlexLayout.Tree
