import FlexLayout.Outline
import FlexLayout.Text.Lowercase
import FlexLayout.Text.Quoted
import FlexLayout.Tree.Message

/-!
# Drawn trees

A message as an outline for the eye: the carousel, bubbles, sections, nodes and spans, each with
the most telling part of its geometry.
-/

namespace FlexLayout.Tree

/-- A margin behind a label, in lower case throughout. -/
def marginText : Option Margin → String
  | some m => Text.lowercase (" margin-" ++ Keyword.word m.side ++ "=" ++ m.amount.text)
  | none => ""

def growthText (g : Growth) : String := "(flex " ++ g.text ++ ")"

namespace Node

/-- What a node shows of itself. -/
def heading : Node → String
  | box b _ =>
    "box " ++ Keyword.title b.layout ++ " " ++ growthText b.geometry.flex
      ++ marginText b.geometry.margin
  | button b =>
    "button \"" ++ b.label ++ "\" " ++ Keyword.title b.style ++ " height=" ++ b.height.text ++ " "
      ++ growthText b.geometry.flex
  | filler f => "filler " ++ growthText f.flex
  | icon i => "icon " ++ i.url ++ " width=" ++ numberText i.widthEm ++ "em"
  | image i =>
    "image " ++ i.url ++ " width=" ++ i.width.text ++ " aspect=" ++ numberText i.aspectPercent
      ++ "%"
  | separator s =>
    "separator " ++ Keyword.title s.orientation ++ " " ++ s.color ++ marginText s.margin
  | spacer s => "spacer " ++ s.height.text
  | text t =>
    "text " ++ Text.quote (String.intercalate "\\n" t.lines)
      ++ (match t.fontSize with
        | some size => " size=" ++ size.text
        | none => "")
      ++ (match t.lineHeight with
        | .px x => " line-height=" ++ numberText x ++ "px"
        | .multiplier _ => "")
      ++ marginText t.geometry.margin
  | span s => "span " ++ Text.quote s.text
  | video v _ => "video " ++ v.url ++ " aspect=" ++ numberText v.aspectPercent ++ "%"

/-- The heading of a node, the spacing before it, and the kind of its action. -/
def label (spacing : Option Margin) (n : Node) : String :=
  n.heading
    ++ (match spacing with
      | some m => " +spacing " ++ m.amount.text
      | none => "")
    ++ (match n.action with
      | some a => " [" ++ a.kind ++ "]"
      | none => "")

mutual

def outline (spacing : Option Margin) : Node → Outline
  | box b children => .node (label spacing (box b children)) (outlines children)
  | text t =>
    .node (label spacing (text t)) (t.spans.map fun s => .node ("span " ++ Text.quote s.text) [])
  | video v (some alt) => .node (label spacing (video v (some alt))) [outline none alt]
  | n => .node (label spacing n) []
termination_by structural n => n

def outlines : List (Spaced Node) → List Outline
  | [] => []
  | ⟨m, n⟩ :: rest => outline m n :: outlines rest
termination_by structural children => children

end

end Node

def Section.outline (name : String) (s : Section) : Outline :=
  .node (name ++ " " ++ growthText s.flex
      ++ (match s.backgroundColor with
        | some color => " bg=" ++ color
        | none => ""))
    [s.content.outline none]

def Bubble.outline (b : Bubble) : Outline :=
  .node ("bubble [" ++ Keyword.word b.size ++ ", max-width " ++ b.maxWidth.text ++ ", radius "
      ++ b.cornerRadius.text ++ "]")
    (b.sections.map fun (name, s) => s.outline name)

def Container.outline : Container → Outline
  | bubble b => b.outline
  | carousel c =>
    .node ("carousel [" ++ toString c.bubbles.length ++ " bubbles, gap " ++ c.gap.text ++ ", width "
        ++ c.bubbleWidth.text ++ "]")
      (c.bubbles.map Bubble.outline)

namespace Message

def outline (m : Message) : Outline := .node ("flex \"" ++ m.altText ++ "\"") [m.contents.outline]

/-- The drawing of a message. -/
def drawing (m : Message) : String := m.outline.draw

end Message

end FlexLayout.Tree
