import FlexLayout.Action
import FlexLayout.Edges
import FlexLayout.Growth
import FlexLayout.Kind
import FlexLayout.Style

/-!
# Nodes of a resolved tree

Every node carries concrete geometry and style. Nothing in a tree refers back to the document it
was resolved from.
-/

namespace FlexLayout.Tree

/-- A margin on a single side. -/
structure Margin where
  side : Side
  amount : Length
  deriving DecidableEq, Repr

/-- What components that share free space have in common. -/
structure Geometry where
  flex : Growth
  margin : Option Margin
  position : Option Position
  offsets : Edges
  deriving DecidableEq, Repr

inductive LineHeight where
  | px (x : Float)
  /-- A multiple of the font size. -/
  | multiplier (x : Float)
  deriving DecidableEq, Repr

structure Box where
  layout : Layout
  geometry : Geometry
  padding : Edges
  backgroundColor : Option String
  background : Option String
  borderColor : Option String
  borderWidth : Option Length
  cornerRadius : Option Length
  width : Option Length
  maxWidth : Option Length
  height : Option Length
  maxHeight : Option Length
  justifyContent : Option JustifyContent
  alignItems : Option AlignItems
  action : Option Action
  deriving DecidableEq, Repr

structure Button where
  geometry : Geometry
  label : String
  style : ButtonStyle
  height : Length
  textColor : String
  backgroundColor : String
  gravity : Option Gravity
  adjustMode : Option AdjustMode
  /-- The button opens an address rather than posting an event. -/
  externalLink : Bool
  action : Option Action
  deriving DecidableEq, Repr

structure Filler where
  flex : Growth
  deriving DecidableEq, Repr

structure Icon where
  geometry : Geometry
  url : String
  fontSize : Option Length
  /-- Width in units of the font size; the height is one unit. -/
  widthEm : Float
  deriving DecidableEq, Repr

structure Image where
  geometry : Geometry
  url : String
  width : Length
  /-- Height in percent of the width. -/
  aspectPercent : Float
  aspectMode : AspectMode
  align : Align
  gravity : Option Gravity
  backgroundColor : Option String
  action : Option Action
  deriving DecidableEq, Repr

structure Separator where
  margin : Option Margin
  orientation : Orientation
  thickness : Length
  color : String
  deriving DecidableEq, Repr

structure Spacer where
  height : Length
  deriving DecidableEq, Repr

structure Span where
  text : String
  fontSize : Option Length
  color : Option String
  weight : Option Weight
  style : Option FontStyle
  decoration : Option Decoration
  deriving DecidableEq, Repr

structure Text where
  geometry : Geometry
  /-- The text split at line feeds, painted before any span. -/
  lines : List String
  spans : List Span
  fontSize : Option Length
  lineHeight : LineHeight
  wrap : Bool
  maxLines : Option UInt32
  weight : Option Weight
  style : Option FontStyle
  decoration : Option Decoration
  color : Option String
  align : Option Align
  gravity : Option Gravity
  action : Option Action
  deriving DecidableEq, Repr

structure Video where
  url : String
  previewUrl : String
  aspectPercent : Float
  action : Option Action
  deriving DecidableEq, Repr

/-- A child with the margin that its parent puts before it. -/
structure Spaced (α : Type) where
  spacing : Option Margin
  node : α
  deriving DecidableEq, Repr

inductive Node where
  | box (b : Box) (children : List (Spaced Node))
  | button (b : Button)
  | filler (f : Filler)
  | icon (i : Icon)
  | image (i : Image)
  | separator (s : Separator)
  | spacer (s : Spacer)
  | text (t : Text)
  | span (s : Span)
  | video (v : Video) (alt : Option Node)

abbrev Child := Spaced Node

namespace Node

def kind : Node → Kind
  | box .. => .box
  | button _ => .button
  | filler _ => .filler
  | icon _ => .icon
  | image _ => .image
  | separator _ => .separator
  | spacer _ => .spacer
  | text _ => .text
  | span _ => .span
  | video .. => .video

/-- The action of a node that can be tapped. -/
def action : Node → Option Action
  | box b _ => b.action
  | button b => b.action
  | image i => i.action
  | text t => t.action
  | video v _ => v.action
  | filler _ | icon _ | separator _ | spacer _ | span _ => none

/-- Growth along the main axis of the parent. -/
def flex : Node → Growth
  | box b _ => b.geometry.flex
  | button b => b.geometry.flex
  | filler f => f.flex
  | image i => i.geometry.flex
  | text t => t.geometry.flex
  | icon _ | separator _ | spacer _ | span _ | video .. => .none

def children : Node → List Child
  | box _ children => children
  | _ => []

/-- What a video shows instead. -/
def alt : Node → Option Node
  | video _ alt => alt
  | _ => none

/-- Follows child indices down. -/
def at? (n : Node) : List Nat → Option Node
  | [] => some n
  | i :: rest => (n.children[i]?).bind fun child => child.node.at? rest

def activate (n : Node) (dispatcher : Bool) : Activation := FlexLayout.activate n.action dispatcher

mutual

/-- The kinds of a node and all below it, each node before those below it. The spans of a text
count as nodes. -/
def kinds : Node → List Kind
  | box _ children => .box :: childKinds children
  | text t => .text :: t.spans.map fun _ => .span
  | video _ (some alt) => .video :: kinds alt
  | n => [n.kind]
termination_by structural n => n

def childKinds : List (Spaced Node) → List Kind
  | [] => []
  | ⟨_, n⟩ :: rest => kinds n ++ childKinds rest
termination_by structural children => children

end

mutual

/-- Whether two nodes agree in every field. -/
def same : Node → Node → Bool
  | box b cs, box b' cs' => decide (b = b') && sameChildren cs cs'
  | button b, button b' => decide (b = b')
  | filler f, filler f' => decide (f = f')
  | icon i, icon i' => decide (i = i')
  | image i, image i' => decide (i = i')
  | separator s, separator s' => decide (s = s')
  | spacer s, spacer s' => decide (s = s')
  | text t, text t' => decide (t = t')
  | span s, span s' => decide (s = s')
  | video v none, video v' none => decide (v = v')
  | video v (some alt), video v' (some alt') => decide (v = v') && same alt alt'
  | _, _ => false
termination_by structural n => n

def sameChildren : List (Spaced Node) → List (Spaced Node) → Bool
  | [], [] => true
  | ⟨m, n⟩ :: rest, ⟨m', n'⟩ :: rest' => decide (m = m') && same n n' && sameChildren rest rest'
  | _, _ => false
termination_by structural children => children

end

mutual

theorem same_iff : ∀ a b : Node, same a b = true ↔ a = b
  | box b cs, c => by
    cases c <;> simp [same, sameChildren_iff cs]
  | video v none, c => by
    cases c with
    | video v' alt' => cases alt' <;> simp [same]
    | _ => simp [same]
  | video v (some alt), c => by
    cases c with
    | video v' alt' => cases alt' <;> simp [same, same_iff alt]
    | _ => simp [same]
  | button b, c | filler b, c | icon b, c | image b, c | separator b, c | spacer b, c
  | text b, c | span b, c => by
    cases c <;> simp [same]

theorem sameChildren_iff : ∀ a b : List (Spaced Node), sameChildren a b = true ↔ a = b
  | [], b => by cases b <;> simp [sameChildren]
  | ⟨m, n⟩ :: rest, b => by
    cases b with
    | nil => simp [sameChildren]
    | cons c rest' => cases c; simp [sameChildren, same_iff n, sameChildren_iff rest, and_assoc]

end

instance : DecidableEq Node := fun a b => decidable_of_iff _ (same_iff a b)

end Node

end FlexLayout.Tree
