import FlexLayout.Tree.Node

/-!
# Resolved messages

A message is one bubble or a row of bubbles, and a bubble has up to four sections.
-/

namespace FlexLayout.Tree

/-- A section of a bubble with the style of its wrapper. -/
structure Section where
  backgroundColor : Option String
  flex : Growth
  content : Node
  deriving DecidableEq

structure Bubble where
  size : BubbleSize
  direction : Direction
  maxWidth : Length
  cornerRadius : Length
  header : Option Section
  hero : Option Section
  body : Option Section
  footer : Option Section
  action : Option Action
  deriving DecidableEq

/-- Bubbles in a row that scrolls sideways. -/
structure Carousel where
  bubbles : List Bubble
  gap : Length
  insetStart : Length
  insetEnd : Length
  bubbleWidth : Length
  deriving DecidableEq

inductive Container where
  | bubble (b : Bubble)
  | carousel (c : Carousel)
  deriving DecidableEq

structure Message where
  altText : String
  contents : Container
  deriving DecidableEq

namespace Bubble

/-- The sections that are there, in the order in which they are painted. -/
def sections (b : Bubble) : List (String × Section) :=
  [("header", b.header), ("hero", b.hero), ("body", b.body), ("footer", b.footer)].filterMap
    fun (name, s) => s.map (name, ·)

def activate (b : Bubble) (dispatcher : Bool) : Activation :=
  FlexLayout.activate b.action dispatcher

end Bubble

namespace Message

def bubbles (m : Message) : List Bubble :=
  match m.contents with
  | .bubble b => [b]
  | .carousel c => c.bubbles

/-- The kinds of all nodes, section by section. -/
def kinds (m : Message) : List Kind :=
  m.bubbles.flatMap fun b => b.sections.flatMap fun (_, s) => s.content.kinds

/-- How often each kind occurs, in the order of the words; kinds that do not occur are left
out. -/
def kindCounts (m : Message) : List (Kind × Nat) :=
  let kinds := m.kinds
  (Kind.alphabetical.map fun k => (k, kinds.count k)).filter fun (_, n) => n ≠ 0

def nodeCount (m : Message) : Nat := m.kindCounts.foldr (fun (_, n) total => n + total) 0

end Message

end FlexLayout.Tree
