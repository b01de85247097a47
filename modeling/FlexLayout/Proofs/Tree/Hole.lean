import FlexLayout.Proofs.Document.Location
import FlexLayout.Tree.Message

/-!
# Trees with a place left open

A hole is a resolved message without what stands in one place. Filling it puts a part there, or
nothing, and leaves all the rest as it is: every other node, the spacing of every other child,
every other section and every other bubble, in their order.

The one thing that filling a hole may touch elsewhere is under a footer: the bottom padding at the
top of the body of the same bubble, which can depend on whether a footer is there.
-/

namespace FlexLayout.Tree

open FlexLayout.Document (Site)

/-! ## Parts -/

/-- What a value at a site becomes in a tree, if anything. -/
abbrev Part : Site → Type
  | .entry => Bubble
  | .boxed | .hero => Section
  | .alt => Node
  | .boxItem => Child
  | .textItem => Span

/-- The part with another node in it. Bubbles and spans are no node. -/
def Part.withNode : {s : Site} → Part s → Node → Part s
  | .boxed, sec, n | .hero, sec, n => { sec with content := n }
  | .alt, _, n => n
  | .boxItem, c, n => { c with node := n }
  | .entry, b, _ => b
  | .textItem, sp, _ => sp

/-! ## Bottom padding -/

/-- The section with another bottom padding, if a box is at its top. -/
def Section.withBottom (l : Length) (s : Section) : Section :=
  match s.content with
  | .box b cs =>
    { s with content := .box { b with padding := { b.padding with bottom := some l } } cs }
  | _ => s

/-- The bottom paddings at the top of a body with and without a footer. -/
structure Bottoms where
  withFooter : Length
  without : Length

def Bottoms.of (bs : Bottoms) (hasFooter : Bool) : Length :=
  if hasFooter then bs.withFooter else bs.without

/-! ## Holes -/

/-- A message without one of its bubbles, which has to be there. -/
inductive Around where
  | alone (altText : String)
  | among (altText : String) (row : Carousel) (before after : List Bubble)

def Around.fill (b : Bubble) : Around → Message
  | .alone altText => ⟨altText, .bubble b⟩
  | .among altText row before after =>
    ⟨altText, .carousel { row with bubbles := before ++ b :: after }⟩

/-- A message with one place left open for what a value at a site becomes. Places below another
part keep what stands around that part, the part itself but for its node, and the node but for the
place. -/
inductive Hole : Site → Type where
  | entry (altText : String) (row : Carousel) (before after : List Bubble) : Hole .entry
  | header (around : Around) (b : Bubble) : Hole .boxed
  | body (around : Around) (b : Bubble) : Hole .boxed
  /-- The body of the bubble may take its bottom padding from whether the footer is there. -/
  | footer (around : Around) (b : Bubble) (bottoms : Option Bottoms) : Hole .boxed
  | hero (around : Around) (b : Bubble) : Hole .hero
  | boxItem {s : Site} (outer : Hole s) (part : Part s) (b : Box) (before after : List Child) :
    Hole .boxItem
  | textItem {s : Site} (outer : Hole s) (part : Part s) (t : Text) (before after : List Span) :
    Hole .textItem
  | alt {s : Site} (outer : Hole s) (part : Part s) (v : Video) : Hole .alt
  /-- The place is inside something that the tree does not show. -/
  | closed {s : Site} (m : Message) : Hole s

namespace Hole

/-- Puts a part, or nothing, into the place. -/
def fill : {s : Site} → Hole s → Option (Part s) → Message
  | _, entry altText row before after, part =>
    ⟨altText, .carousel { row with bubbles := before ++ part.toList ++ after }⟩
  | _, header around b, part => around.fill { b with header := part }
  | _, body around b, part => around.fill { b with body := part }
  | _, footer around b none, part => around.fill { b with footer := part }
  | _, footer around b (some bottoms), part =>
    around.fill { b with
      body := b.body.map (.withBottom (bottoms.of part.isSome))
      footer := part }
  | _, hero around b, part => around.fill { b with hero := part }
  | _, boxItem outer whole b before after, part =>
    outer.fill (some (whole.withNode (.box b (before ++ part.toList ++ after))))
  | _, textItem outer whole t before after, part =>
    outer.fill (some (whole.withNode (.text { t with spans := before ++ part.toList ++ after })))
  | _, alt outer whole v, part => outer.fill (some (whole.withNode (.video v part)))
  | _, closed m, _ => m

/-- The bottom paddings that filling the hole chooses from. -/
def bottoms? : {s : Site} → Hole s → Option Bottoms
  | _, footer _ _ bottoms => bottoms
  | _, _ => none

end Hole

end FlexLayout.Tree
