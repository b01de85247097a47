import FlexLayout.Resolve.Content

/-!
# Components

A component resolves to a node, or to nothing if its kind is unknown. Children are resolved in the
order of the document, each in the context of its parent and its own index.
-/

namespace FlexLayout.Resolve

open FlexLayout.Document (Component)
open FlexLayout.Tree (Node Child)

/-- A finished node. -/
def finish (c : Context) (n : Node) : Run (Option Node) := do
  Run.emit (.resolved n.kind.word c.path)
  pure (some n)

mutual

def component (p : Policy) (c : Context) : Component → Run (Option Node)
  | .box b contents => do
    let children ← children p (c.inside (b.layout.getD .vertical) b.spacing) 0 contents
    finish c (.box (box b none) children)
  | .button b => finish c (.button (button b))
  | .filler f => finish c (.filler (filler f))
  | .icon i => finish c (.icon (icon i))
  | .image i => finish c (.image (image i))
  | .separator s => finish c (.separator (separator s c.axis))
  | .spacer s => finish c (.spacer (spacer s))
  | .text t contents => do
    let t ← text p t contents c
    finish c (.text t)
  | .span s => finish c (.span (span s))
  | .video v none => finish c (.video (video v) none)
  | .video v (some alt) => do
    let alt ← component p c.alt alt
    finish c (.video (video v) alt)
  | .unknown kind => do
    p.unknown kind c.path
    pure none
termination_by structural component => component

/-- The children of a box from an index on. A component that is left out still counts as the one
before its next sibling. -/
def children (p : Policy) (c : Context) (i : Nat) : List Component → Run (List Child)
  | [] => pure []
  | child :: rest => do
    let node ← component p (c.child i) child
    let more ← children p c (i + 1) rest
    match node with
    | some n => pure (⟨childSpacing c.spacing c.axis i child.kind, n⟩ :: more)
    | none => pure more
termination_by structural components => components

end

end FlexLayout.Resolve
