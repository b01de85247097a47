import FlexLayout.Path
import FlexLayout.Style
import FlexLayout.Tree.Node

/-!
# Contexts

What a container hands down to its children, and the margins that follow from it.
-/

namespace FlexLayout.Resolve

structure Context where
  /-- The main axis of the parent. -/
  axis : Layout
  /-- The spacing between the children of the parent, as written. -/
  spacing : Option String
  size : BubbleSize
  /-- Where the component stands in the document. -/
  path : Path
  deriving DecidableEq, Repr

namespace Context

/-- The context at the top of a section, which counts as vertical. -/
def ofSection (size : BubbleSize) (path : Path) : Context := ⟨.vertical, none, size, path⟩

/-- The context inside a box, before a child is chosen. -/
def inside (c : Context) (axis : Layout) (spacing : Option String) : Context :=
  { c with axis, spacing }

/-- The context of the child at an index. -/
def child (c : Context) (i : Nat) : Context := { c with path := c.path.item i }

/-- The context of the alternative content of a video, which counts as vertical. -/
def alt (c : Context) : Context := ofSection c.size (c.path.field "altContent")

end Context

/-- A margin as written. What is no length gives no margin. -/
def margin (value : Option String) (side : Side) : Option Tree.Margin :=
  (value.bind TokenTable.margin.resolve?).map (⟨side, ·⟩)

/-- The margin that a parent puts before the child at an index. The first child has none, nor has
a filler or spacer. The word `none` adds nothing. -/
def childSpacing (spacing : Option String) (axis : Layout) (index : Nat) (kind : String) :
    Option Tree.Margin :=
  if index = 0 ∨ kind = Kind.filler.word ∨ kind = Kind.spacer.word then none
  else
    match spacing with
    | none | some "none" => none
    | some value => (TokenTable.spacing.resolve? value).map (⟨axis.spacingSide, ·⟩)

end FlexLayout.Resolve
