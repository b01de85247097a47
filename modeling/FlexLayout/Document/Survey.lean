import FlexLayout.Document.Message

/-!
# Surveys

What a document holds before it is resolved: how deep its boxes nest, how many children they have,
and which kinds occur in them.
-/

namespace FlexLayout.Document

namespace Component

mutual

/-- How many boxes stand in one another. -/
def nesting : Component → Nat
  | box _ contents => nestingBelow contents + 1
  | _ => 0
termination_by structural c => c

def nestingBelow : List Component → Nat
  | [] => 0
  | c :: rest => max (nesting c) (nestingBelow rest)
termination_by structural cs => cs

end

mutual

/-- A component and all that its boxes hold, each box before its contents. -/
def members : Component → List Component
  | box b contents => box b contents :: membersBelow contents
  | c => [c]
termination_by structural c => c

def membersBelow : List Component → List Component
  | [] => []
  | c :: rest => members c ++ membersBelow rest
termination_by structural cs => cs

end

/-- The number of children, if the component is a box. -/
def width? : Component → Option Nat
  | box _ contents => some contents.length
  | _ => none

/-- The numbers of children of all boxes. -/
def widths (c : Component) : List Nat := c.members.filterMap width?

end Component

def Container.bubbles : Container → List Bubble
  | bubble b => [b]
  | carousel entries => entries.filterMap fun
    | .bubble b => some b
    | .unknown _ => none

end FlexLayout.Document
