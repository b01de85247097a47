import FlexLayout.Length.Token

/-!
# Offsets and paddings

Lengths on the four edges of a component. What an author writes on an edge resolves to zero if
it is no length.
-/

namespace FlexLayout

structure Edges where
  top : Option Length := none
  bottom : Option Length := none
  start : Option Length := none
  «end» : Option Length := none
  deriving DecidableEq, Repr

/-- Attributes written for the four edges. -/
structure EdgeAttributes where
  top : Option String := none
  bottom : Option String := none
  start : Option String := none
  «end» : Option String := none
  deriving DecidableEq, Repr

/-- Padding attributes: one for all edges, and one for each. -/
structure PaddingAttributes extends EdgeAttributes where
  all : Option String := none
  deriving DecidableEq, Repr

namespace Edges

def uniform (l : Length) : Edges := ⟨some l, some l, some l, some l⟩

def isEmpty (e : Edges) : Bool :=
  e.top.isNone && e.bottom.isNone && e.start.isNone && e.end.isNone

/-- The offsets of a component. Each edge stands for itself. -/
def offsets (a : EdgeAttributes) : Edges :=
  let edge := Option.map fun value => TokenTable.offset.resolveD value (.px 0)
  ⟨edge a.top, edge a.bottom, edge a.start, edge a.end⟩

/-- The padding of a box. An edge of its own goes before the attribute for all edges. -/
def padding (a : PaddingAttributes) : Edges :=
  let edge (own : Option String) :=
    (own <|> a.all).map fun value => TokenTable.padding.resolveD value (.px 0)
  ⟨edge a.top, edge a.bottom, edge a.start, edge a.end⟩

def toJson (e : Edges) : Json :=
  .object [
    ("top", .ofOption Length.toJson e.top),
    ("bottom", .ofOption Length.toJson e.bottom),
    ("start", .ofOption Length.toJson e.start),
    ("end", .ofOption Length.toJson e.end)]

def ofJson? (v : Json) : Option Edges := do
  let r ← (← v.parts?).record? ["top", "bottom", "start", "end"]
  some {
    top := ← r.optional "top" Length.ofJson?
    bottom := ← r.optional "bottom" Length.ofJson?
    start := ← r.optional "start" Length.ofJson?
    «end» := ← r.optional "end" Length.ofJson? }

end Edges

/-- Whether no padding attribute is written. -/
def PaddingAttributes.isUnset (a : PaddingAttributes) : Bool :=
  a.all.isNone && a.top.isNone && a.bottom.isNone && a.start.isNone && a.end.isNone

end FlexLayout
