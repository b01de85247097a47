import FlexLayout.Json.Basic

/-!
# Paths

A path leads from the top of a document down to a value in it, by names of fields and, below a
field that holds an array, by indices.
-/

namespace FlexLayout

/-- One step down: a field, or an item of a field. -/
structure Segment where
  name : String
  index : Option Nat := none
  deriving DecidableEq, Repr

def Segment.text (s : Segment) : String :=
  match s.index with
  | none => s.name
  | some i => s.name ++ "[" ++ toString i ++ "]"

abbrev Path := List Segment

namespace Path

def text (p : Path) : String := String.intercalate "." (p.map Segment.text)

/-- The path of an item of the field `contents`. -/
def item (p : Path) (i : Nat) : Path := p ++ [⟨"contents", some i⟩]

def field (p : Path) (name : String) : Path := p ++ [⟨name, none⟩]

end Path

namespace Json

def item? (v : Json) (i : Nat) : Option Json := v.items?.bind fun items => items[i]?

/-- Takes one step down. -/
def step? (v : Json) (s : Segment) : Option Json :=
  match s.index with
  | none => v.field? s.name
  | some i => (v.field? s.name).bind (·.item? i)

/-- The value that a path leads to. -/
def at? (v : Json) : Path → Option Json
  | [] => some v
  | s :: rest => (v.step? s).bind (·.at? rest)

theorem at?_append (v : Json) (p q : Path) : v.at? (p ++ q) = (v.at? p).bind (·.at? q) := by
  induction p generalizing v with
  | nil => rfl
  | cons s p ih => cases h : v.step? s <;> simp [at?, h, ih]

end Json

end FlexLayout
