/-!
# Outlines

A tree of labels drawn with one line for each label. Below the top label every line starts with
one group of four characters for each ancestor, which carries the line of that ancestor on unless
it was the last of its siblings, and with a marker that tells whether the label itself is the
last.
-/

namespace FlexLayout

inductive Outline where
  | node (label : String) (parts : List Outline)

namespace Outline

/-- A line below the top: for each ancestor below the top, and for the label itself, whether it
is the last of its siblings. -/
structure Row where
  ancestors : List Bool
  last : Bool
  label : String
  deriving DecidableEq, Repr

def guide (last : Bool) : String := if last then "    " else "│   "

def marker (last : Bool) : String := if last then "└── " else "├── "

def Row.text (r : Row) : String :=
  String.join (r.ancestors.map guide) ++ marker r.last ++ r.label

mutual

/-- The rows of an outline under the given ancestors, each label before those below it. -/
def rows (ancestors : List Bool) (last : Bool) : Outline → List Row
  | node label parts => ⟨ancestors, last, label⟩ :: rowsBelow (ancestors ++ [last]) parts

def rowsBelow (ancestors : List Bool) : List Outline → List Row
  | [] => []
  | [o] => rows ancestors true o
  | o :: rest => rows ancestors false o ++ rowsBelow ancestors rest

end

def label : Outline → String
  | node label _ => label

def parts : Outline → List Outline
  | node _ parts => parts

/-- Every line of the drawing, the top label first. -/
def lines (o : Outline) : List String := o.label :: (rowsBelow [] o.parts).map Row.text

/-- The drawing, with a line feed after every line. -/
def draw (o : Outline) : String := String.join (o.lines.map (· ++ "\n"))

end Outline

end FlexLayout
