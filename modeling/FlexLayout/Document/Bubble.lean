import FlexLayout.Document.Component

/-!
# Bubbles and carousels

A bubble holds up to four sections, each a component; a carousel holds bubbles in a row. Like the
attributes of components, the attributes of a bubble count as absent when they cannot be read.
-/

namespace FlexLayout.Document

/-- Background colours by section. -/
structure Styles where
  header : Option String := none
  hero : Option String := none
  body : Option String := none
  footer : Option String := none
  deriving DecidableEq, Repr

structure Bubble where
  size : Option BubbleSize := none
  direction : Option Direction := none
  header : Option Component := none
  hero : Option Component := none
  body : Option Component := none
  footer : Option Component := none
  styles : Styles := {}
  action : Option Action := none

/-- A place in a carousel. What is no bubble is kept by its kind only. -/
inductive Entry where
  | bubble (b : Bubble)
  | unknown (kind : String)

inductive Container where
  | bubble (b : Bubble)
  | carousel (entries : List Entry)

/-- What stands for a kind that is missing. -/
def missingKind : String := "<missing>"

namespace Styles

/-- The background colour in the style of one section. -/
def color? (v : Json) : Option String := do
  let r ← (← v.parts?).record? ["backgroundColor"]
  r.lenient "backgroundColor" Json.text?

def ofJson? (v : Json) : Option Styles := do
  let r ← (← v.parts?).record? ["header", "hero", "body", "footer"]
  some {
    header := r.lenient "header" color?
    hero := r.lenient "hero" color?
    body := r.lenient "body" color?
    footer := r.lenient "footer" color? }

end Styles

/-- The component in a section; none if the section is missing or `null`. -/
def sectionOf (fs : Fields) (name : String) : Option Component :=
  match fs.lookup name with
  | none | some .null => none
  | some v => some (.ofJson v)

def Bubble.ofFields (fs : Fields) : Bubble where
  size := wordOf fs "size"
  direction := wordOf fs "direction"
  header := sectionOf fs "header"
  hero := sectionOf fs "hero"
  body := sectionOf fs "body"
  footer := sectionOf fs "footer"
  styles := (lenient fs "styles" Styles.ofJson?).getD {}
  action := actionOf fs

end FlexLayout.Document
