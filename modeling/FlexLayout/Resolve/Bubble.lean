import FlexLayout.Resolve.Component
import FlexLayout.Tree.Message

/-!
# Bubbles and carousels

Header, body and footer take a box only; the hero takes any known component. The size of a bubble
fixes its greatest width, its corners, and the padding of boxes at the top of a section that write
none.
-/

namespace FlexLayout.Resolve

open FlexLayout.Document (Component)
open FlexLayout.Tree (Node)

/-- The sections that take a box. -/
inductive BoxedSection where
  | header | body | footer
  deriving DecidableEq, Repr

instance : Keyword BoxedSection where
  all := [.header, .body, .footer]
  word
    | .header => "header"
    | .body => "body"
    | .footer => "footer"

def maxWidth : BubbleSize → Length
  | .nano => .px 120
  | .micro => .px 160
  | .deca => .px 220
  | .hecto => .px 241
  | .kilo => .px 260
  | .mega => .px 300
  | .giga => .px 500

def cornerRadius : BubbleSize → Length
  | .mega => .px 17
  | .giga => .px 5
  | .nano | .micro | .deca | .hecto | .kilo => .px 10

def basePadding : BubbleSize → Length
  | .mega | .giga => .px 20
  | .kilo => .px 13
  | .nano | .micro => .px 10
  | .deca | .hecto => .px 11

/-- The padding below a body that a footer follows. -/
def bodyBottom : BubbleSize → Length
  | .kilo | .hecto | .deca => .px 17
  | .nano | .micro | .mega | .giga => .px 10

/-- The padding above a body. -/
def bodyTop : BubbleSize → Length
  | .mega | .giga => .px 19
  | size => basePadding size

/-- The padding of a section whose box writes none. -/
def defaultPadding (size : BubbleSize) (s : BoxedSection) (hasFooter : Bool) : Edges :=
  match s with
  | .header => .uniform (basePadding size)
  | .footer => .uniform (.px 10)
  | .body =>
    { Edges.uniform (basePadding size) with
      top := some (bodyTop size)
      bottom := some (if hasFooter then bodyBottom size else basePadding size) }

/-- The growth of a section: bodies take the space that is left. -/
def BoxedSection.growth : BoxedSection → Growth
  | body => .weight 1
  | header | footer => .none

/-- Resolves a header, body or footer. -/
def boxedSection (p : Policy) (size : BubbleSize) (hasFooter : Bool) (s : BoxedSection)
    (color : Option String) (path : Path) : Option Component → Run (Option Tree.Section)
  | none => pure none
  | some (.box b contents) => do
    let inside := (Context.ofSection size path).inside (b.layout.getD .vertical) b.spacing
    let children ← children p inside 0 contents
    pure (some ⟨color, s.growth, .box (box b (some (defaultPadding size s hasFooter))) children⟩)
  | some other => do
    p.unknown other.kind path
    pure none

def hero (p : Policy) (size : BubbleSize) (color : Option String) (path : Path) :
    Option Component → Run (Option Tree.Section)
  | none => pure none
  | some c => do
    let node ← component p (Context.ofSection size path) c
    pure (node.map fun n => ⟨color, .none, n⟩)

/-- A bubble around its sections. -/
def bubbleWith (b : Document.Bubble) (header hero body footer : Option Tree.Section) :
    Tree.Bubble where
  size := b.size.getD .mega
  direction := b.direction.getD .ltr
  maxWidth := maxWidth (b.size.getD .mega)
  cornerRadius := cornerRadius (b.size.getD .mega)
  header := header
  hero := hero
  body := body
  footer := footer
  action := b.action

/-- Resolves a bubble section by section, from the top down. -/
def bubble (p : Policy) (b : Document.Bubble) (path : Path) : Run Tree.Bubble := do
  let size := b.size.getD .mega
  let hasFooter := b.footer.any Component.isBox
  Run.emit (.bubble size path)
  let header ← boxedSection p size hasFooter .header b.styles.header (path.field "header") b.header
  let hero ← hero p size b.styles.hero (path.field "hero") b.hero
  let body ← boxedSection p size hasFooter .body b.styles.body (path.field "body") b.body
  let footer ← boxedSection p size hasFooter .footer b.styles.footer (path.field "footer") b.footer
  pure (bubbleWith b header hero body footer)

/-- The path of a bubble that is the contents of a message. -/
def contentsPath : Path := [⟨"contents", none⟩]

/-- The path of an entry of a carousel, which starts at the carousel. -/
def entryPath (i : Nat) : Path := [⟨"contents", some i⟩]

/-- The bubbles of a carousel from an index on. -/
def entries (p : Policy) : Nat → List Document.Entry → Run (List Tree.Bubble)
  | _, [] => pure []
  | i, .bubble b :: rest => do
    let resolved ← bubble p b (entryPath i)
    let more ← entries p (i + 1) rest
    pure (resolved :: more)
  | i, .unknown kind :: rest => do
    p.unknown kind (entryPath i)
    entries p (i + 1) rest

/-- A row of bubbles, nine pixels apart and seven from either end. -/
def carousel (bubbles : List Tree.Bubble) : Tree.Carousel where
  bubbles
  gap := .px 9
  insetStart := .px 7
  insetEnd := .px 7
  bubbleWidth := .percent 80

def container (p : Policy) : Document.Container → Run Tree.Container
  | .bubble b => do
    let b ← bubble p b contentsPath
    pure (.bubble b)
  | .carousel es => do
    let bubbles ← entries p 0 es
    pure (.carousel (carousel bubbles))

end FlexLayout.Resolve
