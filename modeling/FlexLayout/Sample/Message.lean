import FlexLayout.Aspect
import FlexLayout.Length.Token
import FlexLayout.Sample.Dice
import FlexLayout.Style

/-!
# Sample messages

Random documents for trying out the resolver: one bubble, or a carousel of several. Boxes nest up
to a given depth and have up to a given number of children. Every object has its fields sorted by
name.
-/

namespace FlexLayout.Sample

open Draw

/-- The bounds on a sample. -/
structure Shape where
  /-- How many boxes stand in one another, at most. -/
  depth : Nat
  /-- How many children a box has, at most. -/
  width : Nat
  /-- Components of an unknown kind are mixed in. -/
  unknown : Bool
  deriving DecidableEq, Repr

def colors : List String := ["#111111", "#ffffff", "#06c755", "#ff334b", "#aaaaaa", "#1f6feb"]

def vocabulary : List String :=
  ["Shipping", "Tokyo", "Order", "Total", "Receipt", "Coffee", "Ticket", "Hotel", "Gate", "Seat"]

/-- The kind that no component has. -/
def unknownKind : String := "carouselItem"

/-! ## Values -/

/-- An object of the fields that are there. -/
def object (fs : List (String × Option Json)) : Json :=
  .object (fs.filterMap fun (name, v) => v.map (name, ·))

def text (s : String) : Option Json := some (.string s)

def pickText (options : List String) : Draw (Option Json) := text <$> pick options

def words (n : Nat) : Draw (Option Json) := do
  return text (String.intercalate " " (← many n (pick vocabulary)))

def number (low high : Nat) : Draw Json := Json.ofNat <$> between low high

/-! ## Components without boxes -/

def action : Draw Json := do
  let label ← words 1
  match ← below 3 with
  | 0 => return object [("label", label), ("type", text "uri"), ("uri", text "https://example.com")]
  | 1 => return object [("label", label), ("text", ← words 3), ("type", text "message")]
  | _ =>
    return object [("data", text "action=buy&id=1"), ("label", label), ("type", text "postback")]

def button : Draw Json := do
  return object [
    ("action", some (← action)),
    ("height", ← pickText ["sm", "md"]),
    ("style", ← pickText ["link", "primary", "secondary"]),
    ("type", text "button")]

def filler : Draw Json := return object [("type", text "filler")]

def icon : Draw Json := do
  return object [
    ("size", ← pickText sizeTokens),
    ("type", text "icon"),
    ("url", text "https://example.com/icon.png")]

def image : Draw Json := do
  return object [
    ("aspectMode", ← pickText ["cover", "fit"]),
    ("aspectRatio", ← pickText Aspect.named),
    ("size", ← pickText ["full", "md", "lg", "xl"]),
    ("type", text "image"),
    ("url", text "https://example.com/image.jpg")]

def separator : Draw Json := do
  return object [("margin", ← pickText spacingTokens), ("type", text "separator")]

def spacer : Draw Json := do
  return object [("size", ← pickText sizeTokens), ("type", text "spacer")]

def spans : Draw Json := do
  return .array [
    object [("text", ← words 1), ("type", text "span"), ("weight", text "bold")],
    object [("decoration", text "underline"), ("text", ← words 1), ("type", text "span")]]

def paragraph : Draw Json := do
  let maxLines ← maybe 30 (number 1 3)
  return object [
    ("color", ← pickText colors),
    ("contents", ← maybe 20 spans),
    ("flex", ← maybe 20 (number 0 4)),
    ("maxLines", maxLines),
    ("size", ← pickText sizeTokens),
    ("text", ← words (← between 1 5)),
    ("type", text "text"),
    ("wrap", maxLines.map fun _ => .bool true)]

def stray : Draw Json := do
  return object [("text", ← words 1), ("type", text unknownKind)]

/-! ## Boxes -/

def gradient : Draw Json := do
  return object [
    ("angle", text "90deg"),
    ("endColor", ← pickText colors),
    ("startColor", ← pickText colors),
    ("type", text "linearGradient")]

/-- A box of children that are drawn one after the other. -/
def box (s : Shape) (child : Draw Json) : Draw Json := do
  let contents ← many (← between 1 s.width) child
  let border ← maybe 20 do return (← pick colors, ← pick borderWidthTokens)
  return object [
    ("action", ← maybe 10 action),
    ("background", ← maybe 20 gradient),
    ("borderColor", border.map fun b => .string b.1),
    ("borderWidth", border.map fun b => .string b.2),
    ("contents", some (.array contents)),
    ("layout", ← pickText ["vertical", "horizontal", "baseline"]),
    ("paddingAll", (← maybe 30 (pickText spacingTokens)).join),
    ("spacing", (← maybe 60 (pickText spacingTokens)).join),
    ("type", text "box")]

/-- A component of any kind; the first of ten cases is given. -/
def mixed (s : Shape) (first : Draw Json) : Draw Json := do
  let strays ← if s.unknown then chance 5 else pure false
  if strays then stray
  else match ← below 10 with
    | 0 => first
    | 3 => button
    | 4 => filler
    | 5 => icon
    | 6 => image
    | 7 => separator
    | 8 => spacer
    | _ => paragraph

/-- A component with at most `room` boxes in one another. -/
def component (s : Shape) : (room : Nat) → Draw Json
  | 0 => mixed s paragraph
  | room + 1 => mixed s (box s (component s room))

/-! ## Messages -/

def footer : Draw Json := do
  return object [
    ("contents", some (.array [← button, ← button])),
    ("layout", text "vertical"),
    ("spacing", text "sm"),
    ("type", text "box")]

def styles : Draw Json := do
  return object [("body", some (object [("backgroundColor", ← pickText colors)]))]

/-- A bubble. The header starts one level further down than the body. -/
def bubble (s : Shape) : Draw Json := do
  return object [
    ("body", some (← box s (component s (s.depth - 1)))),
    ("footer", ← maybe 50 footer),
    ("header", ← maybe 50 (box s (component s (s.depth - 2)))),
    ("hero", ← maybe 50 image),
    ("size", ← pickText ((Keyword.all : List BubbleSize).map Keyword.word)),
    ("styles", ← maybe 30 styles),
    ("type", text "bubble")]

def contents (s : Shape) (bubbles : Nat) : Draw Json := do
  if bubbles = 1 then bubble s
  else return object [
    ("contents", some (.array (← many bubbles (bubble s)))),
    ("type", text "carousel")]

def message (s : Shape) (bubbles : Nat) : Draw Json := do
  return object [
    ("altText", ← words 2),
    ("contents", some (← contents s bubbles)),
    ("type", text "flex")]

end FlexLayout.Sample
