import FlexLayout.Tree.Message
import FlexLayout.Json.Writing

/-!
# Written trees

A tree is written as JSON with its fields in a fixed order. Nodes and containers carry their kind
in front, under `type`. What is absent is `null`, except inside an action, where it is left out.
-/

namespace FlexLayout.Tree

def optionalString (s : Option String) : Json := .ofOption .string s

def optionalLength (l : Option Length) : Json := .ofOption Length.toJson l

def optionalWord {α : Type} [Keyword α] (a : Option α) : Json := .ofOption Keyword.toJson a

def optionalAction (a : Option Action) : Json := .ofOption Action.toJson a

def Margin.toJson (m : Margin) : Json :=
  .object [("side", Keyword.toJson m.side), ("amount", m.amount.toJson)]

def optionalMargin (m : Option Margin) : Json := .ofOption Margin.toJson m

def Geometry.toJson (g : Geometry) : Json :=
  .object [
    ("flex", g.flex.toJson),
    ("margin", optionalMargin g.margin),
    ("position", optionalWord g.position),
    ("offsets", g.offsets.toJson)]

def LineHeight.toJson : LineHeight → Json
  | px x => .object [("Px", .ofFloat x)]
  | multiplier x => .object [("Multiplier", .ofFloat x)]

def Span.fields (s : Span) : List (String × Json) := [
  ("text", .string s.text),
  ("font_size", optionalLength s.fontSize),
  ("color", optionalString s.color),
  ("weight", optionalWord s.weight),
  ("style", optionalWord s.style),
  ("decoration", optionalWord s.decoration)]

def Button.fields (b : Button) : List (String × Json) := [
  ("geometry", b.geometry.toJson),
  ("label", .string b.label),
  ("style", Keyword.toJson b.style),
  ("height", b.height.toJson),
  ("text_color", .string b.textColor),
  ("background_color", .string b.backgroundColor),
  ("gravity", optionalWord b.gravity),
  ("adjust_mode", optionalWord b.adjustMode),
  ("external_link", .bool b.externalLink),
  ("action", optionalAction b.action)]

def Filler.fields (f : Filler) : List (String × Json) := [("flex", f.flex.toJson)]

def Icon.fields (i : Icon) : List (String × Json) := [
  ("geometry", i.geometry.toJson),
  ("url", .string i.url),
  ("font_size", optionalLength i.fontSize),
  ("width_em", .ofFloat i.widthEm)]

def Image.fields (i : Image) : List (String × Json) := [
  ("geometry", i.geometry.toJson),
  ("url", .string i.url),
  ("width", i.width.toJson),
  ("aspect_percent", .ofFloat i.aspectPercent),
  ("aspect_mode", Keyword.toJson i.aspectMode),
  ("align", Keyword.toJson i.align),
  ("gravity", optionalWord i.gravity),
  ("background_color", optionalString i.backgroundColor),
  ("action", optionalAction i.action)]

def Separator.fields (s : Separator) : List (String × Json) := [
  ("margin", optionalMargin s.margin),
  ("orientation", Keyword.toJson s.orientation),
  ("thickness", s.thickness.toJson),
  ("color", .string s.color)]

def Spacer.fields (s : Spacer) : List (String × Json) := [("height", s.height.toJson)]

def Text.fields (t : Text) : List (String × Json) := [
  ("geometry", t.geometry.toJson),
  ("lines", .array (t.lines.map .string)),
  ("spans", .array (t.spans.map fun s => .object s.fields)),
  ("font_size", optionalLength t.fontSize),
  ("line_height", t.lineHeight.toJson),
  ("wrap", .bool t.wrap),
  ("max_lines", .ofOption (fun n : UInt32 => .ofNat n.toNat) t.maxLines),
  ("weight", optionalWord t.weight),
  ("style", optionalWord t.style),
  ("decoration", optionalWord t.decoration),
  ("color", optionalString t.color),
  ("align", optionalWord t.align),
  ("gravity", optionalWord t.gravity),
  ("action", optionalAction t.action)]

def Box.fields (b : Box) (children : Json) : List (String × Json) := [
  ("layout", Keyword.toJson b.layout),
  ("geometry", b.geometry.toJson),
  ("padding", b.padding.toJson),
  ("children", children),
  ("background_color", optionalString b.backgroundColor),
  ("background", optionalString b.background),
  ("border_color", optionalString b.borderColor),
  ("border_width", optionalLength b.borderWidth),
  ("corner_radius", optionalLength b.cornerRadius),
  ("width", optionalLength b.width),
  ("max_width", optionalLength b.maxWidth),
  ("height", optionalLength b.height),
  ("max_height", optionalLength b.maxHeight),
  ("justify_content", optionalWord b.justifyContent),
  ("align_items", optionalWord b.alignItems),
  ("action", optionalAction b.action)]

def Video.fields (v : Video) (alt : Json) : List (String × Json) := [
  ("url", .string v.url),
  ("preview_url", .string v.previewUrl),
  ("aspect_percent", .ofFloat v.aspectPercent),
  ("alt_content", alt),
  ("action", optionalAction v.action)]

/-- An object with its kind in front. -/
def tagged (kind : String) (fs : List (String × Json)) : Json :=
  .object (("type", .string kind) :: fs)

namespace Node

mutual

def toJson : Node → Json
  | box b children => tagged Kind.box.word (b.fields (.array (childrenToJson children)))
  | button b => tagged Kind.button.word b.fields
  | filler f => tagged Kind.filler.word f.fields
  | icon i => tagged Kind.icon.word i.fields
  | image i => tagged Kind.image.word i.fields
  | separator s => tagged Kind.separator.word s.fields
  | spacer s => tagged Kind.spacer.word s.fields
  | text t => tagged Kind.text.word t.fields
  | span s => tagged Kind.span.word s.fields
  | video v none => tagged Kind.video.word (v.fields .null)
  | video v (some alt) => tagged Kind.video.word (v.fields (toJson alt))
termination_by structural n => n

def childrenToJson : List (Spaced Node) → List Json
  | [] => []
  | ⟨m, n⟩ :: rest =>
    .object [("spacing", optionalMargin m), ("node", toJson n)] :: childrenToJson rest
termination_by structural children => children

end

end Node

def Section.toJson (s : Section) : Json :=
  .object [
    ("background_color", optionalString s.backgroundColor),
    ("flex", s.flex.toJson),
    ("content", s.content.toJson)]

def optionalSection (s : Option Section) : Json := .ofOption Section.toJson s

def Bubble.fields (b : Bubble) : List (String × Json) := [
  ("size", Keyword.toJson b.size),
  ("direction", Keyword.toJson b.direction),
  ("max_width", b.maxWidth.toJson),
  ("corner_radius", b.cornerRadius.toJson),
  ("header", optionalSection b.header),
  ("hero", optionalSection b.hero),
  ("body", optionalSection b.body),
  ("footer", optionalSection b.footer),
  ("action", optionalAction b.action)]

def Carousel.fields (c : Carousel) : List (String × Json) := [
  ("bubbles", .array (c.bubbles.map fun b => .object b.fields)),
  ("gap", c.gap.toJson),
  ("inset_start", c.insetStart.toJson),
  ("inset_end", c.insetEnd.toJson),
  ("bubble_width", c.bubbleWidth.toJson)]

def Container.toJson : Container → Json
  | bubble b => tagged "bubble" b.fields
  | carousel c => tagged "carousel" c.fields

namespace Message

def toJson (m : Message) : Json :=
  .object [("alt_text", .string m.altText), ("contents", m.contents.toJson)]

/-- The text of a written tree. -/
def text (m : Message) : String := m.toJson.pretty

end Message

end FlexLayout.Tree
