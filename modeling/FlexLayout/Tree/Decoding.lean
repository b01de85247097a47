import FlexLayout.Tree.Encoding
import FlexLayout.Json.Reading

/-!
# Reading trees back

The reader of written trees. It takes more than the writer makes: records as arrays, absent
options, further fields, and the second spellings of words and cases. A field written twice, or
anything else out of form, makes the whole tree unreadable.

Trees are read from the leaves up: every JSON value is annotated with the node, the child and the
list of children that it can stand for.
-/

namespace FlexLayout

/-- The same record without annotations. -/
def Record.json {α : Type} [Annotated α] (r : Record α) : Record Json :=
  r.map fun (name, slot) => (name, match slot with
    | .given a => .given (Annotated.json a)
    | .omitted => .omitted
    | .cut => .cut)

namespace Tree

/-- A word in a tree. -/
def word? {α : Type} [Keyword α] (v : Json) : Option α := Keyword.ofJson? .tree v

def action? (v : Json) : Option Action := Action.ofJson? .tree v

/-- The record that a plain value stands for. -/
def record? (names : List String) (v : Json) : Option (Record Json) := do
  (← v.parts?).record? names

/-- Reads every item of a list, or none. -/
def list? {α : Type} (read : Json → Option α) (v : Json) : Option (List α) := do
  (← v.items?).mapM read

def Margin.ofJson? (v : Json) : Option Margin := do
  let r ← record? ["side", "amount"] v
  some ⟨← r.required "side" word?, ← r.required "amount" Length.ofJson?⟩

def Geometry.ofJson? (v : Json) : Option Geometry := do
  let r ← record? ["flex", "margin", "position", "offsets"] v
  some {
    flex := ← r.required "flex" Growth.ofJson?
    margin := ← r.optional "margin" Margin.ofJson?
    position := ← r.optional "position" word?
    offsets := ← r.required "offsets" Edges.ofJson? }

def LineHeight.ofJson? : Json → Option LineHeight
  | .object [("Px", v)] => v.float?.map px
  | .object [("Multiplier", v)] => v.float?.map multiplier
  | _ => none

def Span.names : List String := ["text", "font_size", "color", "weight", "style", "decoration"]

def Span.ofRecord? (r : Record Json) : Option Span := do
  some {
    text := ← r.required "text" Json.text?
    fontSize := ← r.optional "font_size" Length.ofJson?
    color := ← r.optional "color" Json.text?
    weight := ← r.optional "weight" word?
    style := ← r.optional "style" word?
    decoration := ← r.optional "decoration" word? }

def Span.ofJson? (v : Json) : Option Span := do Span.ofRecord? (← record? Span.names v)

def Button.names : List String :=
  ["geometry", "label", "style", "height", "text_color", "background_color", "gravity",
   "adjust_mode", "external_link", "action"]

def Button.ofRecord? (r : Record Json) : Option Button := do
  some {
    geometry := ← r.required "geometry" Geometry.ofJson?
    label := ← r.required "label" Json.text?
    style := ← r.required "style" word?
    height := ← r.required "height" Length.ofJson?
    textColor := ← r.required "text_color" Json.text?
    backgroundColor := ← r.required "background_color" Json.text?
    gravity := ← r.optional "gravity" word?
    adjustMode := ← r.optional "adjust_mode" word?
    externalLink := ← r.required "external_link" Json.bool?
    action := ← r.optional "action" action? }

def Filler.names : List String := ["flex"]

def Filler.ofRecord? (r : Record Json) : Option Filler := do
  some ⟨← r.required "flex" Growth.ofJson?⟩

def Icon.names : List String := ["geometry", "url", "font_size", "width_em"]

def Icon.ofRecord? (r : Record Json) : Option Icon := do
  some {
    geometry := ← r.required "geometry" Geometry.ofJson?
    url := ← r.required "url" Json.text?
    fontSize := ← r.optional "font_size" Length.ofJson?
    widthEm := ← r.required "width_em" Json.float? }

def Image.names : List String :=
  ["geometry", "url", "width", "aspect_percent", "aspect_mode", "align", "gravity",
   "background_color", "action"]

def Image.ofRecord? (r : Record Json) : Option Image := do
  some {
    geometry := ← r.required "geometry" Geometry.ofJson?
    url := ← r.required "url" Json.text?
    width := ← r.required "width" Length.ofJson?
    aspectPercent := ← r.required "aspect_percent" Json.float?
    aspectMode := ← r.required "aspect_mode" word?
    align := ← r.required "align" word?
    gravity := ← r.optional "gravity" word?
    backgroundColor := ← r.optional "background_color" Json.text?
    action := ← r.optional "action" action? }

def Separator.names : List String := ["margin", "orientation", "thickness", "color"]

def Separator.ofRecord? (r : Record Json) : Option Separator := do
  some {
    margin := ← r.optional "margin" Margin.ofJson?
    orientation := ← r.required "orientation" word?
    thickness := ← r.required "thickness" Length.ofJson?
    color := ← r.required "color" Json.text? }

def Spacer.names : List String := ["height"]

def Spacer.ofRecord? (r : Record Json) : Option Spacer := do
  some ⟨← r.required "height" Length.ofJson?⟩

def Text.names : List String :=
  ["geometry", "lines", "spans", "font_size", "line_height", "wrap", "max_lines", "weight",
   "style", "decoration", "color", "align", "gravity", "action"]

def Text.ofRecord? (r : Record Json) : Option Text := do
  some {
    geometry := ← r.required "geometry" Geometry.ofJson?
    lines := ← r.required "lines" (list? Json.text?)
    spans := ← r.required "spans" (list? Span.ofJson?)
    fontSize := ← r.optional "font_size" Length.ofJson?
    lineHeight := ← r.required "line_height" LineHeight.ofJson?
    wrap := ← r.required "wrap" Json.bool?
    maxLines := ← r.optional "max_lines" fun v => (v.natBelow? UInt32.size).map Nat.toUInt32
    weight := ← r.optional "weight" word?
    style := ← r.optional "style" word?
    decoration := ← r.optional "decoration" word?
    color := ← r.optional "color" Json.text?
    align := ← r.optional "align" word?
    gravity := ← r.optional "gravity" word?
    action := ← r.optional "action" action? }

def Box.names : List String :=
  ["layout", "geometry", "padding", "children", "background_color", "background",
   "border_color", "border_width", "corner_radius", "width", "max_width", "height", "max_height",
   "justify_content", "align_items", "action"]

def Box.ofRecord? (r : Record Json) : Option Box := do
  some {
    layout := ← r.required "layout" word?
    geometry := ← r.required "geometry" Geometry.ofJson?
    padding := ← r.required "padding" Edges.ofJson?
    backgroundColor := ← r.optional "background_color" Json.text?
    background := ← r.optional "background" Json.text?
    borderColor := ← r.optional "border_color" Json.text?
    borderWidth := ← r.optional "border_width" Length.ofJson?
    cornerRadius := ← r.optional "corner_radius" Length.ofJson?
    width := ← r.optional "width" Length.ofJson?
    maxWidth := ← r.optional "max_width" Length.ofJson?
    height := ← r.optional "height" Length.ofJson?
    maxHeight := ← r.optional "max_height" Length.ofJson?
    justifyContent := ← r.optional "justify_content" word?
    alignItems := ← r.optional "align_items" word?
    action := ← r.optional "action" action? }

def Video.names : List String := ["url", "preview_url", "aspect_percent", "alt_content", "action"]

def Video.ofRecord? (r : Record Json) : Option Video := do
  some {
    url := ← r.required "url" Json.text?
    previewUrl := ← r.required "preview_url" Json.text?
    aspectPercent := ← r.required "aspect_percent" Json.float?
    action := ← r.optional "action" action? }

/-- A JSON value with what it can stand for inside a tree. -/
structure Reading where
  json : Json
  node : Option Node
  child : Option Child
  children : Option (List Child)

instance : Annotated Reading := ⟨Reading.json⟩

namespace Reading

/-- The node of a kind with the parts of its record. -/
def nodeOfKind? (parts : Parts Reading) : Kind → Option Node
  | .box => do
    let r ← parts.record? Box.names
    some (.box (← Box.ofRecord? r.json) (← r.required "children" children))
  | .button => return .button (← Button.ofRecord? (← parts.record? Button.names).json)
  | .filler => return .filler (← Filler.ofRecord? (← parts.record? Filler.names).json)
  | .icon => return .icon (← Icon.ofRecord? (← parts.record? Icon.names).json)
  | .image => return .image (← Image.ofRecord? (← parts.record? Image.names).json)
  | .separator =>
    return .separator (← Separator.ofRecord? (← parts.record? Separator.names).json)
  | .spacer => return .spacer (← Spacer.ofRecord? (← parts.record? Spacer.names).json)
  | .text => return .text (← Text.ofRecord? (← parts.record? Text.names).json)
  | .span => return .span (← Span.ofRecord? (← parts.record? Span.names).json)
  | .video => do
    let r ← parts.record? Video.names
    some (.video (← Video.ofRecord? r.json) (← r.optional "alt_content" node))

/-- The node of a case. -/
def nodeOf? (parts : Parts Reading) : Option Node := do
  let (tag, parts) ← parts.tagged?
  nodeOfKind? parts (← (Dialect.tree.case? Kind.words tag.json).bind Keyword.ofWord?)

def childOf? (parts : Parts Reading) : Option Child := do
  let r ← parts.record? ["spacing", "node"]
  some ⟨← r.json.optional "spacing" Margin.ofJson?, ← r.required "node" node⟩

def childrenOf? : Parts Reading → Option (List Child)
  | .items xs => xs.mapM child
  | .fields _ => none

def ofParts (v : Json) (parts : Parts Reading) : Reading :=
  ⟨v, nodeOf? parts, childOf? parts, childrenOf? parts⟩

mutual

/-- What a value can stand for. -/
def ofJson : Json → Reading
  | .array items => ofParts (.array items) (.items (ofItems items))
  | .object fs => ofParts (.object fs) (.fields (ofFields fs))
  | v => ⟨v, none, none, none⟩
termination_by structural v => v

def ofItems : List Json → List Reading
  | [] => []
  | v :: rest => ofJson v :: ofItems rest
termination_by structural items => items

def ofFields : List (String × Json) → List (String × Reading)
  | [] => []
  | (name, v) :: rest => (name, ofJson v) :: ofFields rest
termination_by structural fs => fs

end

end Reading

def Node.ofJson? (v : Json) : Option Node := (Reading.ofJson v).node

def Section.ofJson? (v : Json) : Option Section := do
  let r ← record? ["background_color", "flex", "content"] v
  some {
    backgroundColor := ← r.optional "background_color" Json.text?
    flex := ← r.required "flex" Growth.ofJson?
    content := ← r.required "content" Node.ofJson? }

def Bubble.names : List String :=
  ["size", "direction", "max_width", "corner_radius", "header", "hero", "body", "footer", "action"]

def Bubble.ofRecord? (r : Record Json) : Option Bubble := do
  some {
    size := ← r.required "size" word?
    direction := ← r.required "direction" word?
    maxWidth := ← r.required "max_width" Length.ofJson?
    cornerRadius := ← r.required "corner_radius" Length.ofJson?
    header := ← r.optional "header" Section.ofJson?
    hero := ← r.optional "hero" Section.ofJson?
    body := ← r.optional "body" Section.ofJson?
    footer := ← r.optional "footer" Section.ofJson?
    action := ← r.optional "action" action? }

def Bubble.ofJson? (v : Json) : Option Bubble := do Bubble.ofRecord? (← record? Bubble.names v)

def Carousel.names : List String :=
  ["bubbles", "gap", "inset_start", "inset_end", "bubble_width"]

def Carousel.ofRecord? (r : Record Json) : Option Carousel := do
  some {
    bubbles := ← r.required "bubbles" (list? Bubble.ofJson?)
    gap := ← r.required "gap" Length.ofJson?
    insetStart := ← r.required "inset_start" Length.ofJson?
    insetEnd := ← r.required "inset_end" Length.ofJson?
    bubbleWidth := ← r.required "bubble_width" Length.ofJson? }

/-- Reads a container. Its kind has to be a string. -/
def Container.ofJson? (v : Json) : Option Container := do
  let (tag, parts) ← (← v.parts?).tagged?
  match ← tag.text? with
  | "bubble" => return .bubble (← Bubble.ofRecord? (← parts.record? Bubble.names))
  | "carousel" => return .carousel (← Carousel.ofRecord? (← parts.record? Carousel.names))
  | _ => none

namespace Message

def names : List String := ["alt_text", "contents"]

def ofJson? (v : Json) : Option Message := do
  let r ← record? names v
  some ⟨← r.required "alt_text" Json.text?, ← r.required "contents" Container.ofJson?⟩

/-- Reads the text of a written tree. -/
def ofText? (s : String) : Option Message := (Json.readFields? names s).bind ofJson?

end Message

end Tree

end FlexLayout
