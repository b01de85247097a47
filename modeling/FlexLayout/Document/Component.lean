import FlexLayout.Action
import FlexLayout.Background
import FlexLayout.Edges
import FlexLayout.Kind
import FlexLayout.Style

/-!
# Components of a document

A component is read from any JSON value. Its kind is the string under `type`; every other
attribute counts as absent when it is missing or has the wrong shape, so nothing inside a
component can make the reading fail. The components below it are read the same way, one for each
item, from the leaves up.
-/

namespace FlexLayout.Document

/-- The position of a component, and its offsets. -/
structure Placement where
  position : Option Position := none
  offsets : EdgeAttributes := {}
  deriving DecidableEq, Repr

structure Box where
  layout : Option Layout := none
  flex : Option Float := none
  spacing : Option String := none
  margin : Option String := none
  padding : PaddingAttributes := {}
  placement : Placement := {}
  backgroundColor : Option String := none
  borderColor : Option String := none
  borderWidth : Option String := none
  cornerRadius : Option String := none
  width : Option String := none
  maxWidth : Option String := none
  height : Option String := none
  maxHeight : Option String := none
  justifyContent : Option JustifyContent := none
  alignItems : Option AlignItems := none
  background : Option Background := none
  action : Option Action := none
  deriving DecidableEq, Repr

structure Button where
  action : Option Action := none
  flex : Option Float := none
  margin : Option String := none
  placement : Placement := {}
  height : Option ButtonHeight := none
  style : Option ButtonStyle := none
  color : Option String := none
  gravity : Option Gravity := none
  adjustMode : Option AdjustMode := none
  deriving DecidableEq, Repr

structure Filler where
  flex : Option Float := none
  deriving DecidableEq, Repr

structure Icon where
  url : String := ""
  size : Option String := none
  aspectRatio : Option String := none
  margin : Option String := none
  placement : Placement := {}
  deriving DecidableEq, Repr

structure Image where
  url : String := ""
  flex : Option Float := none
  margin : Option String := none
  placement : Placement := {}
  align : Option Align := none
  gravity : Option Gravity := none
  size : Option String := none
  aspectRatio : Option String := none
  aspectMode : Option AspectMode := none
  backgroundColor : Option String := none
  action : Option Action := none
  deriving DecidableEq, Repr

/-- Separators neither grow nor take a position or an action. -/
structure Separator where
  margin : Option String := none
  color : Option String := none
  deriving DecidableEq, Repr

structure Spacer where
  size : Option String := none
  deriving DecidableEq, Repr

structure Text where
  text : String := ""
  flex : Option Float := none
  margin : Option String := none
  placement : Placement := {}
  size : Option String := none
  align : Option Align := none
  gravity : Option Gravity := none
  wrap : Option Bool := none
  maxLines : Option UInt32 := none
  weight : Option Weight := none
  color : Option String := none
  style : Option FontStyle := none
  decoration : Option Decoration := none
  lineSpacing : Option String := none
  action : Option Action := none
  deriving DecidableEq, Repr

structure Span where
  text : String := ""
  size : Option String := none
  color : Option String := none
  weight : Option Weight := none
  style : Option FontStyle := none
  decoration : Option Decoration := none
  deriving DecidableEq, Repr

structure Video where
  url : String := ""
  previewUrl : String := ""
  aspectRatio : Option String := none
  action : Option Action := none
  deriving DecidableEq, Repr

/-- A component with the components below it. One of another kind is kept by its kind only. -/
inductive Component where
  | box (b : Box) (contents : List Component)
  | button (b : Button)
  | filler (f : Filler)
  | icon (i : Icon)
  | image (i : Image)
  | separator (s : Separator)
  | spacer (s : Spacer)
  | text (t : Text) (contents : List Component)
  | span (s : Span)
  | video (v : Video) (alt : Option Component)
  | unknown (kind : String)

/-- The fields that an object was written with. -/
abbrev Fields := List (String × Json)

/-- An attribute; absent if it is missing or cannot be read. -/
def lenient {α : Type} (fs : Fields) (name : String) (read : Json → Option α) : Option α :=
  (fs.lookup name).bind read

def stringOf (fs : Fields) (name : String) : Option String := lenient fs name Json.text?

def numberOf (fs : Fields) (name : String) : Option Float := lenient fs name Json.float?

def wordOf {α : Type} [Keyword α] (fs : Fields) (name : String) : Option α :=
  lenient fs name (Keyword.ofJson? .document)

def actionOf (fs : Fields) : Option Action := lenient fs "action" (Action.ofJson? .document)

def Placement.ofFields (fs : Fields) : Placement where
  position := wordOf fs "position"
  offsets := {
    top := stringOf fs "offsetTop"
    bottom := stringOf fs "offsetBottom"
    start := stringOf fs "offsetStart"
    «end» := stringOf fs "offsetEnd" }

def Box.ofFields (fs : Fields) : Box where
  layout := wordOf fs "layout"
  flex := numberOf fs "flex"
  spacing := stringOf fs "spacing"
  margin := stringOf fs "margin"
  padding := {
    all := stringOf fs "paddingAll"
    top := stringOf fs "paddingTop"
    bottom := stringOf fs "paddingBottom"
    start := stringOf fs "paddingStart"
    «end» := stringOf fs "paddingEnd" }
  placement := .ofFields fs
  backgroundColor := stringOf fs "backgroundColor"
  borderColor := stringOf fs "borderColor"
  borderWidth := stringOf fs "borderWidth"
  cornerRadius := stringOf fs "cornerRadius"
  width := stringOf fs "width"
  maxWidth := stringOf fs "maxWidth"
  height := stringOf fs "height"
  maxHeight := stringOf fs "maxHeight"
  justifyContent := wordOf fs "justifyContent"
  alignItems := wordOf fs "alignItems"
  background := lenient fs "background" Background.ofJson?
  action := actionOf fs

def Button.ofFields (fs : Fields) : Button where
  action := actionOf fs
  flex := numberOf fs "flex"
  margin := stringOf fs "margin"
  placement := .ofFields fs
  height := wordOf fs "height"
  style := wordOf fs "style"
  color := stringOf fs "color"
  gravity := wordOf fs "gravity"
  adjustMode := wordOf fs "adjustMode"

def Filler.ofFields (fs : Fields) : Filler where
  flex := numberOf fs "flex"

def Icon.ofFields (fs : Fields) : Icon where
  url := (stringOf fs "url").getD ""
  size := stringOf fs "size"
  aspectRatio := stringOf fs "aspectRatio"
  margin := stringOf fs "margin"
  placement := .ofFields fs

def Image.ofFields (fs : Fields) : Image where
  url := (stringOf fs "url").getD ""
  flex := numberOf fs "flex"
  margin := stringOf fs "margin"
  placement := .ofFields fs
  align := wordOf fs "align"
  gravity := wordOf fs "gravity"
  size := stringOf fs "size"
  aspectRatio := stringOf fs "aspectRatio"
  aspectMode := wordOf fs "aspectMode"
  backgroundColor := stringOf fs "backgroundColor"
  action := actionOf fs

def Separator.ofFields (fs : Fields) : Separator where
  margin := stringOf fs "margin"
  color := stringOf fs "color"

def Spacer.ofFields (fs : Fields) : Spacer where
  size := stringOf fs "size"

def Text.ofFields (fs : Fields) : Text where
  text := (stringOf fs "text").getD ""
  flex := numberOf fs "flex"
  margin := stringOf fs "margin"
  placement := .ofFields fs
  size := stringOf fs "size"
  align := wordOf fs "align"
  gravity := wordOf fs "gravity"
  wrap := lenient fs "wrap" Json.bool?
  maxLines := lenient fs "maxLines" fun v => (v.natBelow? UInt32.size).map Nat.toUInt32
  weight := wordOf fs "weight"
  color := stringOf fs "color"
  style := wordOf fs "style"
  decoration := wordOf fs "decoration"
  lineSpacing := stringOf fs "lineSpacing"
  action := actionOf fs

def Span.ofFields (fs : Fields) : Span where
  text := (stringOf fs "text").getD ""
  size := stringOf fs "size"
  color := stringOf fs "color"
  weight := wordOf fs "weight"
  style := wordOf fs "style"
  decoration := wordOf fs "decoration"

def Video.ofFields (fs : Fields) : Video where
  url := (stringOf fs "url").getD ""
  previewUrl := (stringOf fs "previewUrl").getD ""
  aspectRatio := stringOf fs "aspectRatio"
  action := actionOf fs

namespace Component

/-- The component of an object, given the components in its `contents` and its `altContent`. -/
def ofFields (fs : Fields) (contents : List Component) (alt : Option Component) : Component :=
  let kind := (stringOf fs "type").getD ""
  match Keyword.ofWord? kind with
  | some Kind.box => box (.ofFields fs) contents
  | some Kind.button => button (.ofFields fs)
  | some Kind.filler => filler (.ofFields fs)
  | some Kind.icon => icon (.ofFields fs)
  | some Kind.image => image (.ofFields fs)
  | some Kind.separator => separator (.ofFields fs)
  | some Kind.spacer => spacer (.ofFields fs)
  | some Kind.text => text (.ofFields fs) contents
  | some Kind.span => span (.ofFields fs)
  | some Kind.video => video (.ofFields fs) alt
  | none => unknown kind

mutual

/-- Reads a component. What is not an object has the empty kind. -/
def ofJson : Json → Component
  | .object fs => ofFields fs (contentsOf fs) (altOf fs)
  | _ => unknown ""
termination_by structural v => v

/-- The components in the first field `contents`, if it holds an array. -/
def contentsOf : List (String × Json) → List Component
  | [] => []
  | (name, v) :: rest =>
    if name = "contents" then
      match v with
      | .array items => ofItems items
      | _ => []
    else contentsOf rest
termination_by structural fs => fs

/-- The component in the first field `altContent`, unless it is `null`. -/
def altOf : List (String × Json) → Option Component
  | [] => none
  | (name, v) :: rest =>
    if name = "altContent" then
      match v with
      | .null => none
      | v => some (ofJson v)
    else altOf rest
termination_by structural fs => fs

def ofItems : List Json → List Component
  | [] => []
  | v :: rest => ofJson v :: ofItems rest
termination_by structural items => items

end

/-- The kind as it was written; empty if it was none. -/
def kind : Component → String
  | box .. => Kind.box.word
  | button .. => Kind.button.word
  | filler .. => Kind.filler.word
  | icon .. => Kind.icon.word
  | image .. => Kind.image.word
  | separator .. => Kind.separator.word
  | spacer .. => Kind.spacer.word
  | text .. => Kind.text.word
  | span .. => Kind.span.word
  | video .. => Kind.video.word
  | unknown kind => kind

def isBox : Component → Bool
  | box .. => true
  | _ => false

theorem ofItems_eq_map (items : List Json) : ofItems items = items.map ofJson := by
  induction items with
  | nil => rfl
  | cons v rest ih => simp [ofItems, ih]

end Component

end FlexLayout.Document
