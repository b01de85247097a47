import FlexLayout.Json.Record

/-!
# The vocabulary of the format

The closed sets of words that attributes are written in. A word is matched letter by letter, so
capitals count.
-/

namespace FlexLayout

/-- The main axis of a box. -/
inductive Layout where
  | horizontal | vertical | baseline
  deriving DecidableEq, Repr

inductive BubbleSize where
  | nano | micro | deca | hecto | kilo | mega | giga
  deriving DecidableEq, Repr

inductive Direction where
  | ltr | rtl
  deriving DecidableEq, Repr

inductive Position where
  | relative | absolute
  deriving DecidableEq, Repr

inductive Align where
  | start | «end» | center
  deriving DecidableEq, Repr

inductive Gravity where
  | top | bottom | center
  deriving DecidableEq, Repr

inductive Weight where
  | regular | bold
  deriving DecidableEq, Repr

inductive FontStyle where
  | normal | italic
  deriving DecidableEq, Repr

inductive Decoration where
  | none | underline | lineThrough
  deriving DecidableEq, Repr

inductive AspectMode where
  | cover | fit
  deriving DecidableEq, Repr

inductive ButtonStyle where
  | link | primary | secondary
  deriving DecidableEq, Repr

inductive ButtonHeight where
  | sm | md
  deriving DecidableEq, Repr

inductive JustifyContent where
  | flexStart | flexEnd | center | spaceBetween | spaceAround | spaceEvenly
  deriving DecidableEq, Repr

inductive AlignItems where
  | flexStart | flexEnd | center | baseline | stretch
  deriving DecidableEq, Repr

inductive AdjustMode where
  | shrinkToFit
  deriving DecidableEq, Repr

/-- The side that a margin is applied to. -/
inductive Side where
  | top | left
  deriving DecidableEq, Repr

/-- Which way the rule of a separator runs. -/
inductive Orientation where
  | horizontal | vertical
  deriving DecidableEq, Repr

instance : Keyword Layout where
  all := [.horizontal, .vertical, .baseline]
  word
    | .horizontal => "horizontal"
    | .vertical => "vertical"
    | .baseline => "baseline"

instance : Keyword BubbleSize where
  all := [.nano, .micro, .deca, .hecto, .kilo, .mega, .giga]
  word
    | .nano => "nano"
    | .micro => "micro"
    | .deca => "deca"
    | .hecto => "hecto"
    | .kilo => "kilo"
    | .mega => "mega"
    | .giga => "giga"

instance : Keyword Direction where
  all := [.ltr, .rtl]
  word
    | .ltr => "ltr"
    | .rtl => "rtl"

instance : Keyword Position where
  all := [.relative, .absolute]
  word
    | .relative => "relative"
    | .absolute => "absolute"

instance : Keyword Align where
  all := [.start, .end, .center]
  word
    | .start => "start"
    | .end => "end"
    | .center => "center"

instance : Keyword Gravity where
  all := [.top, .bottom, .center]
  word
    | .top => "top"
    | .bottom => "bottom"
    | .center => "center"

instance : Keyword Weight where
  all := [.regular, .bold]
  word
    | .regular => "regular"
    | .bold => "bold"

instance : Keyword FontStyle where
  all := [.normal, .italic]
  word
    | .normal => "normal"
    | .italic => "italic"

instance : Keyword Decoration where
  all := [.none, .underline, .lineThrough]
  word
    | .none => "none"
    | .underline => "underline"
    | .lineThrough => "line-through"

instance : Keyword AspectMode where
  all := [.cover, .fit]
  word
    | .cover => "cover"
    | .fit => "fit"

instance : Keyword ButtonStyle where
  all := [.link, .primary, .secondary]
  word
    | .link => "link"
    | .primary => "primary"
    | .secondary => "secondary"

instance : Keyword ButtonHeight where
  all := [.sm, .md]
  word
    | .sm => "sm"
    | .md => "md"

instance : Keyword JustifyContent where
  all := [.flexStart, .flexEnd, .center, .spaceBetween, .spaceAround, .spaceEvenly]
  word
    | .flexStart => "flex-start"
    | .flexEnd => "flex-end"
    | .center => "center"
    | .spaceBetween => "space-between"
    | .spaceAround => "space-around"
    | .spaceEvenly => "space-evenly"

instance : Keyword AlignItems where
  all := [.flexStart, .flexEnd, .center, .baseline, .stretch]
  word
    | .flexStart => "flex-start"
    | .flexEnd => "flex-end"
    | .center => "center"
    | .baseline => "baseline"
    | .stretch => "stretch"

instance : Keyword AdjustMode where
  all := [.shrinkToFit]
  word
    | .shrinkToFit => "shrink-to-fit"

instance : Keyword Side where
  all := [.top, .left]
  word
    | .top => "top"
    | .left => "left"

instance : Keyword Orientation where
  all := [.horizontal, .vertical]
  word
    | .horizontal => "horizontal"
    | .vertical => "vertical"

/-- The side on which children of a box are set apart from each other. -/
def Layout.spacingSide : Layout → Side
  | .vertical => .top
  | .horizontal | .baseline => .left

/-- Rules cross the main axis. -/
def Layout.ruleOrientation : Layout → Orientation
  | .vertical => .horizontal
  | .horizontal | .baseline => .vertical

end FlexLayout
