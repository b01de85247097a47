import FlexLayout.Aspect
import FlexLayout.Resolve.Context
import FlexLayout.Resolve.Run
import FlexLayout.Text.Blank
import FlexLayout.Text.Slice

/-!
# Components by themselves

What each kind of component resolves to, its children apart.
-/

namespace FlexLayout.Resolve

/-- Geometry from the attributes that most components share. Growth is equal unless it is
written. -/
def geometry (flex : Option Float) (marginValue : Option String) (side : Side)
    (p : Document.Placement) : Tree.Geometry where
  flex := (Growth.ofFlex flex).orEqual
  margin := margin marginValue side
  position := p.position
  offsets := .offsets p.offsets

/-! ## Boxes -/

/-- The padding of a box: what is written, or else the default of its place, if it has one. -/
def boxPadding (written : PaddingAttributes) (default : Option Edges) : Edges :=
  match default with
  | some d => if written.isUnset then d else .padding written
  | none => .padding written

/-- A box without its children. The greatest width is the width unless it is written. -/
def box (b : Document.Box) (defaultPadding : Option Edges) : Tree.Box where
  layout := b.layout.getD .vertical
  geometry := geometry b.flex b.margin .top b.placement
  padding := boxPadding b.padding defaultPadding
  backgroundColor := b.backgroundColor
  background := b.background.map Background.gradient
  borderColor := b.borderColor
  borderWidth := b.borderWidth.bind TokenTable.borderWidth.resolve?
  cornerRadius := b.cornerRadius.bind TokenTable.cornerRadius.resolve?
  width := b.width.map .literal
  maxWidth := (b.maxWidth <|> b.width).map .literal
  height := b.height.map .literal
  maxHeight := b.maxHeight.map .literal
  justifyContent := b.justifyContent
  alignItems := b.alignItems
  action := b.action

/-! ## Buttons -/

/-- The label of a button whose action has none. -/
def defaultLabel : String := "Button"

/-- The colours of text and fill. -/
def palette : ButtonStyle → String × String
  | .link => ("#42659a", "transparent")
  | .primary => ("#ffffff", "#17c950")
  | .secondary => ("#111111", "#dcdfe5")

/-- A written colour tints the text of a link and the fill of the other styles. -/
def tint (style : ButtonStyle) (color : Option String) : String × String :=
  match style, color with
  | _, none => palette style
  | .link, some c => (c, (palette style).2)
  | .primary, some c | .secondary, some c => ((palette style).1, c)

def buttonHeight : ButtonHeight → Length
  | .sm => .px 40
  | .md => .px 52

def buttonLabel (action : Option Action) : String :=
  match action.bind Action.label with
  | none | some "" => defaultLabel
  | some label => label

def isExternal : Option Action → Bool
  | some (.uri ..) => true
  | _ => false

def button (b : Document.Button) : Tree.Button :=
  let style := b.style.getD .link
  let (textColor, backgroundColor) := tint style b.color
  { geometry := geometry b.flex b.margin .top b.placement
    label := buttonLabel b.action
    style, textColor, backgroundColor
    height := buttonHeight (b.height.getD .md)
    gravity := b.gravity
    adjustMode := b.adjustMode
    externalLink := isExternal b.action
    action := b.action }

/-! ## Pictures -/

/-- An icon, which never grows. -/
def icon (i : Document.Icon) : Tree.Icon where
  geometry := { geometry none i.margin .top i.placement with flex := .none }
  url := i.url
  fontSize := TokenTable.fontSize.resolve? (i.size.getD "md")
  widthEm := Aspect.widthFactor i.aspectRatio

def image (i : Document.Image) : Tree.Image where
  geometry := geometry i.flex i.margin .top i.placement
  url := i.url
  width := TokenTable.imageSize.resolveD (i.size.getD "md") (.px 100)
  aspectPercent := Aspect.percent i.aspectRatio
  aspectMode := i.aspectMode.getD .fit
  align := i.align.getD .center
  gravity := i.gravity
  backgroundColor := i.backgroundColor
  action := i.action

/-- The ratio of a video that writes none. -/
def defaultVideoAspect : String := "16:9"

/-- A video without its alternative content. -/
def video (v : Document.Video) : Tree.Video where
  url := v.url
  previewUrl := v.previewUrl
  aspectPercent := Aspect.percent (some (v.aspectRatio.getD defaultVideoAspect))
  action := v.action

/-! ## Space -/

def filler (f : Document.Filler) : Tree.Filler := ⟨(Growth.ofFlex f.flex).orEqual⟩

def separatorColor : String := "#d4d6da"

/-- A rule across the axis of the parent. -/
def separator (s : Document.Separator) (axis : Layout) : Tree.Separator where
  margin := margin s.margin axis.spacingSide
  orientation := axis.ruleOrientation
  thickness := .px 1
  color := s.color.getD separatorColor

def spacer (s : Document.Spacer) : Tree.Spacer :=
  ⟨TokenTable.spacerSize.resolveD (s.size.getD "md") (.px 8)⟩

/-! ## Texts -/

def span (s : Document.Span) : Tree.Span where
  text := s.text
  fontSize := s.size.bind TokenTable.fontSize.resolve?
  color := s.color
  weight := s.weight
  style := s.style
  decoration := s.decoration

/-- The line height of a text that writes none, as a multiple of the font size. -/
def defaultLineHeight : Float := 1.4

/-- What is added to a line spacing to give the line height. -/
def lineSpacingBase : Float := 15

/-- Reads a text up to the end of its digits, which are looked for from an offset on. There is no
answer at all if the text would be cut inside a character. -/
def scanFrom? (cs : List Char) (start : Nat) : Option (Option Float) := do
  let (_, rest) ← Text.cut? cs start
  let stop := ((Text.offset? (!·.isDigit) rest).map (· + start)).getD (Text.size cs)
  if stop = start then some none
  else
    let (numeral, _) ← Text.cut? cs stop
    some (Decimal.read? (String.ofList numeral))

/-- Reads a sign and the digits behind it. -/
def scanInteger? (cs : List Char) : Option (Option Float) :=
  scanFrom? cs (if cs.head?.any (['-', '+'].contains ·) then 1 else 0)

theorem scanFrom?_append (sign rest : List Char) :
    scanFrom? (sign ++ rest) (Text.size sign) =
      some (if rest.takeWhile Char.isDigit = [] then none
        else Decimal.read? (String.ofList (sign ++ rest.takeWhile Char.isDigit))) := by
  obtain ⟨digits, hdigits⟩ : ∃ digits, digits = rest.takeWhile Char.isDigit := ⟨_, rfl⟩
  have hend : (Text.offset? (!·.isDigit) rest).getD (Text.size rest) = Text.size digits := by
    rw [Text.offset?_eq, hdigits]
    simp only [Bool.not_not]
  have hstop : ((Text.offset? (!·.isDigit) rest).map (· + Text.size sign)).getD
      (Text.size (sign ++ rest)) = Text.size (sign ++ digits) := by
    rw [Text.size_append, Text.size_append, ← hend]
    cases Text.offset? (!·.isDigit) rest with
    | none => rfl
    | some n => exact Nat.add_comm n _
  have hsame : Text.size (sign ++ digits) = Text.size sign ↔ digits = [] := by
    rw [Text.size_append, Nat.add_eq_left, Text.size_eq_zero]
  have hsplit : sign ++ rest = (sign ++ digits) ++ rest.dropWhile Char.isDigit := by
    rw [hdigits, List.append_assoc, List.takeWhile_append_dropWhile]
  unfold scanFrom?
  simp only [Text.cut?_append, Option.bind_eq_bind, Option.bind_some, hstop, hsame, ← hdigits]
  by_cases hnil : digits = []
  · rw [if_pos hnil, if_pos hnil]
  · rw [if_neg hnil, if_neg hnil, hsplit, Text.cut?_append]
    rfl

/-- The sign at the start of a text, if there is one. -/
def signOf : List Char → List Char
  | [] => []
  | c :: _ => if ['-', '+'].contains c then [c] else []

/-- A scan never cuts a text inside a character: it reads the sign and the run of digits. -/
theorem scanInteger?_eq {cs digits : List Char}
    (h : (cs.drop (signOf cs).length).takeWhile Char.isDigit = digits) :
    scanInteger? cs =
      some (if digits = [] then none else Decimal.read? (String.ofList (signOf cs ++ digits))) := by
  subst h
  cases cs with
  | nil => exact scanFrom?_append [] []
  | cons c cs =>
    by_cases hc : ['-', '+'].contains c = true
    · have hsize : Text.size [c] = 1 := by
        have hmem := List.contains_iff_mem.mp hc
        simp only [List.mem_cons, List.not_mem_nil, or_false] at hmem
        obtain rfl | rfl := hmem <;> rfl
      have hscan : scanInteger? (c :: cs) = scanFrom? ([c] ++ cs) (Text.size [c]) := by
        rw [hsize, scanInteger?, List.head?_cons, Option.any_some, if_pos hc]
        rfl
      rw [hscan, scanFrom?_append, signOf, if_pos hc]
      rfl
    · have hscan : scanInteger? (c :: cs) = scanFrom? ([] ++ c :: cs) (Text.size []) := by
        rw [scanInteger?, List.head?_cons, Option.any_some, if_neg hc]
        rfl
      rw [hscan, scanFrom?_append, signOf, if_neg hc]
      rfl

theorem isSome_scanInteger? (cs : List Char) : (scanInteger? cs).isSome = true := by
  rw [scanInteger?_eq rfl]
  rfl

/-- The integer at the start of a text, after white space. Whatever follows it is left. -/
def leadingInteger? (s : String) : Option Float :=
  (scanInteger? (Text.trimStart s.toList)).get (isSome_scanInteger? _)

/-- The line height of a text, and a warning if it cannot be read. -/
def lineHeight (lineSpacing : Option String) (path : Path) : Run Tree.LineHeight :=
  match lineSpacing with
  | none => pure (.multiplier defaultLineHeight)
  | some value =>
    match leadingInteger? value with
    | some n => pure (.px (n + lineSpacingBase))
    | none => do
      Run.emit (.lineSpacing value path)
      pure (.multiplier defaultLineHeight)

open FlexLayout.Document (Component) in
/-- The spans of a text, from the component at an index on. Other known components are ignored. -/
def spans (p : Policy) (path : Path) : Nat → List Component → Run (List Tree.Span)
  | _, [] => pure []
  | i, .span s :: rest => do
    let more ← spans p path (i + 1) rest
    pure (span s :: more)
  | i, .unknown kind :: rest => do
    p.unknown kind (path.item i)
    spans p path (i + 1) rest
  | i, c :: rest => do
    Run.emit (.ignored c.kind (path.item i))
    spans p path (i + 1) rest

/-- A text with the margin on the given side, from its spans and its line height. A greatest number
of zero lines counts as absent. -/
def textWith (t : Document.Text) (side : Side) (spans : List Tree.Span)
    (lineHeight : Tree.LineHeight) : Tree.Text where
  geometry := geometry t.flex t.margin side t.placement
  lines := Text.split '\n' t.text
  spans := spans
  lineHeight := lineHeight
  fontSize := TokenTable.fontSize.resolve? (t.size.getD "md")
  wrap := t.wrap.getD false
  maxLines := t.maxLines.filter (0 < ·)
  weight := t.weight
  style := t.style
  decoration := t.decoration
  color := t.color
  align := t.align
  gravity := t.gravity
  action := t.action

/-- A text with the spans among its contents. -/
def text (p : Policy) (t : Document.Text) (contents : List Document.Component) (c : Context) :
    Run Tree.Text := do
  let spans ← spans p c.path 0 contents
  let lineHeight ← lineHeight t.lineSpacing c.path
  pure (textWith t c.axis.spacingSide spans lineHeight)

end FlexLayout.Resolve
