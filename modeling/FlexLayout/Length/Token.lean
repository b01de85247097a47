import FlexLayout.Length
import FlexLayout.Text.Split

/-!
# Size tokens

A token table gives a fixed length to each of its tokens. A value with a mark of an absolute
unit passes through a table untouched, and what is neither a token nor absolute has no length.
-/

namespace FlexLayout

/-- The marks that a table takes for an absolute unit. -/
inductive Marks where
  | pixelOrPercent
  | pixelOnly
  deriving DecidableEq, Repr

def hasPixelMark (value : String) : Bool := Text.occurs ['p', 'x'] value.toList

def hasPercentMark (value : String) : Bool := Text.occurs ['%'] value.toList

/-- Whether a value carries a mark of an absolute unit. -/
def isAbsolute (value : String) : Bool := hasPixelMark value || hasPercentMark value

def Marks.accept : Marks → String → Bool
  | pixelOrPercent, value => isAbsolute value
  | pixelOnly, value => hasPixelMark value

structure TokenTable where
  name : String
  marks : Marks
  entries : List (String × Length)

namespace TokenTable

/-- The length of a token. -/
def get? (t : TokenTable) (token : String) : Option Length := t.entries.lookup token

def tokens (t : TokenTable) : List String := t.entries.map Prod.fst

/-- The length of an absolute value or a token. -/
def resolve? (t : TokenTable) (value : String) : Option Length :=
  if t.marks.accept value then some (.literal value) else t.get? value

def resolveD (t : TokenTable) (value : String) (fallback : Length) : Length :=
  (t.resolve? value).getD fallback

/-- The steps of margins, paddings and the like. -/
def spacingSteps : List (String × Length) :=
  [("none", .px 0), ("xs", .px 2), ("sm", .px 4), ("md", .px 8), ("lg", .px 12), ("xl", .px 16),
   ("xxl", .px 20)]

/-- Space between the children of a box. -/
def spacing : TokenTable := ⟨"spacing", .pixelOrPercent, spacingSteps⟩

def margin : TokenTable := ⟨"margin", .pixelOrPercent, spacingSteps⟩

def padding : TokenTable := ⟨"padding", .pixelOrPercent, spacingSteps⟩

/-- Offsets of positioned components. -/
def offset : TokenTable := ⟨"offset", .pixelOrPercent, spacingSteps⟩

/-- Font sizes of texts, spans and icons. -/
def fontSize : TokenTable :=
  ⟨"font-size", .pixelOrPercent,
    [("xxs", .px 11), ("xs", .px 13), ("sm", .px 14), ("md", .px 16), ("lg", .px 19),
     ("xl", .px 22), ("xxl", .px 29), ("3xl", .px 35), ("4xl", .px 48), ("5xl", .px 74)]⟩

/-- Widths of images. -/
def imageSize : TokenTable :=
  ⟨"image-size", .pixelOrPercent,
    [("xxs", .px 40), ("xs", .px 60), ("sm", .px 80), ("md", .px 100), ("lg", .px 120),
     ("xl", .px 140), ("xxl", .px 160), ("3xl", .px 180), ("4xl", .px 200), ("5xl", .px 220),
     ("full", .percent 100)]⟩

/-- Heights of spacers, which grow no further than 20 pixels. -/
def spacerSize : TokenTable :=
  ⟨"spacer-size", .pixelOnly,
    [("xxs", .px 2), ("xs", .px 2), ("sm", .px 4), ("md", .px 8), ("lg", .px 12), ("xl", .px 16),
     ("xxl", .px 20), ("3xl", .px 20), ("4xl", .px 20), ("5xl", .px 20)]⟩

def cornerRadius : TokenTable := ⟨"corner-radius", .pixelOnly, spacingSteps⟩

def borderWidth : TokenTable :=
  ⟨"border-width", .pixelOnly,
    [("none", .px 0), ("light", .px 0.5), ("normal", .px 1), ("medium", .px 2),
     ("semi-bold", .px 3), ("bold", .px 4)]⟩

/-- Every table. -/
def all : List TokenTable :=
  [spacing, margin, padding, offset, fontSize, imageSize, spacerSize, cornerRadius, borderWidth]

/-- The table of a name. -/
def named? (name : String) : Option TokenTable := all.find? fun t => t.name == name

end TokenTable

/-- The sizes that texts, icons, images and spacers share. -/
def sizeTokens : List String := ["xxs", "xs", "sm", "md", "lg", "xl", "xxl", "3xl", "4xl", "5xl"]

def spacingTokens : List String := ["none", "xs", "sm", "md", "lg", "xl", "xxl"]

def borderWidthTokens : List String := ["none", "light", "normal", "medium", "semi-bold", "bold"]

end FlexLayout
