import FlexLayout.Json.Record

/-!
# Kinds of components
-/

namespace FlexLayout

inductive Kind where
  | box | button | filler | icon | image | separator | spacer | text | span | video
  deriving DecidableEq, Repr

instance : Keyword Kind where
  all := [.box, .button, .filler, .icon, .image, .separator, .spacer, .text, .span, .video]
  word
    | .box => "box"
    | .button => "button"
    | .filler => "filler"
    | .icon => "icon"
    | .image => "image"
    | .separator => "separator"
    | .spacer => "spacer"
    | .text => "text"
    | .span => "span"
    | .video => "video"

namespace Kind

def word (k : Kind) : String := Keyword.word k

def words : List String := (Keyword.all : List Kind).map word

/-- The kinds in the order of their words. -/
def alphabetical : List Kind :=
  [.box, .button, .filler, .icon, .image, .separator, .spacer, .span, .text, .video]

end Kind

end FlexLayout
