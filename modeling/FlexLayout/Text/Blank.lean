import FlexLayout.Text.Ranges

/-!
# White space

The characters with the Unicode property `White_Space`, and the texts without them at the ends.
-/

namespace FlexLayout.Text

def whiteSpace : Ranges :=
  [(0x9, 0xd), (0x20, 0x20), (0x85, 0x85), (0xa0, 0xa0), (0x1680, 0x1680), (0x2000, 0x200a),
   (0x2028, 0x2029), (0x202f, 0x202f), (0x205f, 0x205f), (0x3000, 0x3000)]

def isBlank (c : Char) : Bool := whiteSpace.has c

/-- Drops the white space in front. -/
def trimStart (cs : List Char) : List Char := cs.dropWhile isBlank

/-- Drops the white space at both ends. -/
def trim (s : String) : String :=
  String.ofList (trimStart (trimStart s.toList).reverse).reverse

end FlexLayout.Text
