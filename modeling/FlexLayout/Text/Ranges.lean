/-!
# Sets of characters

A property of characters is a list of ranges of code points, both ends included.
-/

namespace FlexLayout.Text

abbrev Ranges := List (Nat × Nat)

def Ranges.has (r : Ranges) (c : Char) : Bool :=
  r.any fun (first, last) => first ≤ c.toNat && c.toNat ≤ last

end FlexLayout.Text
