import FlexLayout.Decimal.Shortest

/-!
# Writing a double

A `NumberFormat` gathers the decisions of a number format: which magnitudes are written
positionally, whether a whole number keeps a zero after the point, and which way ties go.
-/

namespace FlexLayout

structure NumberFormat where
  /-- Whether a number whose leading digit has this exponent is written positionally. -/
  positional : Int → Bool
  /-- Whether a whole number ends in `.0`. -/
  point : Bool
  tie : Decimal.Tie

namespace NumberFormat

/-- Digits with the point placed after the digit of exponent zero. -/
def place (point : Bool) (digits : String) (top : Int) : String :=
  let n := digits.length
  if top < 0 then
    "0." ++ String.ofList (List.replicate (-top - 1).toNat '0') ++ digits
  else if n ≤ top.toNat + 1 then
    digits ++ String.ofList (List.replicate (top.toNat + 1 - n) '0') ++ (if point then ".0" else "")
  else
    String.ofList (digits.toList.take (top.toNat + 1)) ++ "."
      ++ String.ofList (digits.toList.drop (top.toNat + 1))

/-- Digits with one digit before the point, and the exponent with its sign. -/
def scientific (digits : String) (top : Int) : String :=
  let (first, rest) := (digits.toList.take 1, digits.toList.drop 1)
  String.ofList first ++ (if rest.isEmpty then "" else "." ++ String.ofList rest)
    ++ "e" ++ (if top < 0 then "-" else "+") ++ toString top.natAbs

/-- A decimal in this format. -/
def decimal (f : NumberFormat) (d : Decimal) : String :=
  let digits := toString d.digits
  let top := d.exponent + digits.length - 1
  if f.positional top then place f.point digits top else scientific digits top

/-- A double in this format. -/
def write (f : NumberFormat) (x : Float) : String :=
  match Binary.ofFloat x with
  | .nan => "NaN"
  | .infinite negative => if negative then "-inf" else "inf"
  | .finite negative significand exponent =>
    (if negative then "-" else "") ++ f.decimal (Decimal.shortest f.tie significand exponent)

end NumberFormat

/-- Positional at every magnitude, whole numbers without a point. -/
def NumberFormat.plain : NumberFormat where
  positional _ := true
  point := false
  tie := .up

end FlexLayout
