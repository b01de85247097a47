import FlexLayout.Decimal.Format
import FlexLayout.Json.Record

/-!
# Lengths

A resolved length is a number of pixels, a percentage, or an absolute value kept as its author
wrote it.
-/

namespace FlexLayout

inductive Length where
  | px (x : Float)
  | percent (x : Float)
  | literal (s : String)
  deriving DecidableEq, Repr

/-- Moves an integer into the range of signed 64-bit integers. -/
def clampInt64 (n : Int) : Int := max Int64.minValue.toInt (min n Int64.maxValue.toInt)

/-- A number inside a text: whole numbers as 64-bit integers, the largest standing for what lies
beyond, and all others in the fewest digits without an exponent. -/
def numberText (x : Float) : String :=
  match (Binary.ofFloat x).integer? with
  | some n => toString (clampInt64 n)
  | none => NumberFormat.plain.write x

namespace Length

def text : Length → String
  | px x => numberText x ++ "px"
  | percent x => numberText x ++ "%"
  | literal s => s

def toJson : Length → Json
  | px x => .object [("Px", .ofFloat x)]
  | percent x => .object [("Percent", .ofFloat x)]
  | literal s => .object [("Literal", .string s)]

def ofJson? : Json → Option Length
  | .object [("Px", v)] => v.float?.map px
  | .object [("Percent", v)] => v.float?.map percent
  | .object [("Literal", v)] => v.text?.map literal
  | _ => none

end Length

end FlexLayout
