import FlexLayout.Json.Basic
import FlexLayout.Decimal.Reading

/-!
# Numerals

A numeral without point and exponent that fits a 64-bit integer is an integer; every other one
is a double. The double is not always the nearest one: the digits are gathered into a 64-bit
significand for as long as they fit, and the significand is scaled by a power of ten, with one
rounding for each step.
-/

namespace FlexLayout.Json

/-- A numeral taken apart. A missing fraction or exponent is `none`. -/
structure Numeral where
  negative : Bool
  whole : List Char
  fraction : Option (List Char)
  exponent : Option Int
  deriving DecidableEq, Repr

namespace Numeral

def splitFraction : List Char → Option (Option (List Char) × List Char)
  | '.' :: cs =>
    let digits := cs.takeWhile Char.isDigit
    if digits = [] then none else some (some digits, cs.dropWhile Char.isDigit)
  | cs => some (none, cs)

/-- Reads a whole word. The digits before the point do not start with a needless zero. -/
def ofWord? (cs : List Char) : Option Numeral := do
  let (negative, cs) := match cs with
    | '-' :: cs => (true, cs)
    | cs => (false, cs)
  let whole := cs.takeWhile Char.isDigit
  let (fraction, rest) ← splitFraction (cs.dropWhile Char.isDigit)
  let exponent ← if rest = [] then some none else (Decimal.exponent? rest).map some
  if whole = [] ∨ (whole.head? = some '0' ∧ whole ≠ ['0']) then none
  else some { negative, whole, fraction, exponent }

/-- Gathers digits while the number they write fits in 64 bits; the rest is left over. -/
def gather : Nat → List Char → Nat × List Char
  | n, [] => (n, [])
  | n, c :: cs =>
    let next := 10 * n + (c.toNat - '0'.toNat)
    if next < UInt64.size then gather next cs else (n, c :: cs)

/-- The significand and the power of ten that belongs to it. Left-over digits before the point
count as zeros, and left-over digits after it are dropped. -/
def scaled (n : Numeral) : Nat × Int :=
  let fraction := n.fraction.getD []
  let (significand, more) := gather 0 n.whole
  let (significand, dropped) := gather significand fraction
  (significand, n.exponent.getD 0 + more.length - (fraction.length - dropped.length : Nat))

def powerOfTen (n : Nat) : Float := Float.ofScientific 1 false n

/-- Scales by a power of ten: at most `10 ^ 308` at a time, and none if the result overflows. -/
def scale (x : Float) (e : Int) : Option Float :=
  if e > 308 then if x == 0 then some x else none
  else if e ≥ 0 then
    let y := x * powerOfTen e.toNat
    if y.isFinite then some y else none
  else if e ≥ -308 then some (x / powerOfTen (-e).toNat)
  else if e ≥ -616 then some (x / powerOfTen 308 / powerOfTen (-e - 308).toNat)
  else some 0

/-- The magnitude of the least signed 64-bit integer. -/
def leastInt64 : Nat := 0x8000000000000000

/-- The integer that a numeral writes, if it has no point and no exponent. -/
def integer? (n : Numeral) : Option Int :=
  let magnitude := Decimal.ofDigits n.whole
  if n.fraction.isSome || n.exponent.isSome then none
  else if n.negative then
    if 0 < magnitude ∧ magnitude ≤ leastInt64 then some (-(magnitude : Int)) else none
  else if magnitude < UInt64.size then some magnitude
  else none

/-- The number that a numeral writes; none if it is too large for a double. -/
def value? (n : Numeral) : Option Number :=
  match n.integer? with
  | some i => some (.int i)
  | none =>
    let (significand, e) := n.scaled
    (scale (Float.ofNat significand) e).map fun x => .float (Decimal.withSign n.negative x)

end Numeral

end FlexLayout.Json
