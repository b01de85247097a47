import FlexLayout.Decimal.Binary

/-!
# The fewest digits that read back

The reals that round to a given double form an interval around it. The shortest decimal in that
interval is found on grids of falling coarseness: on the grid `10 ^ t` only the two neighbours of
the value can be in reach, because every other grid point is further away.
-/

namespace FlexLayout

/-- The decimal number `digits * 10 ^ exponent`. -/
structure Decimal where
  digits : Nat
  exponent : Int
  deriving DecidableEq, Repr

namespace Decimal

/-- Which of two equally near decimals is taken. -/
inductive Tie where
  | even
  | up
  deriving DecidableEq, Repr

/-- The number of decimal digits of a natural number; zero has one. -/
def width (n : Nat) : Nat := (Nat.toDigits 10 n).length

/-- The exponent of the leading digit of the fraction `num / den`. -/
def magnitude (num den : Nat) : Int :=
  if den ≤ num then width (num / den) - 1
  else -(width ((den + num - 1) / num - 1) : Int)

/-- The reals that round to `significand * 2 ^ exponent`, in quarters of the last place. The gap
below a power of two is half the gap above it, and the ends belong to an even significand. -/
structure Interval where
  low : Nat
  value : Nat
  high : Nat
  closed : Bool

def Interval.around (significand : Nat) (exponent : Int) : Interval where
  low := if significand = Binary.hiddenBit ∧ -1074 < exponent then 4 * significand - 1
    else 4 * significand - 2
  value := 4 * significand
  high := 4 * significand + 2
  closed := significand % 2 = 0

/-- The point of the grid `10 ^ t` in the interval that is nearest to its value, if there is
one. The interval counts in units of `2 ^ exponent`. -/
def onGrid (tie : Tie) (i : Interval) (exponent t : Int) : Option Decimal :=
  let scale := Nat.pow 2 exponent.toNat * Nat.pow 10 (-t).toNat
  let unit := Nat.pow 2 (-exponent).toNat * Nat.pow 10 t.toNat
  let below := i.value * scale / unit
  let within (point : Nat) : Bool :=
    if i.closed then i.low * scale ≤ point * unit ∧ point * unit ≤ i.high * scale
    else i.low * scale < point * unit ∧ point * unit < i.high * scale
  let down := i.value * scale - below * unit
  let up := (below + 1) * unit - i.value * scale
  let upper : Bool := match tie with
    | .even => down > up ∨ (down = up ∧ below % 2 = 1)
    | .up => down ≥ up
  match within below, within (below + 1) with
  | true, true => some ⟨if upper then below + 1 else below, t⟩
  | true, false => some ⟨below, t⟩
  | false, true => some ⟨below + 1, t⟩
  | false, false => none

/-- Moves the zeros at the end of the digits into the exponent. -/
def trim (d : Decimal) : Decimal := go (width d.digits) d
where
  go : Nat → Decimal → Decimal
    | 0, d => d
    | n + 1, d =>
      if d.digits ≠ 0 ∧ d.digits % 10 = 0 then go n ⟨d.digits / 10, d.exponent + 1⟩ else d

/-- The shortest decimal that rounds to `significand * 2 ^ exponent`. Seventeen digits always
suffice for a double. -/
def shortest (tie : Tie) (significand : Nat) (exponent : Int) : Decimal :=
  if significand = 0 then ⟨0, 0⟩
  else
    let (num, den) := Binary.fraction significand exponent
    let top := magnitude num den
    let i := Interval.around significand exponent
    let found := (List.range 17).findSome? fun n : Nat => onGrid tie i (exponent - 2) (top - n)
    trim (found.getD ⟨0, 0⟩)

end Decimal

end FlexLayout
