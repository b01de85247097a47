/-!
# The exact value of a double

A finite double is a natural significand times a power of two, with a sign. Everything that
writes numbers starts from this value and works in exact integer arithmetic.
-/

namespace FlexLayout

/-- What a double stands for: no number, an infinity, or `significand * 2 ^ exponent`. -/
inductive Binary where
  | nan
  | infinite (negative : Bool)
  | finite (negative : Bool) (significand : Nat) (exponent : Int)
  deriving DecidableEq, Repr

namespace Binary

/-- The bit in front of the stored bits of a normal significand: `2 ^ 52`. -/
def hiddenBit : Nat := 0x10000000000000

/-- Takes a double apart: one bit of sign, eleven of exponent, and the rest. Subnormal numbers
share the least exponent of the normal ones. -/
def ofFloat (x : Float) : Binary :=
  let bits := x.toBits.toNat
  let negative := decide (bits / hiddenBit / 2048 = 1)
  let biased : Nat := bits / hiddenBit % 2048
  let fraction : Nat := bits % hiddenBit
  if biased = 2047 then
    if fraction = 0 then infinite negative else nan
  else if biased = 0 then finite negative fraction (-1074)
  else finite negative (hiddenBit + fraction) ((biased : Int) - 1075)

/-- The magnitude of a finite value as a fraction of two natural numbers. -/
def fraction (significand : Nat) (exponent : Int) : Nat × Nat :=
  (significand * Nat.pow 2 exponent.toNat, Nat.pow 2 (-exponent).toNat)

/-- The integer that a value equals, if it is one. -/
def integer? : Binary → Option Int
  | finite negative significand exponent =>
    let (num, den) := fraction significand exponent
    if num % den = 0 then
      some (if negative then -((num / den : Nat) : Int) else (num / den : Nat))
    else none
  | _ => none

end Binary

end FlexLayout
