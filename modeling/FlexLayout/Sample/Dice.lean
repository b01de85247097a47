/-!
# Dice

Random choices are read from a stream of numbers, each number once and in order. What is drawn is
a function of the stream, so a statement about all samples is a statement about all streams.
-/

namespace FlexLayout.Sample

/-- A stream of numbers, and how many of them have been used. -/
structure Dice where
  faces : Nat → Nat
  rolled : Nat := 0

abbrev Draw (α : Type) := StateM Dice α

namespace Draw

variable {α : Type}

def roll : Draw Nat := fun d => (d.faces d.rolled, { d with rolled := d.rolled + 1 })

/-- A number below `n`, for positive `n`. -/
def below (n : Nat) : Draw Nat := do return (← roll) % n

/-- A number from `low` to `high`, both included. -/
def between (low high : Nat) : Draw Nat := do return low + (← below (high + 1 - low))

def chance (percent : Nat) : Draw Bool := do return decide ((← below 100) < percent)

/-- One of several texts, or the empty text if there are none. -/
def pick (options : List String) : Draw String := do
  return (options[← below options.length]?).getD ""

/-- Draws `n` times. -/
def many (n : Nat) (d : Draw α) : Draw (List α) :=
  match n with
  | 0 => return []
  | n + 1 => do
    let a ← d
    return a :: (← many n d)

/-- Draws with a chance in percent. -/
def maybe (percent : Nat) (d : Draw α) : Draw (Option α) := do
  if ← chance percent then return some (← d) else return none

end Draw

namespace Dice

/-- Spreads the bits of a number over all places. -/
def scatter (x : UInt64) : UInt64 :=
  let x := (x ^^^ (x >>> 30)) * 0xbf58476d1ce4e5b9
  let x := (x ^^^ (x >>> 27)) * 0x94d049bb133111eb
  x ^^^ (x >>> 31)

/-- The dice of a seed. -/
def seeded (seed : UInt64) : Dice where
  faces i := (scatter (seed + (i + 1).toUInt64 * 0x9e3779b97f4a7c15)).toNat

end Dice

end FlexLayout.Sample
