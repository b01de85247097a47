/-!
# Reading a number

A numeral is a sign, digits with at most one point, and an optional power of ten. It stands for
the double nearest to its exact value; a value out of range is an infinity. The words `inf`,
`infinity` and `nan` are numerals too, in any case.
-/

namespace FlexLayout.Decimal

/-- The number that a list of decimal digits writes. -/
def ofDigits (cs : List Char) : Nat :=
  cs.foldl (fun n c => 10 * n + (c.toNat - '0'.toNat)) 0

/-- An optional sign, and what follows it. -/
def splitSign : List Char → Bool × List Char
  | '-' :: cs => (true, cs)
  | '+' :: cs => (false, cs)
  | cs => (false, cs)

def withSign (negative : Bool) (x : Float) : Float := if negative then -x else x

/-- Reads `e` or `E` and a signed integer, to the end of the text. -/
def exponent? : List Char → Option Int
  | [] => some 0
  | c :: cs =>
    if c = 'e' ∨ c = 'E' then
      let (negative, digits) := splitSign cs
      if digits ≠ [] ∧ digits.all Char.isDigit then
        some (if negative then -(ofDigits digits : Int) else ofDigits digits)
      else none
    else none

/-- Reads an unsigned number: digits, an optional point, and an optional power of ten. -/
def magnitude? (cs : List Char) : Option Float := do
  let whole := cs.takeWhile Char.isDigit
  let rest := cs.dropWhile Char.isDigit
  let (fraction, rest) := match rest with
    | '.' :: rest => (rest.takeWhile Char.isDigit, rest.dropWhile Char.isDigit)
    | _ => ([], rest)
  if whole = [] ∧ fraction = [] then none
  else
    let e := (← exponent? rest) - fraction.length
    some (Float.ofScientific (ofDigits (whole ++ fraction)) (e < 0) e.natAbs)

/-- Reads a whole text as a double. -/
def read? (s : String) : Option Float :=
  let (negative, cs) := splitSign s.toList
  let word := String.ofList (cs.map Char.toLower)
  if word = "inf" ∨ word = "infinity" then some (withSign negative (1.0 / 0.0))
  else if word = "nan" then some (0.0 / 0.0)
  else (magnitude? cs).map (withSign negative)

end FlexLayout.Decimal
