/-!
# JSON values

A value keeps the fields of its objects in written order, repetitions included. A number is an
integer or a double, as it was written: `1` and `1.0` are different values.
-/

namespace FlexLayout

/-- A JSON number. -/
inductive Number where
  | int (n : Int)
  | float (x : Float)
  deriving DecidableEq, Repr

/-- The double nearest to a number. -/
def Number.toFloat : Number → Float
  | int n => Float.ofInt n
  | float x => x

inductive Json where
  | null
  | bool (b : Bool)
  | number (n : Number)
  | string (s : String)
  | array (items : List Json)
  | object (fields : List (String × Json))
  deriving Inhabited

namespace Json

/-- The fields of an object; every other value has none. -/
def fields : Json → List (String × Json)
  | object fs => fs
  | _ => []

/-- The field of a name, if the value is an object that has it. -/
def field? (v : Json) (name : String) : Option Json := v.fields.lookup name

def text? : Json → Option String
  | string s => some s
  | _ => none

def bool? : Json → Option Bool
  | bool b => some b
  | _ => none

def float? : Json → Option Float
  | number n => some n.toFloat
  | _ => none

/-- An integer from zero up to, but not including, `bound`. -/
def natBelow? (bound : Nat) : Json → Option Nat
  | number (.int (.ofNat n)) => if n < bound then some n else none
  | _ => none

def items? : Json → Option (List Json)
  | array items => some items
  | _ => none

def isObject : Json → Bool
  | object _ => true
  | _ => false

/-- A double as a value. What is not finite has no number in JSON and becomes `null`. -/
def ofFloat (x : Float) : Json := if x.isFinite then number (.float x) else null

def ofNat (n : Nat) : Json := number (.int n)

/-- An absent value is `null`. -/
def ofOption {α : Type} (f : α → Json) : Option α → Json
  | some a => f a
  | none => null

/-- Puts a field into fields sorted by name, in place of an earlier one of the same name. -/
def insertField (name : String) (v : Json) : List (String × Json) → List (String × Json)
  | [] => [(name, v)]
  | (k, w) :: rest =>
    if name = k then (name, v) :: rest
    else if name < k then (name, v) :: (k, w) :: rest
    else (k, w) :: insertField name v rest

mutual

/-- The same value with the fields of every object sorted by name, the last of each name only. -/
def canonical : Json → Json
  | array items => array (canonicalItems items)
  | object fs => object (canonicalFields fs [])
  | v => v

def canonicalItems : List Json → List Json
  | [] => []
  | v :: rest => canonical v :: canonicalItems rest

def canonicalFields : List (String × Json) → List (String × Json) → List (String × Json)
  | [], sorted => sorted
  | (k, v) :: rest, sorted => canonicalFields rest (insertField k (canonical v) sorted)

end

end Json

end FlexLayout
