import FlexLayout.Length

/-!
# Growth

How a component shares in the free space along the main axis of its parent.
-/

namespace FlexLayout

inductive Growth where
  /-- Nothing was asked for; the kind of the component decides. -/
  | default
  /-- It never grows. -/
  | none
  /-- The weights one, two and three. -/
  | weight (w : UInt8)
  /-- Any other positive number. -/
  | factor (x : Float)
  deriving DecidableEq, Repr

namespace Growth

/-- The growth that an author asks for. A negative number asks for nothing. -/
def ofFlex : Option Float → Growth
  | .none => default
  | some x =>
    if x.isNaN || x < 0 then default
    else if x == 0 then none
    else if x == 1 then weight 1
    else if x == 2 then weight 2
    else if x == 3 then weight 3
    else factor x

/-- Puts equal growth in place of the default. -/
def orEqual : Growth → Growth
  | default => weight 1
  | g => g

/-- The number that a renderer applies. -/
def amount : Growth → Float
  | default | none => 0
  | weight w => w.toFloat
  | factor x => x

def text : Growth → String
  | default => "default"
  | none => "0"
  | weight w => toString w.toNat
  | factor x => numberText x

def toJson : Growth → Json
  | default => .string "Default"
  | none => .string "None"
  | weight w => .object [("Weight", .ofNat w.toNat)]
  | factor x => .object [("Factor", .ofFloat x)]

def ofJson? : Json → Option Growth
  | .string "Default" => some default
  | .string "None" => some none
  | .object [("Default", v)] => if Dialect.tree.carriesNothing v then some default else .none
  | .object [("None", v)] => if Dialect.tree.carriesNothing v then some none else .none
  | .object [("Weight", v)] => (v.natBelow? UInt8.size).map fun n => weight n.toUInt8
  | .object [("Factor", v)] => v.float?.map factor
  | _ => .none

end Growth

end FlexLayout
