import FlexLayout.Json.Record

/-!
# Background gradients
-/

namespace FlexLayout

/-- The gradient behind a box, as written. -/
structure Background where
  kind : String
  angle : String
  startColor : String
  endColor : String
  centerColor : Option String
  centerPosition : Option String
  deriving DecidableEq, Repr

namespace Background

/-- Reads a gradient. The angle and both end colours have to be strings; a centre that is not a
string counts as absent. -/
def ofJson? (v : Json) : Option Background := do
  let r ← (← v.parts?).record?
    ["type", "angle", "startColor", "endColor", "centerColor", "centerPosition"]
  some {
    kind := ← match r.slot "type" with
      | .given kind => kind.text?
      | _ => some ""
    angle := ← r.required "angle" Json.text?
    startColor := ← r.required "startColor" Json.text?
    endColor := ← r.required "endColor" Json.text?
    centerColor := r.lenient "centerColor" Json.text?
    centerPosition := r.lenient "centerPosition" Json.text? }

/-- The colour stops from start to end. The centre stands half-way unless it says otherwise. -/
def stops (b : Background) : List String :=
  let start := b.startColor ++ " 0%"
  let finish := b.endColor ++ " 100%"
  match b.centerColor with
  | some center => [start, center ++ " " ++ b.centerPosition.getD "50%", finish]
  | none => [start, finish]

def gradient (b : Background) : String :=
  "linear-gradient(" ++ b.angle ++ ", " ++ String.intercalate ", " b.stops ++ ")"

end Background

end FlexLayout
