import FlexLayout.Decimal.Reading
import FlexLayout.Text.Blank
import FlexLayout.Text.Split

/-!
# Aspect ratios

A ratio is written as width and height with a colon between them. Images and videos take it as a
height in percent of the width, icons as a width in units of the height.
-/

namespace FlexLayout.Aspect

/-- The percentage of a square. -/
def defaultPercent : Float := 100

/-- A part of a ratio as a number. -/
def side? (part : String) : Option Float := Decimal.read? (Text.trim part)

/-- Height in percent of the width. Anything but two numbers, the first positive and the second
finite, counts as a square. -/
def percent (ratio : Option String) : Float :=
  match ratio.map (Text.split ':') with
  | some [w, h] =>
    match side? w, side? h with
    | some width, some height =>
      if width > 0 && height.isFinite then height * 100 / width else defaultPercent
    | _, _ => defaultPercent
  | _ => defaultPercent

/-- Width as a multiple of the height. Only the first two parts count, and both have to be
positive; otherwise the width is the height. -/
def widthFactor (ratio : Option String) : Float :=
  match ratio.map (Text.split ':') with
  | some (w :: h :: _) =>
    match side? w, side? h with
    | some width, some height => if width > 0 && height > 0 then width / height else 1
    | _, _ => 1
  | _ => 1

/-- The ratios that the format names for images and videos. -/
def named : List String :=
  ["1:1", "1.51:1", "1.91:1", "4:3", "16:9", "20:13", "2:1", "3:1", "3:4", "9:16", "1:2", "1:3"]

end FlexLayout.Aspect
