import FlexLayout.Json.Writing
import FlexLayout.Resolve.Message
import FlexLayout.Sample.Message
import FlexLayout.Shell.Arguments
import FlexLayout.Shell.Script

/-!
# The sampler

A program that writes a random message into a file, and resolves it first where that is asked for.
-/

namespace FlexLayout.Shell.Sampler

def defaultOutput : String := "generated_message.json"

structure Options where
  output : String := defaultOutput
  bubbles : Nat := 1
  shape : Sample.Shape := { depth := 3, width := 5, unknown := false }
  /-- The message is resolved before it is written. -/
  check : Bool := false
  deriving DecidableEq, Repr

def usage : Usage where
  flags := [
    { long := "output", short := some 'o', value := some fun _ => true },
    { long := "bubbles", short := some 'b', value := some fun s => (count? s).isSome },
    { long := "depth", value := some fun s => (count? s).isSome },
    { long := "width", value := some fun s => (count? s).isSome },
    { long := "unknown" },
    { long := "check" }]
  positional := 0

def Options.ofArguments (a : Arguments) : Options :=
  let standard : Options := {}
  let number (name : String) (otherwise : Nat) := ((a.get? name).bind count?).getD otherwise
  { output := (a.get? "output").getD standard.output
    bubbles := number "bubbles" standard.bubbles
    shape := {
      depth := number "depth" standard.shape.depth
      width := number "width" standard.shape.width
      unknown := a.has "unknown" }
    check := a.has "check" }

def Options.parse (args : List String) : Except Stop Options :=
  (Arguments.parse usage args).map ofArguments

/-- Ends the program because of an error. -/
def stop (text : String) : Script := .fail (lines ["Error: " ++ text])

/-- Resolves a message and tells its size. -/
def check (o : Options) (message : Json) (rest : Script) : Script :=
  if o.check then
    match (Resolve.json .skip message).result with
    | .error failure => stop failure.message
    | .ok m =>
      .print (lines ["-> Resolved " ++ toString m.nodeCount ++ " node(s) across "
        ++ toString m.bubbles.length ++ " bubble(s)."]) rest
  else rest

def script (o : Options) (dice : Sample.Dice) : Script :=
  if o.shape.depth = 0 ∨ o.shape.width = 0 then
    stop "--depth and --width must be at least 1"
  else
    .print (lines ["Generating flex message (" ++ toString o.bubbles ++ " bubble(s), depth "
      ++ toString o.shape.depth ++ ", up to " ++ toString o.shape.width
      ++ " children per box)..."]) <|
    let message := (Sample.message o.shape o.bubbles dice).1
    check o message <|
    .write o.output message.pretty fun
      | .error e => stop e.report
      | .ok () =>
        .print (lines ["Successfully generated and saved message to '" ++ o.output ++ "'"])
          (.exit 0)

end FlexLayout.Shell.Sampler
