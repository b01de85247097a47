import FlexLayout.Shell.Files

/-!
# Scripts

A program with effects as a tree: what it asks for next, and how it goes on with each answer. A
script is run over a folder of files, or by the operating system.
-/

namespace FlexLayout.Shell

inductive Script where
  | exit (code : UInt8)
  | print (text : String) (rest : Script)
  /-- Prints where errors are printed. -/
  | complain (text : String) (rest : Script)
  /-- Reads a clock that counts nanoseconds. -/
  | clock (rest : Nat → Script)
  | read (path : String) (rest : Except FileError String → Script)
  | write (path text : String) (rest : Except FileError Unit → Script)

/-- What a script leaves behind. -/
structure Outcome where
  code : UInt8
  printed : String
  complaints : String
  files : Files

namespace Script

/-- Ends with a complaint. -/
def fail (text : String) : Script := complain text (exit 1)

/-- Runs a script over a folder. The clock stands still. -/
def runIn (printed complaints : String) (files : Files) : Script → Outcome
  | exit code => ⟨code, printed, complaints, files⟩
  | print text rest => runIn (printed ++ text) complaints files rest
  | complain text rest => runIn printed (complaints ++ text) files rest
  | clock rest => runIn printed complaints files (rest 0)
  | read path rest => runIn printed complaints files (rest (files.read path))
  | write path text rest =>
    match files.write path text with
    | .ok files => runIn printed complaints files (rest (.ok ()))
    | .error e => runIn printed complaints files (rest (.error e))

def run (files : Files) (s : Script) : Outcome := runIn "" "" files s

end Script

/-- Lines of text, with a line feed after every line. -/
def lines (ls : List String) : String := String.join (ls.map (· ++ "\n"))

/-- Spaces behind a text, up to a width. -/
def padded (width : Nat) (text : String) : String :=
  text ++ String.ofList (List.replicate (width - text.length) ' ')

/-- The decimal places of a number below `10 ^ digits`, without zeros at the end. -/
def decimals (digits value : Nat) : String :=
  let cs := Nat.toDigits 10 value
  let padded := List.replicate (digits - cs.length) '0' ++ cs
  let kept := (padded.reverse.dropWhile (· = '0')).reverse
  if kept.isEmpty then "" else "." ++ String.ofList kept

/-- A time in its largest unit. -/
def durationText (nanoseconds : Nat) : String :=
  let write (size digits : Nat) (unit : String) :=
    toString (nanoseconds / size) ++ decimals digits (nanoseconds % size) ++ unit
  if nanoseconds ≥ 1000000000 then write 1000000000 9 "s"
  else if nanoseconds ≥ 1000000 then write 1000000 6 "ms"
  else if nanoseconds ≥ 1000 then write 1000 3 "µs"
  else write 1 0 "ns"

end FlexLayout.Shell
