import FlexLayout.Shell.Sampler
import FlexLayout.Shell.Viewer

/-!
# The command line

Two programs under one name: `view` resolves a message file, and `sample` writes a random message.
Scripts are carried out one request at a time, and nothing is decided here.
-/

namespace FlexLayout.Main

open Shell

/-- An error of the system by its number, which may have been negated. -/
def fileErrorOfCode (code : UInt32) (details : String) : FileError :=
  let code := min code (0 - code)
  if code = 2 then .notFound
  else if code = 20 then .notFolder
  else if code = 21 then .isFolder
  else if code = 36 then .nameTooLong
  else .other (details ++ " (os error " ++ toString code ++ ")")

def fileError : IO.Error → FileError
  | .noFileOrDirectory .. => .notFound
  | .inappropriateType _ code details | .invalidArgument _ code details
  | .permissionDenied _ code details | .resourceExhausted _ code details =>
    fileErrorOfCode code details
  | e => .other (toString e)

def readText (path : String) : IO (Except FileError String) := do
  match ← (IO.FS.readBinFile path).toBaseIO with
  | .error e => return .error (fileError e)
  | .ok bytes =>
    match String.fromUTF8? bytes with
    | some text => return .ok text
    | none => return .error (.other "stream did not contain valid UTF-8")

def writeText (path text : String) : IO (Except FileError Unit) := do
  match ← (IO.FS.writeFile path text).toBaseIO with
  | .error e => return .error (fileError e)
  | .ok () => return .ok ()

/-- Carries out a script. -/
def perform : Script → IO UInt32
  | .exit code => return code.toUInt32
  | .print text rest => do
    IO.print text
    perform rest
  | .complain text rest => do
    IO.eprint text
    perform rest
  | .clock rest => do perform (rest (← IO.monoNanosNow))
  | .read path rest => do perform (rest (← readText path))
  | .write path text rest => do perform (rest (← writeText path text))

def guidance : String := lines [
  "Usage: flexlayout view [OPTIONS] MESSAGE_PATH",
  "       flexlayout sample [OPTIONS]",
  "",
  "view resolves a flex message and shows its tree:",
  "  -f, --format tree|json   how the tree is shown",
  "  -o, --output PATH        write the tree as JSON",
  "      --strict             fail on components of an unknown type",
  "  -q, --quiet              show the summary only",
  "",
  "sample writes a random flex message:",
  "  -o, --output PATH        where it is written",
  "  -b, --bubbles N          number of bubbles",
  "      --depth N            nesting of boxes, at most",
  "      --width N            children of a box, at most",
  "      --unknown            mix in components of an unknown type",
  "      --check              resolve the message before it is written"]

def halt : Stop → IO UInt32
  | .help => do
    IO.print guidance
    return 0
  | .version => do
    IO.println "flexlayout 0.1.0"
    return 0
  | .usage complaint => do
    IO.eprint ("error: " ++ complaint ++ "\n\n" ++ guidance)
    return 2

/-- Dice that fall differently in every run. -/
def freshDice : IO Sample.Dice := do
  let bytes ← IO.getRandomBytes 8
  return .seeded (bytes.toList.foldl (fun seed b => seed * 256 + b.toUInt64) 0)

def start : List String → IO UInt32
  | "view" :: args =>
    match Viewer.Options.parse args with
    | .ok o => perform (Viewer.script o)
    | .error s => halt s
  | "sample" :: args =>
    match Sampler.Options.parse args with
    | .ok o => do perform (Sampler.script o (← freshDice))
    | .error s => halt s
  | "--help" :: _ => halt .help
  | "--version" :: _ => halt .version
  | _ => halt (.usage "view or sample is required")

end FlexLayout.Main

def main (args : List String) : IO UInt32 := FlexLayout.Main.start args
