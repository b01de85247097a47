import FlexLayout.Resolve.Message
import FlexLayout.Shell.Arguments
import FlexLayout.Shell.Script
import FlexLayout.Tree.Drawing
import FlexLayout.Tree.Encoding

/-!
# The viewer

A program that reads a message from a file and resolves it. The tree is shown on the output, drawn
or as JSON; it is kept as JSON in a file where that is asked for; and a summary counts its nodes.
The first failure ends the program.
-/

namespace FlexLayout.Shell.Viewer

/-- How a tree is shown. -/
inductive Form where
  | tree | json
  deriving DecidableEq, Repr

instance : Keyword Form where
  all := [.tree, .json]
  word
    | .tree => "tree"
    | .json => "json"

structure Options where
  path : String
  form : Form := .tree
  /-- Where the tree is kept. -/
  output : Option String := none
  policy : Resolve.Policy := .skip
  /-- Nothing but the summary is shown. -/
  quiet : Bool := false
  deriving DecidableEq, Repr

def usage : Usage where
  flags := [
    { long := "format", short := some 'f',
      value := some fun s => (Keyword.ofWord? s : Option Form).isSome },
    { long := "output", short := some 'o', value := some fun _ => true },
    { long := "strict" },
    { long := "quiet", short := some 'q' }]
  positional := 1

def Options.ofArguments (a : Arguments) : Except Stop Options :=
  match a.positional with
  | [path] => .ok {
      path := path
      form := ((a.get? "format").bind Keyword.ofWord?).getD .tree
      output := a.get? "output"
      policy := if a.has "strict" then .reject else .skip
      quiet := a.has "quiet" }
  | _ => .error (.usage "a message file is required")

def Options.parse (args : List String) : Except Stop Options := do
  ofArguments (← Arguments.parse usage args)

/-! ## What is shown -/

def Form.text (f : Form) (m : Tree.Message) : String :=
  match f with
  | tree => m.drawing
  | json => m.text

def policyText : Resolve.Policy → String
  | .skip => "Skip"
  | .reject => "Reject"

/-- The lines that count the nodes of a message, kind by kind. -/
def summary (m : Tree.Message) : List String :=
  ["", "--- Message Summary ---",
    "Alt Text:             " ++ m.altText,
    "Bubbles:              " ++ toString m.bubbles.length,
    "Resolved Nodes:       " ++ toString m.nodeCount]
  ++ m.kindCounts.map fun (k, n) => "  " ++ padded 20 k.word ++ toString n

/-- Nanoseconds that the stages of a run took. -/
structure Times where
  loading : Nat
  resolving : Nat
  total : Nat

def performance (t : Times) (p : Resolve.Policy) : List String := [
  "", "--- Performance Summary ---",
  "File Loading:         " ++ durationText t.loading,
  "Resolution:           " ++ durationText t.resolving,
  "-----------------------------",
  "Total Execution:      " ++ durationText t.total,
  "Unknown Components:   " ++ policyText p,
  ""]

/-! ## The program -/

/-- Ends the program because of an error. -/
def stop (text : String) : Script := .fail (lines ["", "Error: " ++ text])

/-- Shows a message, unless only the summary is wanted. -/
def display (o : Options) (m : Tree.Message) (rest : Script) : Script :=
  if o.quiet then rest else .print (lines [o.form.text m]) rest

/-- Keeps a message in a file, if one is named. -/
def keep (o : Options) (m : Tree.Message) (rest : Script) : Script :=
  match o.output with
  | none => rest
  | some path => .write path m.text fun
    | .ok () => .print (lines ["Resolved tree written to '" ++ path ++ "'"]) rest
    | .error e => stop ("Could not write to file '" ++ path ++ "': " ++ e.text)

def script (o : Options) : Script :=
  .clock fun start =>
  .read o.path fun
    | .error e => stop ("Failed to read message file '" ++ o.path ++ "': " ++ e.text)
    | .ok text =>
      .clock fun loaded =>
      match (Resolve.text? o.policy text).result with
      | .error failure => stop ("Resolution failed: " ++ failure.message)
      | .ok m =>
        .clock fun resolved =>
        display o m <| keep o m <|
        .clock fun finish =>
        let times : Times := ⟨loaded - start, resolved - loaded, finish - start⟩
        .print (lines (summary m ++ performance times o.policy)) (.exit 0)

end FlexLayout.Shell.Viewer
