import FlexLayout.Text.Split

/-!
# Files

A folder of plain files, and what a path means in it. Paths are walked name by name: `.` stays,
`..` goes up, and every other name that is not the last would have to be a folder of its own,
which the folder does not hold. Places above the folder are folders without files.
-/

namespace FlexLayout.Shell

inductive FileError where
  | notFound
  | notFolder
  | isFolder
  | nameTooLong
  | nulInName
  | other (text : String)
  deriving DecidableEq, Repr

namespace FileError

/-- The number of the error on the system, its class, and its text. -/
def system? : FileError → Option (Nat × String × String)
  | notFound => some (2, "NotFound", "No such file or directory")
  | notFolder => some (20, "NotADirectory", "Not a directory")
  | isFolder => some (21, "IsADirectory", "Is a directory")
  | nameTooLong => some (36, "InvalidFilename", "File name too long")
  | nulInName | other _ => none

/-- The text of an error without a number. -/
def plainText : FileError → String
  | nulInName => "file name contained an unexpected NUL byte"
  | other text => text
  | _ => ""

def text (e : FileError) : String :=
  match e.system? with
  | some (code, _, text) => text ++ " (os error " ++ toString code ++ ")"
  | none => e.plainText

/-- The error with its parts, as a program that ends with it reports it. -/
def report (e : FileError) : String :=
  match e.system? with
  | some (code, kind, text) =>
    "Os \x7b code: " ++ toString code ++ ", kind: " ++ kind ++ ", message: \"" ++ text ++ "\" \x7d"
  | none => "Error \x7b kind: InvalidInput, message: \"" ++ e.plainText ++ "\" \x7d"

end FileError

/-- A place, as the names that lead to it from the folder. -/
abbrev Place := List String

/-- The files of a folder by their places. -/
abbrev Files := List (Place × String)

namespace Files

/-- Goes up from a folder. Above the topmost folder there is none. -/
def up (p : Place) : Place := if p = ["/"] then p else p ++ [".."]

/-- Goes through a name that is not the last one of a path. -/
def enter (files : Files) (p : Place) (name : String) : Except FileError Place :=
  if name = "." then .ok p
  else if name = ".." then .ok (up p)
  else if name.utf8ByteSize > 255 then .error .nameTooLong
  else match files.lookup (p ++ [name]) with
    | some _ => .error .notFolder
    | none => .error .notFound

/-- What a path leads to. A slash at the end asks for a folder. -/
inductive Target where
  | folder
  | file (p : Place) (slash : Bool)
  deriving DecidableEq, Repr

def target (files : Files) (path : String) : Except FileError Target := do
  if path.toList.contains '\x00' then throw .nulInName
  if path.utf8ByteSize > 4095 then throw .nameTooLong
  if path = "" then throw .notFound
  let names := (Text.split '/' path).filter (· ≠ "")
  let start : Place := if path.toList.head? = some '/' then ["/"] else []
  match names.getLast? with
  | none => return .folder
  | some last =>
    let p ← names.dropLast.foldlM (enter files) start
    if last = "." ∨ last = ".." then return .folder
    if last.utf8ByteSize > 255 then throw .nameTooLong
    return .file (p ++ [last]) (path.toList.getLast? = some '/')

def read (files : Files) (path : String) : Except FileError String := do
  match ← files.target path with
  | .folder => throw .isFolder
  | .file p slash => match files.lookup p with
    | none => throw .notFound
    | some text => if slash then throw .notFolder else return text

/-- Writes a file, in place of an earlier one. -/
def write (files : Files) (path text : String) : Except FileError Files := do
  match ← files.target path with
  | .folder => throw .isFolder
  | .file p slash =>
    if slash then throw .isFolder
    else return (p, text) :: files.filter fun f => f.1 ≠ p

end Files

end FlexLayout.Shell
