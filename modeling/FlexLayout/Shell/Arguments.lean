import FlexLayout.Text.Split

/-!
# Command lines

A command line is read from left to right. An option has a long name, and may have a one-letter
name; letters may share one dash. The value of an option is attached to it, with or without `=`
after a letter, or is the next argument, unless that starts with a dash of its own. Each option
may be given once, and after `--` everything is positional.
-/

namespace FlexLayout.Shell

/-- An option; one that takes a value knows which values are right. -/
structure Flag where
  long : String
  short : Option Char := none
  value : Option (String → Bool) := none

/-- The options and the number of positional arguments of a program. -/
structure Usage where
  flags : List Flag
  positional : Nat

/-- What was read: options with their values, and positional arguments. -/
structure Arguments where
  given : List (String × String) := []
  positional : List String := []
  deriving DecidableEq, Repr

/-- Why a program does not start. -/
inductive Stop where
  | help
  | version
  | usage (complaint : String)
  deriving DecidableEq, Repr

namespace Arguments

def has (a : Arguments) (long : String) : Bool := (a.given.lookup long).isSome

def get? (a : Arguments) (long : String) : Option String := a.given.lookup long

/-- Notes an option. -/
def note (a : Arguments) (f : Flag) (value : String) : Except Stop Arguments :=
  if a.has f.long then .error (.usage ("'--" ++ f.long ++ "' cannot be used multiple times"))
  else if f.value.all (· value) then .ok { a with given := a.given ++ [(f.long, value)] }
  else .error (.usage ("invalid value '" ++ value ++ "' for '--" ++ f.long ++ "'"))

def noteText (u : Usage) (a : Arguments) (text : String) : Except Stop Arguments :=
  if a.positional.length < u.positional then .ok { a with positional := a.positional ++ [text] }
  else .error (.usage ("unexpected argument '" ++ text ++ "' found"))

/-- Whether an argument starts with a dash and is more than one. -/
def isDashed (arg : String) : Bool :=
  match arg.toList with
  | '-' :: _ :: _ => true
  | _ => false

/-- What has been read, and an option that still waits for its value. -/
structure Progress where
  read : Arguments
  waiting : Option Flag := none

/-- Reads a long option without its dashes. -/
def long (u : Usage) (a : Arguments) (body : List Char) : Except Stop Progress := do
  let name := String.ofList (body.takeWhile (· ≠ '='))
  let value := match body.dropWhile (· ≠ '=') with
    | _ :: cs => some (String.ofList cs)
    | [] => none
  if name = "help" ∧ value = none then throw .help
  if name = "version" ∧ value = none then throw .version
  match u.flags.find? fun f => f.long == name, value with
  | none, _ => throw (.usage ("unexpected argument '--" ++ name ++ "' found"))
  | some f, value =>
    match f.value, value with
    | none, none => return ⟨← a.note f "", none⟩
    | none, some v => throw (.usage ("unexpected value '" ++ v ++ "' for '--" ++ name ++ "' found"))
    | some _, some v => return ⟨← a.note f v, none⟩
    | some _, none => return ⟨a, some f⟩

/-- Reads letters that share a dash. An option that takes a value takes the remaining letters. -/
def letters (u : Usage) (a : Arguments) : List Char → Except Stop Progress
  | [] => .ok ⟨a, none⟩
  | c :: rest =>
    match u.flags.find? fun f => f.short == some c with
    | none =>
      if c = 'h' then .error .help
      else if c = 'V' then .error .version
      else .error (.usage ("unexpected argument '-" ++ String.ofList [c] ++ "' found"))
    | some f =>
      if f.value.isNone then
        match a.note f "" with
        | .ok a => letters u a rest
        | .error e => .error e
      else
        match rest with
        | [] => .ok ⟨a, some f⟩
        | '=' :: value => (a.note f (String.ofList value)).map (⟨·, none⟩)
        | value => (a.note f (String.ofList value)).map (⟨·, none⟩)

/-- Reads arguments up to `--`, and what follows as positional. -/
def readFrom (u : Usage) : Progress → List String → Except Stop Arguments
  | ⟨a, none⟩, [] => .ok a
  | ⟨_, some f⟩, [] => .error (.usage ("a value is required for '--" ++ f.long ++ "'"))
  | ⟨a, some f⟩, arg :: rest =>
    if isDashed arg then .error (.usage ("a value is required for '--" ++ f.long ++ "'"))
    else
      match a.note f arg with
      | .ok a => readFrom u ⟨a, none⟩ rest
      | .error e => .error e
  | ⟨a, none⟩, arg :: rest =>
    if arg = "--" then rest.foldlM (noteText u) a
    else
      let step := match arg.toList with
        | '-' :: '-' :: body => long u a body
        | '-' :: c :: cs => letters u a (c :: cs)
        | _ => (a.noteText u arg).map (⟨·, none⟩)
      match step with
      | .ok p => readFrom u p rest
      | .error e => .error e

def parse (u : Usage) (args : List String) : Except Stop Arguments := readFrom u ⟨{}, none⟩ args

end Arguments

/-- A count: decimal digits, with an optional plus sign, below `2 ^ 64`. -/
def count? (text : String) : Option Nat :=
  let digits : List Char := match text.toList with
    | '+' :: cs => cs
    | cs => cs
  let n : Nat := digits.foldl (fun n c => 10 * n + (c.toNat - '0'.toNat)) 0
  if digits ≠ [] ∧ digits.all Char.isDigit ∧ n < UInt64.size then some n else none

end FlexLayout.Shell
