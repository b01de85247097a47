import FlexLayout.Json.Basic
import FlexLayout.Decimal.Format

/-!
# Writing a value

Two layouts of the same text: a compact one without blanks, and an indented one with two spaces
for each level. Only quotes, backslashes and control characters are escaped.
-/

namespace FlexLayout

/-- Doubles are positional from `10 ^ -5` up to `10 ^ 16`, and always show a point or exponent. -/
def NumberFormat.json : NumberFormat where
  positional e := decide (-5 ≤ e ∧ e ≤ 15)
  point := true
  tie := .even

namespace Json

def writeNumber : Number → String
  | .int n => toString n
  | .float x => if x.isFinite then NumberFormat.json.write x else "null"

/-- A control character as four hexadecimal digits. -/
def unitEscape (c : Char) : List Char :=
  let digits := Nat.toDigits 16 c.toNat
  ['\\', 'u'] ++ List.replicate (4 - digits.length) '0' ++ digits

def escape (c : Char) : List Char :=
  match c with
  | '"' => ['\\', '"']
  | '\\' => ['\\', '\\']
  | '\x08' => ['\\', 'b']
  | '\x0c' => ['\\', 'f']
  | '\n' => ['\\', 'n']
  | '\r' => ['\\', 'r']
  | '\t' => ['\\', 't']
  | c => if c < ' ' then unitEscape c else [c]

def writeString (s : String) : String := String.ofList ('"' :: s.toList.flatMap escape ++ ['"'])

/-- A value without sub-values. -/
def writeScalar : Json → String
  | null => "null"
  | bool b => if b then "true" else "false"
  | number n => writeNumber n
  | string s => writeString s
  | array _ => "[]"
  | object _ => "\x7b\x7d"

mutual

def compact : Json → String
  | array items => "[" ++ String.intercalate "," (compactItems items) ++ "]"
  | object fs => "\x7b" ++ String.intercalate "," (compactFields fs) ++ "\x7d"
  | v => writeScalar v

def compactItems : List Json → List String
  | [] => []
  | v :: rest => compact v :: compactItems rest

def compactFields : List (String × Json) → List String
  | [] => []
  | (k, v) :: rest => (writeString k ++ ":" ++ compact v) :: compactFields rest

end

def newLine (level : Nat) : String := "\n" ++ String.ofList (List.replicate (2 * level) ' ')

/-- Written parts between brackets, each on a line of its own. -/
def block (level : Nat) (opening closing : String) (parts : List String) : String :=
  if parts.isEmpty then opening ++ closing
  else
    opening ++ newLine (level + 1) ++ String.intercalate ("," ++ newLine (level + 1)) parts
      ++ newLine level ++ closing

mutual

/-- A value whose first line stands on a line of the given level. -/
def indented (level : Nat) : Json → String
  | array items => block level "[" "]" (indentedItems (level + 1) items)
  | object fs => block level "\x7b" "\x7d" (indentedFields (level + 1) fs)
  | v => writeScalar v

def indentedItems (level : Nat) : List Json → List String
  | [] => []
  | v :: rest => indented level v :: indentedItems level rest

def indentedFields (level : Nat) : List (String × Json) → List String
  | [] => []
  | (k, v) :: rest => (writeString k ++ ": " ++ indented level v) :: indentedFields level rest

end

def pretty (v : Json) : String := indented 0 v

end Json

end FlexLayout
