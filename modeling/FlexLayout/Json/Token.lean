import FlexLayout.Json.Numeral

/-!
# Tokens of JSON text

The characters of a text are folded into tokens. A string token keeps its text apart from its
form: a string whose escapes name half of a surrogate pair is well formed but has no text.
-/

namespace FlexLayout.Json

/-- A part of a string as written: a character, or a 16-bit unit in hexadecimal digits. -/
inductive Piece where
  | char (c : Char)
  | unit (n : Nat)
  deriving DecidableEq, Repr

inductive Token where
  | openObject | closeObject | openArray | closeArray | colon | comma
  | null
  | bool (b : Bool)
  | numeral (n : Numeral)
  | string (s : Option String)
  deriving DecidableEq, Repr

def isHighSurrogate (n : Nat) : Bool := 0xd800 ≤ n && n < 0xdc00
def isLowSurrogate (n : Nat) : Bool := 0xdc00 ≤ n && n < 0xe000

/-- The character of a surrogate pair. -/
def ofSurrogates (high low : Nat) : Char :=
  Char.ofNat (0x10000 + (high - 0xd800) * 0x400 + (low - 0xdc00))

/-- The characters that pieces write; none if a surrogate stands alone. -/
def joinPieces : List Piece → Option (List Char)
  | [] => some []
  | .char c :: rest => (joinPieces rest).map (c :: ·)
  | .unit high :: .unit low :: rest =>
    if isHighSurrogate high && isLowSurrogate low then
      (joinPieces rest).map (ofSurrogates high low :: ·)
    else if isHighSurrogate high || isLowSurrogate high then none
    else (joinPieces (.unit low :: rest)).map (Char.ofNat high :: ·)
  | .unit n :: rest =>
    if isHighSurrogate n || isLowSurrogate n then none
    else (joinPieces rest).map (Char.ofNat n :: ·)

namespace Token

/-- Where the reading stands: between tokens, in a word, or at some place in a string. Letters
and pieces are kept last first. -/
inductive Mode where
  | between
  | word (letters : List Char)
  | text (pieces : List Piece)
  | escape (pieces : List Piece)
  | unit (pieces : List Piece) (digits : Nat) (value : Nat)

def isSpace (c : Char) : Bool := c = ' ' || c = '\t' || c = '\n' || c = '\r'

/-- The characters of literals and numerals. -/
def isWordChar (c : Char) : Bool := c.isAlphanum || c = '-' || c = '+' || c = '.'

def ofWord? (cs : List Char) : Option Token :=
  if cs = ['n', 'u', 'l', 'l'] then some .null
  else if cs = ['t', 'r', 'u', 'e'] then some (.bool true)
  else if cs = ['f', 'a', 'l', 's', 'e'] then some (.bool false)
  else (Numeral.ofWord? cs).map .numeral

def ofPunctuation? (c : Char) : Option Token :=
  match c with
  | '\x7b' => some .openObject
  | '\x7d' => some .closeObject
  | '[' => some .openArray
  | ']' => some .closeArray
  | ':' => some .colon
  | ',' => some .comma
  | _ => none

/-- The character that a one-letter escape stands for. -/
def ofEscape? (c : Char) : Option Char :=
  match c with
  | '"' => some '"'
  | '\\' => some '\\'
  | '/' => some '/'
  | 'b' => some '\x08'
  | 'f' => some '\x0c'
  | 'n' => some '\n'
  | 'r' => some '\r'
  | 't' => some '\t'
  | _ => none

def hexDigit? (c : Char) : Option Nat :=
  if c.isDigit then some (c.toNat - '0'.toNat)
  else if 'a' ≤ c ∧ c ≤ 'f' then some (c.toNat - 'a'.toNat + 10)
  else if 'A' ≤ c ∧ c ≤ 'F' then some (c.toNat - 'A'.toNat + 10)
  else none

/-- The tokens read so far, last first, and the mode. -/
abbrev State := Mode × List Token

def start : State := (.between, [])

/-- One character between tokens. -/
def begin (read : List Token) (c : Char) : Option State :=
  if isSpace c then some (.between, read)
  else if c = '"' then some (.text [], read)
  else if isWordChar c then some (.word [c], read)
  else (ofPunctuation? c).map fun t => (.between, t :: read)

def step : State → Char → Option State
  | (.between, read), c => begin read c
  | (.word letters, read), c =>
    if isWordChar c then some (.word (c :: letters), read)
    else (ofWord? letters.reverse).bind fun t => begin (t :: read) c
  | (.text pieces, read), c =>
    if c = '"' then
      some (.between, .string ((joinPieces pieces.reverse).map String.ofList) :: read)
    else if c = '\\' then some (.escape pieces, read)
    else if c < ' ' then none
    else some (.text (.char c :: pieces), read)
  | (.escape pieces, read), c =>
    if c = 'u' then some (.unit pieces 0 0, read)
    else (ofEscape? c).map fun e => (.text (.char e :: pieces), read)
  | (.unit pieces digits value, read), c =>
    (hexDigit? c).map fun d =>
      let value := 16 * value + d
      if digits = 3 then (.text (.unit value :: pieces), read)
      else (.unit pieces (digits + 1) value, read)

/-- The tokens at the end of the text. -/
def finish : State → Option (List Token)
  | (.between, read) => some read.reverse
  | (.word letters, read) => (ofWord? letters.reverse).map fun t => (t :: read).reverse
  | _ => none

def scan (cs : List Char) : Option (List Token) := (cs.foldlM step start).bind finish

end Token

end FlexLayout.Json
