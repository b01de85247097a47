import FlexLayout.Json.Token

/-!
# Reading a value

The tokens of a text are folded into a value on a stack of open arrays and objects, so that a
text nested too deeply is refused as soon as it opens one container too many. A reader that asks
for some fields of the outermost object only has the others skipped: what stands in a skipped
field is held to the grammar, but not to the limits on depth, numbers and surrogates.
-/

namespace FlexLayout.Json

/-- The greatest number of arrays and objects that may stand in each other. -/
def maxNesting : Nat := 127

/-- An open container with what it holds so far, last first. An object remembers the name whose
value is being read. -/
inductive Frame where
  | array (items : List Json)
  | object (fields : List (String × Json)) (name : Option String)

/-- What may come next. -/
inductive Expected where
  | value
  | valueOrEnd
  | name
  | nameOrEnd
  | colon
  | commaOrEnd
  | nothing (v : Json)

structure Reader where
  stack : List Frame
  next : Expected

namespace Reader

def start : Reader := ⟨[], .value⟩

/-- Whether the reader stands in a field of the outermost object that nobody asks for. -/
def skips (keep : String → Bool) (r : Reader) : Bool :=
  match r.stack.getLast? with
  | some (.object _ (some name)) => !keep name
  | _ => false

/-- Puts a finished value in its place. -/
def put (v : Json) : List Frame → Option Reader
  | [] => some ⟨[], .nothing v⟩
  | .array items :: rest => some ⟨.array (v :: items) :: rest, .commaOrEnd⟩
  | .object fs (some name) :: rest => some ⟨.object ((name, v) :: fs) none :: rest, .commaOrEnd⟩
  | .object _ none :: _ => none

/-- Closes the innermost container. -/
def close (bracket : Token) : List Frame → Option Reader
  | .array items :: rest => if bracket = .closeArray then put (.array items.reverse) rest else none
  | .object fs _ :: rest => if bracket = .closeObject then put (.object fs.reverse) rest else none
  | [] => none

/-- A token where a value is expected. -/
def value (lax : Bool) (stack : List Frame) : Token → Option Reader
  | .null => put .null stack
  | .bool b => put (.bool b) stack
  | .numeral n => match n.value? with
    | some x => put (.number x) stack
    | none => if lax then put .null stack else none
  | .string (some s) => put (.string s) stack
  | .string none => if lax then put .null stack else none
  | .openArray =>
    if lax || stack.length < maxNesting then some ⟨.array [] :: stack, .valueOrEnd⟩ else none
  | .openObject =>
    if lax || stack.length < maxNesting then some ⟨.object [] none :: stack, .nameOrEnd⟩ else none
  | _ => none

/-- A token where the name of a field is expected. -/
def name (lax : Bool) : List Frame → Token → Option Reader
  | .object fs _ :: rest, .string (some s) => some ⟨.object fs (some s) :: rest, .colon⟩
  | .object fs _ :: rest, .string none =>
    if lax then some ⟨.object fs (some "") :: rest, .colon⟩ else none
  | _, _ => none

/-- What follows a comma. -/
def another : List Frame → Option Reader
  | .array items :: rest => some ⟨.array items :: rest, .value⟩
  | .object fs n :: rest => some ⟨.object fs n :: rest, .name⟩
  | [] => none

def step (keep : String → Bool) (r : Reader) (t : Token) : Option Reader :=
  let lax := r.skips keep
  match r.next with
  | .value => value lax r.stack t
  | .valueOrEnd => if t = .closeArray then close t r.stack else value lax r.stack t
  | .name => name lax r.stack t
  | .nameOrEnd => if t = .closeObject then close t r.stack else name lax r.stack t
  | .colon => if t = .colon then some ⟨r.stack, .value⟩ else none
  | .commaOrEnd => if t = .comma then another r.stack else close t r.stack
  | .nothing _ => none

/-- The value, once nothing more is expected. -/
def finish (r : Reader) : Option Json :=
  match r.next with
  | .nothing v => some v
  | _ => none

end Reader

/-- The value that tokens write. -/
def ofTokens? (keep : String → Bool) (ts : List Token) : Option Json :=
  (ts.foldlM (Reader.step keep) Reader.start).bind Reader.finish

/-- Reads a text of which, if it is an object, only the fields in `names` are asked for. -/
def readFields? (names : List String) (s : String) : Option Json :=
  (Token.scan s.toList).bind (ofTokens? names.contains)

/-- Reads a text as a value with unique, sorted fields. -/
def read? (s : String) : Option Json :=
  ((Token.scan s.toList).bind (ofTokens? fun _ => true)).map canonical

end FlexLayout.Json
