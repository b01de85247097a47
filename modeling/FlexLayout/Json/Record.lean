import FlexLayout.Json.Basic

/-!
# Records, cases and words

How structured data stand in JSON. A record is an object with named fields, or an array that
lists its fields in their fixed order. A case is a record with its name in front, under the
field `type` or as the first item. A word is a string, or an object whose only field has that
name and carries nothing.

The readers work on any annotation of JSON values, so that a tree can be read from the leaves up.
-/

namespace FlexLayout

/-- The two places where structured data stand. Written trees allow two spellings more than
documents: `{}` for a payload that carries nothing, and a case by its number. -/
inductive Dialect where
  | document
  | tree
  deriving DecidableEq, Repr

def Dialect.carriesNothing : Dialect → Json → Bool
  | _, .null => true
  | .tree, .object [] => true
  | _, _ => false

/-- The name of a case among `cases`, as a string or, in a tree, by its number. -/
def Dialect.case? (d : Dialect) (cases : List String) : Json → Option String
  | .string s => some s
  | .number (.int (.ofNat n)) => if d = .tree then cases[n]? else none
  | _ => none

/-- A value that has a JSON value underneath. -/
class Annotated (α : Type) where
  json : α → Json

instance : Annotated Json := ⟨id⟩

/-- What a record was given for one of its fields. -/
inductive Slot (α : Type) where
  | given (a : α)
  /-- An object without the field. -/
  | omitted
  /-- An array that ends before the field. -/
  | cut

/-- The fields of a record, in their fixed order. -/
abbrev Record (α : Type) := List (String × Slot α)

/-- The parts of an object or an array. -/
inductive Parts (α : Type) where
  | fields (fs : List (String × α))
  | items (xs : List α)

namespace Parts

variable {α : Type}

/-- The slot of one field among written fields; none if it is written twice. -/
def slot? (name : String) (fs : List (String × α)) : Option (Slot α) :=
  match fs.filter fun f => f.1 == name with
  | [] => some .omitted
  | [(_, a)] => some (.given a)
  | _ => none

/-- Lays items out over fields; none if items are left over. -/
def layOut : List String → List α → Option (Record α)
  | [], [] => some []
  | [], _ :: _ => none
  | name :: names, [] => (layOut names []).map ((name, .cut) :: ·)
  | name :: names, a :: rest => (layOut names rest).map ((name, .given a) :: ·)

/-- The record with the given field names. -/
def record? (names : List String) : Parts α → Option (Record α)
  | fields fs => names.mapM fun name => (slot? name fs).map (name, ·)
  | items xs => layOut names xs

/-- The name of a case, and the parts of its record. -/
def tagged? : Parts α → Option (α × Parts α)
  | fields fs =>
    match fs.filter fun f => f.1 == "type" with
    | [(_, tag)] => some (tag, fields (fs.filter fun f => f.1 != "type"))
    | _ => none
  | items (tag :: rest) => some (tag, items rest)
  | items [] => none

end Parts

/-- The parts of a value that has any. -/
def Json.parts? : Json → Option (Parts Json)
  | .object fs => some (.fields fs)
  | .array items => some (.items items)
  | _ => none

namespace Record

variable {α β : Type} [Annotated α]

def slot (r : Record α) (name : String) : Slot α := (r.lookup name).getD .omitted

/-- A field that has to be there. -/
def required (r : Record α) (name : String) (read : α → Option β) : Option β :=
  match r.slot name with
  | .given a => read a
  | _ => none

/-- A field that may be `null`, and that an object may leave out. -/
def optional (r : Record α) (name : String) (read : α → Option β) : Option (Option β) :=
  match r.slot name with
  | .given a => match Annotated.json a with
    | .null => some none
    | _ => (read a).map some
  | .omitted => some none
  | .cut => none

/-- A field that may be `null`, and that an object or an array may leave out. -/
def defaulted (r : Record α) (name : String) (read : α → Option β) : Option (Option β) :=
  match r.slot name with
  | .cut => some none
  | _ => r.optional name read

/-- A field that counts as absent unless it can be read. -/
def lenient (r : Record α) (name : String) (read : α → Option β) : Option β :=
  match r.slot name with
  | .given a => read a
  | _ => none

end Record

/-- A closed vocabulary. -/
class Keyword (α : Type) where
  all : List α
  word : α → String

namespace Keyword

variable {α : Type} [Keyword α]

def ofWord? (s : String) : Option α := (all : List α).find? fun a => word a == s

/-- Reads a word. -/
def ofJson? (d : Dialect) : Json → Option α
  | .string s => ofWord? s
  | .object [(s, payload)] => if d.carriesNothing payload then ofWord? s else none
  | _ => none

def toJson (a : α) : Json := .string (word a)

/-- The word with a capital letter in front. -/
def title (a : α) : String := (word a).capitalize

end Keyword

end FlexLayout
