import FlexLayout.Document.Bubble
import FlexLayout.Json.Writing

/-!
# Messages

The envelope of a document is the only part that is held to its form: the alternative text has to
be a string, the type has to be `flex`, and the contents have to be a bubble or a carousel.
-/

namespace FlexLayout

namespace Json

/-- The kind under a `type`: its string, or the text of whatever else stands there. -/
def discriminant : Option Json → String
  | some (.string s) => s
  | none | some .null => Document.missingKind
  | some v => v.canonical.compact

/-- A value described by its shape. -/
def describe : Json → String
  | null => "null"
  | bool b => "boolean `" ++ (if b then "true" else "false") ++ "`"
  | number (.int n) => "integer `" ++ writeNumber (.int n) ++ "`"
  | number (.float x) => "floating point `" ++ writeNumber (.float x) ++ "`"
  | string s => "string " ++ writeString s
  | array _ => "sequence"
  | object _ => "map"

end Json

namespace Document

/-- What is wrong with an envelope. -/
inductive Fault where
  | altText (found : Json)
  | messageType (found : String)
  | contentsType (found : String)

def Fault.message : Fault → String
  | altText found =>
    "Failed to parse flex message JSON: invalid type: " ++ found.describe ++ ", expected a string"
  | messageType found =>
    "Invalid message type: expected 'flex', but received '" ++ found
      ++ "'. Only Flex Message documents can be resolved"
  | contentsType found =>
    "Invalid contents type: expected 'bubble' or 'carousel', but received '" ++ found ++ "'"

structure Message where
  altText : String
  contents : Container

namespace Entry

def kind : Entry → String
  | bubble _ => "bubble"
  | unknown kind => kind

def ofJson (v : Json) : Entry :=
  match Json.discriminant (v.field? "type") with
  | "bubble" => bubble (.ofFields v.fields)
  | kind => unknown kind

end Entry

namespace Container

def kind : Container → String
  | bubble _ => "bubble"
  | carousel _ => "carousel"

/-- Reads a container. Only its kind can be wrong. -/
def ofJson (v : Json) : Except Fault Container :=
  match Json.discriminant (v.field? "type") with
  | "bubble" => .ok (bubble (.ofFields v.fields))
  | "carousel" =>
    .ok (carousel (((v.field? "contents").bind Json.items?).getD [] |>.map Entry.ofJson))
  | found => .error (.contentsType found)

end Container

namespace Message

/-- The alternative text, empty if there is none. -/
def altTextOf (v : Json) : Except Fault String :=
  match v.field? "altText" with
  | none => .ok ""
  | some (.string s) => .ok s
  | some found => .error (.altText found)

/-- Reads a message. The alternative text is looked at before the type, and the type before the
contents. -/
def ofJson (v : Json) : Except Fault Message :=
  if v.isObject then do
    let altText ← altTextOf v
    match Json.discriminant (v.field? "type") with
    | "flex" => return ⟨altText, ← Container.ofJson ((v.field? "contents").getD .null)⟩
    | found => throw (.messageType found)
  else .error (.messageType missingKind)

end Message

end Document

end FlexLayout
