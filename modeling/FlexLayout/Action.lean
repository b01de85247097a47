import FlexLayout.Json.Record

/-!
# Actions

What an author attaches to a component for a tap, carried through to the host untouched, and
what a host without a dispatcher does instead.
-/

namespace FlexLayout

/-- Other addresses for particular hosts. -/
structure AltUri where
  desktop : Option String
  deriving DecidableEq, Repr

inductive Action where
  | uri (label : Option String) (address : String) (altUri : Option AltUri)
  | message (label : Option String) (text : String)
  | postback (label : Option String) (data : String) (displayText : Option String)
  deriving DecidableEq, Repr

namespace AltUri

def ofJson? (v : Json) : Option AltUri := do
  let r ← (← v.parts?).record? ["desktop"]
  some ⟨← r.defaulted "desktop" Json.text?⟩

def toJson (a : AltUri) : Json :=
  .object (a.desktop.toList.map fun s => ("desktop", .string s))

end AltUri

namespace Action

def kind : Action → String
  | uri .. => "uri"
  | message .. => "message"
  | postback .. => "postback"

def label : Action → Option String
  | uri label _ _ => label
  | message label _ => label
  | postback label _ _ => label

/-- The kinds of actions, in the order of their numbers. -/
def kinds : List String := ["uri", "message", "postback"]

def ofJson? (d : Dialect) (v : Json) : Option Action := do
  let (tag, parts) ← (← v.parts?).tagged?
  match ← d.case? kinds tag with
  | "uri" =>
    let r ← parts.record? ["label", "uri", "altUri"]
    some (.uri (← r.defaulted "label" Json.text?) (← r.required "uri" Json.text?)
      (← r.defaulted "altUri" AltUri.ofJson?))
  | "message" =>
    let r ← parts.record? ["label", "text"]
    some (.message (← r.defaulted "label" Json.text?) (← r.required "text" Json.text?))
  | "postback" =>
    let r ← parts.record? ["label", "data", "displayText"]
    some (.postback (← r.defaulted "label" Json.text?) (← r.required "data" Json.text?)
      (← r.defaulted "displayText" Json.text?))
  | _ => none

/-- A field that is left out when it is absent. -/
def optionalField {α : Type} (name : String) (f : α → Json) (a : Option α) :
    List (String × Json) :=
  a.toList.map fun a => (name, f a)

def toJson (a : Action) : Json :=
  .object (("type", .string a.kind) :: match a with
    | uri label address altUri =>
      optionalField "label" .string label ++ [("uri", .string address)]
        ++ optionalField "altUri" AltUri.toJson altUri
    | message label text => optionalField "label" .string label ++ [("text", .string text)]
    | postback label data displayText =>
      optionalField "label" .string label ++ [("data", .string data)]
        ++ optionalField "displayText" .string displayText)

/-- What a host does for an action that no dispatcher took. -/
inductive Effect where
  | openExternal (address : String)
  | notify (text : String)
  deriving DecidableEq, Repr

def Effect.toJson : Effect → Json
  | openExternal address => .object [("OpenExternal", .object [("uri", .string address)])]
  | notify text => .object [("Notify", .object [("text", .string text)])]

def fallback : Action → Effect
  | uri _ address _ => .openExternal address
  | message _ text => .notify ("Message: " ++ text)
  | postback _ data _ => .notify ("Postback: " ++ data)

end Action

/-- The outcome of a tap: the actions that the dispatcher received, and the effect left to the
host. -/
structure Activation where
  received : List Action
  effect : Option Action.Effect
  deriving DecidableEq, Repr

/-- A tap on something that may carry an action. A dispatcher takes every action; without one the
host falls back. -/
def activate (action : Option Action) (dispatcher : Bool) : Activation :=
  match action with
  | none => ⟨[], none⟩
  | some a => if dispatcher then ⟨[a], none⟩ else ⟨[], some a.fallback⟩

end FlexLayout
