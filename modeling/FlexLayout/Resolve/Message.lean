import FlexLayout.Json.Reading
import FlexLayout.Resolve.Bubble

/-!
# Messages

The whole way from a document to its tree.
-/

namespace FlexLayout.Resolve

/-- Resolves a message whose envelope is in order. -/
def message (p : Policy) (m : Document.Message) : Run Tree.Message := do
  Run.emit (.message m.altText m.contents.kind)
  let contents ← container p m.contents
  pure ⟨m.altText, contents⟩

/-- Resolves a JSON value. -/
def json (p : Policy) (v : Json) : Run Tree.Message :=
  match Document.Message.ofJson v with
  | .ok m => message p m
  | .error fault => Run.fail (.envelope fault)

/-- Resolves a text. -/
def text? (p : Policy) (s : String) : Run Tree.Message :=
  match Json.read? s with
  | some v => json p v
  | none => Run.fail .malformed

end FlexLayout.Resolve
