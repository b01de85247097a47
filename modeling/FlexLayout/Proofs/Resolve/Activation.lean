import FlexLayout.Proofs.Document.Action
import FlexLayout.Proofs.Resolve.Alignment

/-!
# Actions on the way to the host

An action passes through resolution untouched. Every node that can be tapped, and every bubble,
carries the action that its author wrote on it, and no other node carries any; a tap hands that
very action to the dispatcher, or else falls back on it. `json_actions` says this of every tree,
and that an action keeps its fields when it is written again.
-/

namespace FlexLayout.Resolve

open FlexLayout.Document (Component)
open FlexLayout.Tree (Node Child)

/-! ## Taps -/

/-- What a tap does on something that carries the action `carried`: a dispatcher is called once,
with that action, and nothing is left to the host; without one the host falls back on the action.
Without an action nothing happens. -/
structure Tapped (carried : Option Action) (tap : Bool → Activation) : Prop where
  dispatched : ∀ a, carried = some a → tap true = ⟨[a], none⟩
  fallback : ∀ a, carried = some a → tap false = ⟨[], some a.fallback⟩
  idle : carried = none → ∀ dispatcher, tap dispatcher = ⟨[], none⟩

theorem tapped_activate (carried : Option Action) : Tapped carried (activate carried) where
  dispatched a h := by
    rw [h]
    rfl
  fallback a h := by
    rw [h]
    rfl
  idle h dispatcher := by
    rw [h]
    rfl

/-! ## Nodes -/

/-- The kinds of components that can be tapped. -/
def tappable : List Kind := [.box, .button, .image, .text, .video]

/-- The action that an author wrote on a value; none if it is missing or cannot be read. -/
def writtenAction (w : Json) : Option Action :=
  (w.field? "action").bind (Action.ofJson? .document)

/-- What a node that stands for `w` has of its action. -/
structure Interactive (w : Json) (m : Node) : Prop where
  kind : w.kind? = some m.kind
  action : m.kind ∈ tappable → m.action = writtenAction w
  inert : m.kind ∉ tappable → m.action = none
  tapped : Tapped m.action m.activate

theorem interactive_of_action {w : Json} {m : Node} (hkind : w.kind? = some m.kind)
    (h : m.action = if m.kind ∈ tappable then writtenAction w else none) : Interactive w m := by
  refine ⟨hkind, ?_, ?_, tapped_activate m.action⟩
  · intro hmem
    rw [h, if_pos hmem]
  · intro hmem
    rw [h, if_neg hmem]

/-- The node of every value carries what is written on it. -/
theorem interactive_nodeOf {axis : Layout} {w : Json} {n : Node}
    (h : nodeOf axis (.ofJson w) = some n) : Interactive w n := by
  apply interactive_of_action (resolves_of_nodeOf h).1
  rw [Component.ofJson_eq] at h
  rcases hk : w.kind? with _ | k
  · rw [hk] at h
    cases h
  · rw [hk] at h
    cases k with
    | video =>
      rw [nodeOf_video] at h
      cases h
      rfl
    | _ =>
      cases h
      rfl

/-- So does the root of a section. -/
theorem interactive_of_rootOf {w : Json} {n : Node} (h : RootOf w n) : Interactive w n := by
  rcases h with h | ⟨hk, d, rfl⟩
  · exact interactive_nodeOf h
  · exact interactive_of_action hk rfl

/-! ## Bubbles -/

/-- What a bubble that stands for `v` has of its action, and its nodes of theirs. -/
structure BubbleInteractive (v : Json) (b : Tree.Bubble) : Prop where
  action : b.action = writtenAction v
  tapped : Tapped b.action b.activate
  /-- Every node of a section stands for a value in the slot of the section, and carries what is
  written on it. -/
  nodes : ∀ name sec, (name, sec) ∈ b.sections → ∃ w, v.slot? name = some w ∧
    (∀ m, Under sec.content m → ∃ x, Inside w sec.content x m) ∧
      ∀ x m, Inside w sec.content x m → Interactive x m

theorem bubbleInteractive_bubbleOf (v : Json) :
    BubbleInteractive v (bubbleOf (.ofFields v.fields)) where
  action := rfl
  tapped := tapped_activate _
  nodes name sec h := by
    obtain ⟨w, hw, hfounded, hroot⟩ := exists_root h
    refine ⟨w, hw, fun m hm => hfounded.exists_inside hm, fun x m hx => ?_⟩
    exact hfounded.forall_inside (interactive_of_rootOf hroot)
      (fun _ _ _ => interactive_nodeOf) hx

/-! ## Documents -/

/-- **Actions.** In the tree of every document, whatever the policy, every bubble and every node of
a kind that can be tapped carries the action that is written on it, and no other node carries any.
A tap hands that action to the dispatcher or falls back on it. An action that is read from an
object is written with the fields that its kind knows and that are not `null`, each with its value,
and is read from them again. -/
theorem json_actions (p : Policy) (v : Json) (t : Tree.Message)
    (h : (json p v).result = .ok t) :
    (∃ c, v.field? "contents" = some c ∧
      List.Forall₂ BubbleInteractive c.bubbles t.bubbles) ∧
    ∀ fs a, Action.ofJson? .document (.object fs) = some a → Action.AltUriIsObject fs →
      (∃ gs, a.toJson = .object gs ∧ gs.Perm (a.kept fs)) ∧
        Action.ofJson? .document a.toJson = some a := by
  refine ⟨forall₂_bubbles h bubbleInteractive_bubbleOf, fun fs a ha halt => ?_⟩
  exact ⟨⟨_, rfl, (Action.perm_kept_fields ha halt).symm⟩, (a.faithful .document).read_write⟩

/-- The fields of an action with a label that is `null` and with fields that nobody knows. -/
def link : List (String × Json) := [
  ("altUri", .object [("desktop", .string "d"), ("phone", .string "p")]),
  ("label", .null), ("color", .string "red"), ("uri", .string "u"), ("type", .string "uri")]

/-- A bubble with actions on itself, on its body and on an icon, which ignores its own. -/
def touchable : Json :=
  let typed (kind : String) (fs : List (String × Json)) : Json :=
    .object (("type", .string kind) :: fs)
  typed "flex" [("contents", typed "bubble" [
    ("action", .array [.string "message", .null, .string "hello"]),
    ("body", typed "box" [("action", .object link),
      ("contents", .array [typed "icon" [("action", .object link)]])])])]

theorem json_actions_touchable :
    (∃ t, (json .skip touchable).result = .ok t ∧
      t.bubbles.map Tree.Bubble.action = [some (.message none "hello")] ∧
      ∃ c, touchable.field? "contents" = some c ∧
        List.Forall₂ BubbleInteractive c.bubbles t.bubbles) ∧
      ∃ a, Action.ofJson? .document (.object link) = some a ∧ Action.AltUriIsObject link ∧
        ∃ gs, a.toJson = .object gs ∧ gs.Perm [
          ("altUri", .object [("desktop", .string "d")]), ("uri", .string "u"),
          ("type", .string "uri")] := by
  obtain ⟨m, hm⟩ : ∃ m, Document.Message.ofJson touchable = .ok m := ⟨_, rfl⟩
  have h : (json .skip touchable).result = .ok (treeOf m) := json_skip_result hm
  obtain ⟨hnodes, hwritten⟩ := json_actions .skip touchable (treeOf m) h
  have hbubbles : (treeOf m).bubbles.map Tree.Bubble.action = [some (.message none "hello")] := by
    cases hm
    rfl
  have halt : Action.AltUriIsObject link := by
    intro u hu
    cases hu
    rfl
  have ha : Action.ofJson? .document (.object link) = some (.uri none "u" (some ⟨some "d"⟩)) := rfl
  exact ⟨⟨treeOf m, h, hbubbles, hnodes⟩, _, ha, halt, (hwritten link _ ha halt).1⟩

end FlexLayout.Resolve
