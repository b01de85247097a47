import FlexLayout.Proofs.Document.PathText
import FlexLayout.Proofs.Resolve.Unplaced

/-!
# What a context hands down

A context carries the axis and the spacing of the parent, the size of the bubble and the path of
the component. Only one bit of it reaches the node of the component: whether the parent is
vertical. The path reaches nothing but the log and the failure, where it stands in front of a path
that the component alone decides (`unplaced_eq_atPath`). Below a box even the axis is that of the
box, so nothing of the context of a box gets to its children.
-/

namespace FlexLayout

open FlexLayout.Document (Component)

namespace Resolve

open FlexLayout.Document (atPath)
open FlexLayout.Tree (Node Child)

/-! ## Nodes -/

theorem spacingSide_congr {a b : Layout} (h : a = .vertical ↔ b = .vertical) :
    a.spacingSide = b.spacingSide := by
  cases a <;> cases b <;> first | rfl | simp at h

theorem ruleOrientation_congr {a b : Layout} (h : a = .vertical ↔ b = .vertical) :
    a.ruleOrientation = b.ruleOrientation := by
  cases a <;> cases b <;> first | rfl | simp at h

/-- A node depends on the axis of its parent only in so far as it is vertical or not. -/
theorem nodeOf_congr {a b : Layout} (h : a = .vertical ↔ b = .vertical) (x : Component) :
    nodeOf a x = nodeOf b x := by
  cases x with
  | separator s =>
    rw [nodeOf, nodeOf, separator, separator, spacingSide_congr h, ruleOrientation_congr h]
  | text t contents => rw [nodeOf, nodeOf, textOf, textOf, spacingSide_congr h]
  | video v alt => cases alt <;> rfl
  | _ => rfl

/-! ## Results at two paths -/

/-- Results at two paths that agree: the same value, or failures for the same component, found at
the same path below either. -/
inductive Agrees {α : Type} (p q : Path) : Except Failure α → Except Failure α → Prop where
  | ok (a : α) : Agrees p q (.ok a) (.ok a)
  | unknown (kind : String) (below : Path) :
    Agrees p q (.error (.unknownComponent kind (p ++ below)))
      (.error (.unknownComponent kind (q ++ below)))

/-- Runs that come to the same value and leave out the same components, at two paths, agree. -/
theorem Yields.agrees {α : Type} {r s : Policy → Run α} {p q : Path} {us : List (String × Path)}
    {a : α} (hr : Yields r (atPath p us) a) (hs : Yields s (atPath q us) a) (policy : Policy) :
    Agrees p q (r policy).result (s policy).result := by
  rw [hr.result_eq policy, hs.result_eq policy]
  cases policy with
  | skip => exact .ok a
  | reject =>
    rcases us with _ | ⟨⟨kind, below⟩, rest⟩
    · exact .ok a
    · exact .unknown kind below

theorem component_agrees {c d : Context} (h : c.axis = .vertical ↔ d.axis = .vertical)
    (x : Component) (p : Policy) :
    Agrees c.path d.path (component p c x).result (component p d x).result := by
  have hc := yields_component c x
  have hd := yields_component d x
  rw [Component.unplaced_eq_atPath, nodeOf_congr h] at hc
  rw [Component.unplaced_eq_atPath] at hd
  exact hc.agrees hd p

theorem children_agrees (c d : Context) (layout : Layout) (spacing : Option String)
    (contents : List Component) (p : Policy) :
    Agrees c.path d.path (children p (c.inside layout spacing) 0 contents).result
      (children p (d.inside layout spacing) 0 contents).result := by
  have hc := yields_children (c.inside layout spacing) 0 contents
  have hd := yields_children (d.inside layout spacing) 0 contents
  rw [Component.unplacedFrom_eq_atPath] at hc hd
  exact hc.agrees hd p

/-- **Noninterference.** Take a component in two contexts whose parents are both vertical or both
not, with any spacings, sizes and paths. Skipping comes to the same node in both, and rejecting
comes to the same node or fails for the same component, with the paths of the contexts followed by
one and the same suffix. The children of a box agree in any two contexts of the box. -/
theorem component_noninterference (c d : Context) (x : Component)
    (h : c.axis = .vertical ↔ d.axis = .vertical) :
    (∃ n, (component .skip c x).result = .ok n ∧ (component .skip d x).result = .ok n) ∧
      Agrees c.path d.path (component .reject c x).result (component .reject d x).result ∧
      (∀ below : Path, ∃ s, (c.path ≠ [] → (c.path ++ below).text = c.path.text ++ s) ∧
        (d.path ≠ [] → (d.path ++ below).text = d.path.text ++ s)) ∧
      ∀ (c' d' : Context) (layout : Layout) (spacing : Option String) (contents : List Component)
        (p : Policy), Agrees c'.path d'.path
          (children p (c'.inside layout spacing) 0 contents).result
          (children p (d'.inside layout spacing) 0 contents).result := by
  refine ⟨⟨nodeOf c.axis x, ?_, ?_⟩, component_agrees h x .reject, fun below => ?_,
    children_agrees⟩
  · exact (yields_component c x).skip_result
  · rw [nodeOf_congr h]
    exact (yields_component d x).skip_result
  · exact ⟨below.suffix, fun hc => Path.text_append hc below, fun hd => Path.text_append hd below⟩

/-- A box with an unknown component, below a horizontal and below a baseline parent in bubbles of
different sizes. -/
theorem component_noninterference_table :
    (Layout.horizontal = .vertical ↔ Layout.baseline = .vertical) ∧
      Agrees [⟨"body", none⟩] [⟨"header", none⟩]
        (component .reject ⟨.horizontal, some "md", .nano, [⟨"body", none⟩]⟩
          (.box {} [.separator {}, .unknown "table"])).result
        (component .reject ⟨.baseline, none, .giga, [⟨"header", none⟩]⟩
          (.box {} [.separator {}, .unknown "table"])).result ∧
      (component .reject ⟨.baseline, none, .giga, [⟨"header", none⟩]⟩
        (.box {} [.separator {}, .unknown "table"])).result =
          .error (.unknownComponent "table" [⟨"header", none⟩, ⟨"contents", some 1⟩]) := by
  have haxis : Layout.horizontal = .vertical ↔ Layout.baseline = .vertical := by decide
  have h := component_noninterference ⟨.horizontal, some "md", .nano, [⟨"body", none⟩]⟩
    ⟨.baseline, none, .giga, [⟨"header", none⟩]⟩ (.box {} [.separator {}, .unknown "table"]) haxis
  exact ⟨haxis, h.2.1, rfl⟩

end Resolve

end FlexLayout
