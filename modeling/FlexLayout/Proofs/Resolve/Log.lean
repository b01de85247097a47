import FlexLayout.Proofs.Document.Visit
import FlexLayout.Proofs.Resolve.Address
import FlexLayout.Proofs.Resolve.Scan

/-!
# The log of a run

What skipping writes to the log follows the walk through the document: each visit adds the entries
that `Visit.events` lists, and nothing else is written but the entry for the message in front
(`log_message`).
-/

namespace FlexLayout

open FlexLayout.Document (Component Visit)
open FlexLayout.Resolve (Event Level StartsWith)

/-! ## What a visit writes -/

/-- The line spacing that is written on a text, if it starts with no integer. -/
def Json.looseSpacing? (v : Json) : Option String :=
  if v.kind? = some .text then
    ((v.field? "lineSpacing").bind Json.text?).filter fun s => ¬ ∃ n, StartsWith s n
  else none

namespace Document.Visit

/-- What is noted of a bubble, and of a value that the tree leaves out. -/
def note? (x : Visit) : Option Event :=
  match x.fate with
  | .bubble => some (.bubble ((Bubble.ofFields x.value.fields).size.getD .mega) x.path)
  | .ignored => some (.ignored x.kind x.path)
  | .dropped => some (.skipped x.kind x.path)
  | .node | .root | .inline => none

def warning? (x : Visit) : Option Event :=
  if x.fate = .node then x.value.looseSpacing?.map (.lineSpacing · x.path) else none

def trace? (x : Visit) : Option Event :=
  if x.fate = .node then some (.resolved x.kind x.path) else none

/-- The entry of a visit at a level. -/
def logged? (x : Visit) : Level → Option Event
  | .debug => x.note?
  | .warn => x.warning?
  | .trace => x.trace?

/-- The entries of a visit, in their order. -/
def events (x : Visit) : List Event := [Level.debug, .warn, .trace].filterMap x.logged?

end Document.Visit

namespace Resolve

namespace Run

variable {α β : Type} {r : Run α} {a : α}

theorem log_bind (h : r.result = .ok a) (f : α → Run β) : (r >>= f).log = r.log ++ (f a).log := by
  rw [bind_of_ok h]

/-- A last step that writes nothing. -/
theorem log_bind_pure (h : r.result = .ok a) (f : α → β) :
    (r >>= fun x => Pure.pure (f x)).log = r.log := by
  rw [bind_of_ok h]
  exact List.append_nil _

end Run

/-! ## Texts -/

theorem log_lineHeight (lineSpacing : Option String) (path : Path) :
    (lineHeight lineSpacing path).log =
      ((lineSpacing.filter fun s => ¬ ∃ n, StartsWith s n).map (.lineSpacing · path)).toList := by
  rcases lineSpacing with _ | s
  · rfl
  · dsimp only [lineHeight]
    rw [Option.filter_some]
    simp only [← isSome_leadingInteger?_iff]
    rcases leadingInteger? s with _ | n
    · rfl
    · rfl

/-- The entries of an item of a text. -/
theorem events_item (w : Json) (path : Path) :
    (w.met w.spanFate path).events = match w.kind? with
      | some .span => []
      | some k => [.ignored k.word path]
      | none => [.skipped (w.typeText?.getD "") path] := by
  unfold Json.met Json.spanFate
  rcases hk : w.kind? with _ | k
  · rfl
  · rw [Document.typeText_of_kind hk]
    cases k <;> rfl

theorem log_spans (path : Path) (i : Nat) (ws : List Json) :
    (spans .skip path i (ws.map .ofJson)).log =
      ((ws.zipIdx i).map fun (w, j) => w.met w.spanFate (path.item j)).flatMap Visit.events := by
  induction ws generalizing i with
  | nil => rfl
  | cons w rest ih =>
    rw [List.map_cons, List.zipIdx_cons, List.map_cons, List.flatMap_cons, ← ih (i + 1),
      events_item, Component.ofJson_eq]
    rcases w.kind? with _ | k
    · rfl
    · cases k with
      | span =>
        exact Run.log_bind_pure (yields_spans path (i + 1) _).skip_result _
      | _ => rfl

theorem log_text (t : Document.Text) (ws : List Json) (c : Context) :
    (text .skip t (ws.map .ofJson) c).log =
      (spans .skip c.path 0 (ws.map .ofJson)).log ++ (lineHeight t.lineSpacing c.path).log := by
  unfold text
  rw [Run.log_bind (yields_spans c.path 0 _).skip_result,
    Run.log_bind_pure (yields_lineHeight t.lineSpacing c.path).skip_result]

/-! ## Components -/

/-- The log of a box is that of its items. -/
theorem log_children {ws : List Json}
    (h : ∀ w ∈ ws, ∀ c : Context,
      (component .skip c (.ofJson w)).log = (w.visits c.path).flatMap Visit.events)
    (c : Context) (i : Nat) :
    (children .skip c i (ws.map .ofJson)).log =
      ((ws.zipIdx i).flatMap fun (w, j) => w.visits (c.path.item j)).flatMap Visit.events := by
  induction ws generalizing i with
  | nil => rfl
  | cons w rest ih =>
    have hw : (component .skip (c.child i) (.ofJson w)).log =
        (w.visits (c.path.item i)).flatMap Visit.events := h w List.mem_cons_self (c.child i)
    have hrest := ih (fun x hx => h x (List.mem_cons_of_mem w hx)) (i + 1)
    rw [List.zipIdx_cons, List.flatMap_cons, List.flatMap_append, ← hw, ← hrest, List.map_cons,
      children, Run.log_bind (yields_component (c.child i) _).skip_result,
      Run.log_bind (yields_children c (i + 1) _).skip_result]
    rcases nodeOf (c.child i).axis (.ofJson w) with _ | n
    · exact congrArg _ (List.append_nil _)
    · exact congrArg _ (List.append_nil _)

/-- The entries of a component that becomes a node. -/
theorem events_node {w : Json} {k : Kind} (hk : w.kind? = some k) (path : Path) :
    (w.met .node path).events =
      (w.looseSpacing?.map (.lineSpacing · path)).toList ++ [.resolved k.word path] := by
  have hwarning : (w.met .node path).warning? = w.looseSpacing?.map (.lineSpacing · path) := rfl
  have htrace : (w.met .node path).trace? = some (.resolved k.word path) := by
    unfold Json.met
    rw [Document.typeText_of_kind hk]
    rfl
  rw [← hwarning]
  show List.filterMap id [none, (w.met .node path).warning?, (w.met .node path).trace?] = _
  rw [htrace]
  cases (w.met .node path).warning? <;> rfl

/-- Only texts have line spacing. -/
theorem looseSpacing?_of_ne {w : Json} (h : w.kind? ≠ some .text) : w.looseSpacing? = none :=
  if_neg h

theorem log_component (c : Context) (w : Json) :
    (component .skip c (.ofJson w)).log = (w.visits c.path).flatMap Visit.events := by
  induction w using Json.position_induction generalizing c with
  | step w hcontents halt =>
    rw [Json.visits_eq, List.flatMap_append, List.flatMap_singleton]
    unfold Json.innerVisits
    rcases hk : w.kind? with _ | k
    · rw [Component.ofJson_eq, hk]
      rfl
    · rw [Option.isSome_some, if_pos rfl, events_node hk]
      cases k with
      | box =>
        rw [Component.ofJson_box hk, component,
          Run.log_bind (yields_children _ 0 _).skip_result, log_children hcontents,
          looseSpacing?_of_ne (by rw [hk]; decide)]
        rfl
      | text =>
        rw [Component.ofJson_text hk, component, Run.log_bind (yields_text _ _ c).skip_result,
          log_text, log_spans, log_lineHeight, List.append_assoc]
        unfold Json.looseSpacing?
        rw [if_pos hk]
        rfl
      | video =>
        rw [looseSpacing?_of_ne (by rw [hk]; decide), Component.ofJson_video hk]
        rcases hx : w.slot? "altContent" with _ | x
        · rfl
        · rw [Option.map_some, component,
            Run.log_bind (yields_component c.alt _).skip_result, halt x hx]
          rfl
      | _ =>
        rw [looseSpacing?_of_ne (by rw [hk]; decide), Component.ofJson_eq, hk]
        rfl

/-! ## Bubbles -/

theorem log_boxedSection (size : BubbleSize) (hasFooter : Bool) (s : BoxedSection)
    (color : Option String) (path : Path) (slot : Option Json) :
    (boxedSection .skip size hasFooter s color path (slot.map .ofJson)).log =
      (Json.boxedVisits path slot).flatMap Visit.events := by
  rcases slot with _ | w
  · rfl
  · unfold Json.boxedVisits Json.innerVisits
    rw [Option.map_some]
    by_cases hk : w.kind? = some .box
    · dsimp only
      rw [if_pos hk, hk, List.flatMap_append, Component.ofJson_box hk, boxedSection,
        Run.log_bind_pure (yields_children _ 0 _).skip_result,
        log_children fun w _ c => log_component c w]
      exact (List.append_nil _).symm
    · have hkind := Component.kind_ofJson w
      rw [Component.ofJson_eq] at hkind ⊢
      unfold Json.met
      dsimp only
      rw [if_neg hk, ← hkind]
      rcases hk' : w.kind? with _ | k
      · rfl
      · cases k with
        | box => exact absurd hk' hk
        | _ => rfl

theorem log_hero (size : BubbleSize) (color : Option String) (path : Path) (slot : Option Json) :
    (hero .skip size color path (slot.map .ofJson)).log =
      (Json.slotVisits path slot).flatMap Visit.events := by
  rcases slot with _ | w
  · rfl
  · have hnode := (yields_component (Context.ofSection size path) (.ofJson w)).skip_result
    rw [Option.map_some, hero, Run.log_bind_pure hnode, log_component]
    rfl

theorem log_bubble (v : Json) (path : Path) :
    (bubble .skip (.ofFields v.fields) path).log =
      (v.bubbleVisits path).flatMap Visit.events := by
  have hemit (size : BubbleSize) : (Run.emit (.bubble size path)).result = .ok () := rfl
  unfold bubble
  dsimp only
  rw [Run.log_bind (hemit _),
    Run.log_bind (yields_boxedSection _ _ .header _ (path.field "header") _).skip_result,
    Run.log_bind (yields_hero _ _ (path.field "hero") _).skip_result,
    Run.log_bind (yields_boxedSection _ _ .body _ (path.field "body") _).skip_result,
    Run.log_bind_pure (yields_boxedSection _ _ .footer _ (path.field "footer") _).skip_result]
  simp only [Document.Bubble.ofFields, Document.sectionOf_eq, log_boxedSection, log_hero]
  rw [Json.bubbleVisits_eq, List.flatMap_cons, List.flatMap_append, List.flatMap_append,
    List.flatMap_append]
  rfl

theorem log_entries (i : Nat) (ws : List Json) :
    (entries .skip i (ws.map .ofJson)).log =
      ((ws.zipIdx i).flatMap fun (w, j) => w.entryVisits j).flatMap Visit.events := by
  induction ws generalizing i with
  | nil => rfl
  | cons w rest ih =>
    rw [List.map_cons, List.zipIdx_cons, List.flatMap_cons, List.flatMap_append, ← ih (i + 1)]
    dsimp only [Json.entryVisits]
    by_cases hb : w.typeText? = some "bubble"
    · rw [if_pos hb, ← log_bubble, Document.Entry.ofJson, Json.typeText?_eq_some_iff.mp hb]
      show (bubble .skip _ (entryPath i) >>= _).log = _
      rw [Run.log_bind (yields_bubble _ (entryPath i)).skip_result,
        Run.log_bind_pure (yields_entries (i + 1) _).skip_result]
    · rw [if_neg hb]
      rcases he : Document.Entry.ofJson w with b | kind
      · exact absurd (Document.Entry.ofJson_eq_bubble he).1 hb
      · rw [← (Document.Entry.ofJson_eq_unknown he).1]
        rfl

/-! ## Documents -/

theorem log_container {c : Json} {d : Document.Container}
    (h : Document.Container.ofJson c = .ok d) :
    (container .skip d).log = c.visited.flatMap Visit.events := by
  unfold Json.visited
  rcases container_cases h with ⟨hc, rfl⟩ | ⟨hc, rfl⟩
  · rw [hc, if_neg (by decide), ← log_bubble, container,
      Run.log_bind_pure (yields_bubble _ contentsPath).skip_result]
  · rw [if_pos hc, ← log_entries, container, Run.log_bind_pure (yields_entries 0 _).skip_result]

/-- The log of a document that is resolved. -/
theorem log_message {v c : Json} {m : Document.Message} (h : Document.Message.ofJson v = .ok m)
    (hc : Document.Container.ofJson c = .ok m.contents) :
    (json .skip v).log =
      .message m.altText m.contents.kind :: c.visited.flatMap Visit.events := by
  rw [json_of_ok h, message, ← log_container hc]
  exact congrArg _ (Run.log_bind_pure (yields_container m.contents).skip_result _)

end Resolve

end FlexLayout
