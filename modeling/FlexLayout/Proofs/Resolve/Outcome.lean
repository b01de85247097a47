import FlexLayout.Proofs.Resolve.Run
import FlexLayout.Resolve.Message

/-!
# What resolving comes to

The tree of a document, said without a log and without failures, and the list of the components
that have no place in it, in the order of the document. Of all that a context hands down only the
axis of the parent matters to a node. Every function of the resolver yields its part of the tree
and its part of the list; `yields_message` is the statement for whole messages.
-/

namespace FlexLayout

open FlexLayout.Document (Component)
open FlexLayout.Tree (Node Child)

/-! ## Components without a place -/

namespace Document

/-- The unknown components among the contents of a text, from an index on. -/
def unplacedSpans (path : Path) : Nat → List Component → List (String × Path)
  | _, [] => []
  | i, .unknown kind :: rest => (kind, path.item i) :: unplacedSpans path (i + 1) rest
  | i, _ :: rest => unplacedSpans path (i + 1) rest

namespace Component

mutual

/-- The components without a place in a component, with their kinds and paths, depth first. -/
def unplaced (path : Path) : Component → List (String × Path)
  | .box _ contents => unplacedFrom path 0 contents
  | .text _ contents => unplacedSpans path 0 contents
  | .video _ none => []
  | .video _ (some alt) => unplaced (path.field "altContent") alt
  | .unknown kind => [(kind, path)]
  | .button _ | .filler _ | .icon _ | .image _ | .separator _ | .spacer _ | .span _ => []
termination_by structural c => c

/-- The same for the children of a box, from an index on. -/
def unplacedFrom (path : Path) (i : Nat) : List Component → List (String × Path)
  | [] => []
  | c :: rest => unplaced (path.item i) c ++ unplacedFrom path (i + 1) rest
termination_by structural cs => cs

end

end Component

/-- The components without a place in a header, body or footer, which take a box only. -/
def unplacedBoxed (path : Path) : Option Component → List (String × Path)
  | none => []
  | some (.box _ contents) => Component.unplacedFrom path 0 contents
  | some other => [(other.kind, path)]

/-- The components without a place in a hero, which takes any known component. -/
def unplacedHero (path : Path) : Option Component → List (String × Path)
  | none => []
  | some c => c.unplaced path

/-- Section by section, from the top down. -/
def Bubble.unplaced (path : Path) (b : Bubble) : List (String × Path) :=
  unplacedBoxed (path.field "header") b.header ++ unplacedHero (path.field "hero") b.hero
    ++ unplacedBoxed (path.field "body") b.body ++ unplacedBoxed (path.field "footer") b.footer

/-- Entry by entry, from an index on. -/
def unplacedEntries : Nat → List Entry → List (String × Path)
  | _, [] => []
  | i, .bubble b :: rest => b.unplaced (Resolve.entryPath i) ++ unplacedEntries (i + 1) rest
  | i, .unknown kind :: rest => (kind, Resolve.entryPath i) :: unplacedEntries (i + 1) rest

def Container.unplaced : Container → List (String × Path)
  | .bubble b => b.unplaced Resolve.contentsPath
  | .carousel es => unplacedEntries 0 es

/-- All components of a message without a place, in the order of the document. -/
def Message.unplaced (m : Message) : List (String × Path) := m.contents.unplaced

end Document

/-! ## Trees -/

namespace Resolve

/-- The line height of a text. -/
def lineHeightOf (lineSpacing : Option String) : Tree.LineHeight :=
  match lineSpacing.bind leadingInteger? with
  | some n => .px (n + lineSpacingBase)
  | none => .multiplier defaultLineHeight

/-- The spans among the contents of a text. -/
def spansOf : List Component → List Tree.Span
  | [] => []
  | .span s :: rest => span s :: spansOf rest
  | _ :: rest => spansOf rest

def textOf (axis : Layout) (t : Document.Text) (contents : List Component) : Tree.Text :=
  textWith t axis.spacingSide (spansOf contents) (lineHeightOf t.lineSpacing)

mutual

/-- The node of a component below a parent of the given axis; none if its kind is unknown. -/
def nodeOf (axis : Layout) : Component → Option Node
  | .box b contents =>
    some (.box (box b none) (childrenOf (b.layout.getD .vertical) b.spacing 0 contents))
  | .button b => some (.button (button b))
  | .filler f => some (.filler (filler f))
  | .icon i => some (.icon (icon i))
  | .image i => some (.image (image i))
  | .separator s => some (.separator (separator s axis))
  | .spacer s => some (.spacer (spacer s))
  | .text t contents => some (.text (textOf axis t contents))
  | .span s => some (.span (span s))
  | .video v none => some (.video (video v) none)
  | .video v (some alt) => some (.video (video v) (nodeOf .vertical alt))
  | .unknown _ => none
termination_by structural c => c

/-- The children of a box from an index on. -/
def childrenOf (axis : Layout) (spacing : Option String) (i : Nat) : List Component → List Child
  | [] => []
  | c :: rest =>
    match nodeOf axis c with
    | some n =>
      ⟨childSpacing spacing axis i c.kind, n⟩ :: childrenOf axis spacing (i + 1) rest
    | none => childrenOf axis spacing (i + 1) rest
termination_by structural cs => cs

end

/-- The section of a header, body or footer. -/
def boxedOf (size : BubbleSize) (hasFooter : Bool) (s : BoxedSection) (color : Option String) :
    Option Component → Option Tree.Section
  | some (.box b contents) =>
    some ⟨color, s.growth, .box (box b (some (defaultPadding size s hasFooter)))
      (childrenOf (b.layout.getD .vertical) b.spacing 0 contents)⟩
  | _ => none

def heroOf (color : Option String) (c : Option Component) : Option Tree.Section :=
  (c.bind (nodeOf .vertical)).map fun n => ⟨color, .none, n⟩

def bubbleOf (b : Document.Bubble) : Tree.Bubble :=
  let boxed (s : BoxedSection) := boxedOf (b.size.getD .mega) (b.footer.any Component.isBox) s
  bubbleWith b (boxed .header b.styles.header b.header) (heroOf b.styles.hero b.hero)
    (boxed .body b.styles.body b.body) (boxed .footer b.styles.footer b.footer)

def bubblesOf : List Document.Entry → List Tree.Bubble
  | [] => []
  | .bubble b :: rest => bubbleOf b :: bubblesOf rest
  | .unknown _ :: rest => bubblesOf rest

def containerOf : Document.Container → Tree.Container
  | .bubble b => .bubble (bubbleOf b)
  | .carousel es => .carousel (carousel (bubblesOf es))

/-- The tree of a message. -/
def treeOf (m : Document.Message) : Tree.Message := ⟨m.altText, containerOf m.contents⟩

/-! ## Components -/

theorem yields_lineHeight (lineSpacing : Option String) (path : Path) :
    Yields (fun _ => lineHeight lineSpacing path) [] (lineHeightOf lineSpacing) := by
  rcases lineSpacing with _ | value
  · exact .pure _
  · unfold lineHeight lineHeightOf
    simp only [Option.bind_some]
    cases leadingInteger? value with
    | none => exact (Yields.emit rfl).bind (.pure _)
    | some n => exact .pure _

theorem yields_spans (path : Path) (i : Nat) (cs : List Component) :
    Yields (fun p => spans p path i cs) (Document.unplacedSpans path i cs) (spansOf cs) := by
  induction cs generalizing i with
  | nil => exact .pure _
  | cons c rest ih =>
    cases c with
    | span s => exact (ih (i + 1)).bind_plain (.pure _)
    | unknown kind => exact (Yields.unknown kind (path.item i)).bind (ih (i + 1))
    | _ => exact (Yields.emit rfl).plain_bind (ih (i + 1))

theorem yields_text (t : Document.Text) (contents : List Component) (c : Context) :
    Yields (fun p => text p t contents c) (Document.unplacedSpans c.path 0 contents)
      (textOf c.axis t contents) :=
  (yields_spans c.path 0 contents).bind_plain
    ((yields_lineHeight t.lineSpacing c.path).plain_bind (.pure _))

theorem yields_finish (c : Context) (n : Node) : Yields (fun _ => finish c n) [] (some n) :=
  (Yields.emit rfl).bind (.pure _)

mutual

theorem yields_component (c : Context) : ∀ x : Component,
    Yields (fun p => component p c x) (x.unplaced c.path) (nodeOf c.axis x)
  | .box _ contents => (yields_children _ 0 contents).bind_plain (yields_finish c _)
  | .text t contents => (yields_text t contents c).bind_plain (yields_finish c _)
  | .video _ none => yields_finish c _
  | .video _ (some alt) => (yields_component c.alt alt).bind_plain (yields_finish c _)
  | .unknown kind => (Yields.unknown kind c.path).bind (.pure _)
  | .button _ | .filler _ | .icon _ | .image _ | .separator _ | .spacer _ | .span _ =>
    yields_finish c _

theorem yields_children (c : Context) (i : Nat) : ∀ cs : List Component,
    Yields (fun p => children p c i cs) (Component.unplacedFrom c.path i cs)
      (childrenOf c.axis c.spacing i cs)
  | [] => .pure _
  | x :: rest => by
    refine (yields_component (c.child i) x).bind ((yields_children c (i + 1) rest).bind_plain ?_)
    show Yields _ [] (childrenOf c.axis c.spacing i (x :: rest))
    rw [childrenOf]
    show Yields _ [] (match nodeOf (c.child i).axis x with | some n => _ | none => _)
    cases nodeOf (c.child i).axis x with
    | some n => exact .pure _
    | none => exact .pure _

end

/-! ## Bubbles and carousels -/

theorem yields_boxedSection (size : BubbleSize) (hasFooter : Bool) (s : BoxedSection)
    (color : Option String) (path : Path) (c : Option Component) :
    Yields (fun p => boxedSection p size hasFooter s color path c)
      (Document.unplacedBoxed path c) (boxedOf size hasFooter s color c) := by
  rcases c with _ | x
  · exact .pure _
  · cases x with
    | box b contents => exact (yields_children _ 0 contents).bind_plain (.pure _)
    | _ => exact (Yields.unknown _ path).bind (.pure _)

theorem yields_hero (size : BubbleSize) (color : Option String) (path : Path)
    (c : Option Component) :
    Yields (fun p => hero p size color path c) (Document.unplacedHero path c)
      (heroOf color c) := by
  rcases c with _ | x
  · exact .pure _
  · exact (yields_component (Context.ofSection size path) x).bind_plain (.pure _)

theorem yields_bubble (b : Document.Bubble) (path : Path) :
    Yields (fun p => bubble p b path) (b.unplaced path) (bubbleOf b) := by
  have header := yields_boxedSection (b.size.getD .mega) (b.footer.any Component.isBox) .header
    b.styles.header (path.field "header") b.header
  have hero := yields_hero (b.size.getD .mega) b.styles.hero (path.field "hero") b.hero
  have body := yields_boxedSection (b.size.getD .mega) (b.footer.any Component.isBox) .body
    b.styles.body (path.field "body") b.body
  have footer := yields_boxedSection (b.size.getD .mega) (b.footer.any Component.isBox) .footer
    b.styles.footer (path.field "footer") b.footer
  unfold Document.Bubble.unplaced
  rw [List.append_assoc, List.append_assoc]
  exact (Yields.emit rfl).plain_bind
    (header.bind (hero.bind (body.bind (footer.bind_plain (.pure _)))))

theorem yields_entries (i : Nat) (es : List Document.Entry) :
    Yields (fun p => entries p i es) (Document.unplacedEntries i es) (bubblesOf es) := by
  induction es generalizing i with
  | nil => exact .pure _
  | cons e rest ih =>
    cases e with
    | bubble b => exact (yields_bubble b (entryPath i)).bind ((ih (i + 1)).bind_plain (.pure _))
    | unknown kind => exact (Yields.unknown kind (entryPath i)).bind (ih (i + 1))

theorem yields_container (c : Document.Container) :
    Yields (fun p => container p c) c.unplaced (containerOf c) := by
  cases c with
  | bubble b => exact (yields_bubble b contentsPath).bind_plain (.pure _)
  | carousel es => exact (yields_entries 0 es).bind_plain (.pure _)

/-- **Messages.** Skipping comes to the tree of the message and leaves out the components without
a place; rejecting stops at the first of them. -/
theorem yields_message (m : Document.Message) :
    Yields (fun p => message p m) m.unplaced (treeOf m) :=
  (Yields.emit rfl).plain_bind ((yields_container m.contents).bind_plain (.pure _))

/-- **Rejecting and skipping.** Skipping always succeeds, and what it leaves out is, entry by
entry of its log, the list of the components without a place in the order of the document.
Rejecting is the same run stopped at the first of them: with none it comes to the same tree, and
otherwise it fails with the kind and the path of the first. -/
theorem message_reject_eq_strict (m : Document.Message) :
    message .reject m = (message .skip m).strict ∧
      (message .skip m).skipped = m.unplaced ∧
      (∀ t, (message .reject m).result = .ok t → (message .skip m).result = .ok t) ∧
      ∃ t, (message .skip m).result = .ok t ∧
        (message .reject m).result = match m.unplaced with
          | [] => .ok t
          | (kind, path) :: _ => .error (.unknownComponent kind path) := by
  have h := yields_message m
  refine ⟨h.reject_eq, h.skip_skipped, fun t ht => ?_, treeOf m, h.skip_result, ?_⟩
  · rw [(h.of_result ht).1]
    exact h.skip_result
  · rw [h.result_eq .reject]
    rcases m.unplaced with _ | ⟨⟨kind, path⟩, rest⟩
    · rfl
    · rfl

end Resolve

end FlexLayout
