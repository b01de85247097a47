import FlexLayout.Proofs.Resolve.Census
import FlexLayout.Proofs.Resolve.Log
import FlexLayout.Proofs.Tree.Counting

/-!
# The log accounts for the tree

The log of a document tells what became of it. Behind the entry for the message stand the entries
of all visits, in the order of the walk. At each level they can be told apart: debug entries are the
bubbles and what is left out, warnings are the texts whose line spacing starts with no integer, and
trace entries are the components that became nodes. `json_accounts` puts this together with the
census of the tree.
-/

namespace FlexLayout.Resolve

open FlexLayout.Document (Visit origin)

/-! ## Entries -/

namespace Event

/-- The path that an entry is about. The message has none. -/
def path? : Event → Option Path
  | message .. => none
  | bubble _ path | resolved _ path | skipped _ path | ignored _ path | lineSpacing _ path =>
    some path

/-- The size of the bubble that an entry is about. -/
def bubbleSize? : Event → Option BubbleSize
  | bubble size _ => some size
  | _ => none

end Event

/-- If the first entry is about a finished node, the second is not about anything at or below
it. -/
def Settled (e e' : Event) : Prop :=
  ∀ kind q, e = .resolved kind q → ∀ q', e'.path? = some q' → ¬ q <+: q'

/-- An entry of a visit is at its level and about the path of the visit. -/
theorem level_of_logged? {x : Visit} {level : Level} {e : Event} (h : x.logged? level = some e) :
    e.level = level ∧ e.path? = some x.path := by
  obtain ⟨fate, kind, path, value⟩ := x
  cases level with
  | debug => cases fate <;> cases h <;> exact ⟨rfl, rfl⟩
  | warn =>
    obtain ⟨-, h⟩ := Option.ite_none_right_eq_some.mp h
    obtain ⟨s, -, rfl⟩ := Option.map_eq_some_iff.mp h
    exact ⟨rfl, rfl⟩
  | trace =>
    obtain ⟨-, h⟩ := Option.ite_none_right_eq_some.mp h
    cases h
    exact ⟨rfl, rfl⟩

theorem path_of_mem_events {x : Visit} {e : Event} (h : e ∈ x.events) :
    e.path? = some x.path := by
  obtain ⟨level, -, he⟩ := List.mem_filterMap.mp h
  exact (level_of_logged? he).2

/-- Only a component that becomes a node is finished. -/
theorem fate_of_resolved_mem {x : Visit} {kind : String} {q : Path}
    (h : .resolved kind q ∈ x.events) : x.fate = .node ∧ q = x.path := by
  have hpath := path_of_mem_events h
  obtain ⟨level, -, he⟩ := List.mem_filterMap.mp h
  obtain rfl : Level.trace = level := (level_of_logged? he).1
  exact ⟨(Option.ite_none_right_eq_some.mp he).1, Option.some.inj hpath⟩

/-- The entries of a visit are told apart by their levels. -/
theorem filter_events (level : Level) (x : Visit) :
    x.events.filter (·.level = level) = (x.logged? level).toList := by
  have hlevel (l : Level) : (x.logged? l).filter (fun e => e.level = level) =
      if l = level then x.logged? l else none := by
    rcases he : x.logged? l with _ | e
    · rw [ite_self]
      rfl
    · rw [Option.filter_some, (level_of_logged? he).1]
      simp only [decide_eq_true_eq]
  unfold Visit.events
  rw [List.filter_filterMap, List.filterMap_congr fun l _ => hlevel l]
  rcases he : x.logged? level with _ | e
  · cases level <;> simp [he]
  · cases level <;> simp [he]

/-- What is read off the log is read off the walk, visit by visit. -/
theorem filterMap_events {β : Type} {f : Event → Option β} {φ : Visit → Option β}
    (h : ∀ x : Visit, x.events.filterMap f = (φ x).toList) (xs : List Visit) :
    (xs.flatMap Visit.events).filterMap f = xs.filterMap φ := by
  rw [List.filterMap_flatMap, List.filterMap_eq_flatMap_toList]
  exact List.flatMap_congr fun x _ => h x

theorem filter_log (level : Level) (xs : List Visit) :
    (xs.flatMap Visit.events).filter (·.level = level) = xs.filterMap (·.logged? level) := by
  rw [List.filter_flatMap, List.filterMap_eq_flatMap_toList]
  exact List.flatMap_congr fun x _ => filter_events level x

/-! ## Their order -/

/-- A trace entry is the last of its visit. -/
theorem pairwise_events (x : Visit) : x.events.Pairwise Settled := by
  have hlevels : [Level.debug, .warn, .trace].Pairwise fun l _ => l ≠ .trace := by decide
  unfold Visit.events
  rw [List.pairwise_filterMap]
  apply hlevels.imp
  rintro l - hne e he e' - kind q rfl
  exact absurd (level_of_logged? he).1.symm hne

theorem pairwise_log (c : Json) : (c.visited.flatMap Visit.events).Pairwise Settled := by
  rw [List.pairwise_flatMap]
  refine ⟨fun x _ => pairwise_events x, (Json.postorder_visited c).imp ?_⟩
  rintro x y hxy e he e' he' kind q rfl q' hq'
  obtain ⟨hfate, rfl⟩ := fate_of_resolved_mem he
  rw [path_of_mem_events he', Option.some_inj] at hq'
  subst hq'
  apply hxy
  rw [hfate]
  decide

/-- No two nodes are finished at paths with the same text. -/
theorem nodup_traces (c : Json) :
    (((c.visited.filterMap (·.logged? .trace)).filterMap Event.path?).map Path.text).Nodup := by
  have hstart : ∀ s ∈ c.startPath, s.Clear := by
    unfold Json.startPath
    split <;> decide
  have hclear {x : Visit} (hx : x ∈ c.visited) : ∀ s ∈ x.path, s.Clear :=
    (Json.leads_visited hx).clear hstart
  have hnode {x : Visit} {s : String}
      (hs : (((x.logged? .trace).bind Event.path?).map Path.text) = some s) :
      x.fate = .node ∧ x.path.text = s := by
    obtain ⟨q, hq, rfl⟩ := Option.map_eq_some_iff.mp hs
    obtain ⟨e, he, hpath⟩ := Option.bind_eq_some_iff.mp hq
    rw [(level_of_logged? he).2, Option.some_inj] at hpath
    exact ⟨(Option.ite_none_right_eq_some.mp he).1, congrArg Path.text hpath⟩
  rw [List.filterMap_filterMap, List.map_filterMap, List.Nodup, List.pairwise_filterMap]
  refine (Json.postorder_visited c).imp_of_mem ?_
  intro x y hx hy hxy s hs s' hs' heq
  obtain ⟨hfate, rfl⟩ := hnode hs
  obtain ⟨-, rfl⟩ := hnode hs'
  -- two nodes at one path would have to be apart, and no path is apart from itself
  have hpath : x.path = y.path := Path.eq_of_text_eq (Json.ne_nil_of_mem_visited hx) (hclear hx)
    (Json.ne_nil_of_mem_visited hy) (hclear hy) heq
  have hapart : Json.Apart x y := hxy (by rw [hfate]; decide)
  exact hapart (hpath ▸ List.prefix_refl _)

/-! ## Numbers of entries -/

theorem length_held (xs : List Visit) :
    (xs.filterMap Visit.held?).length = (xs.filterMap (·.logged? .trace)).length
      + (xs.filterMap Visit.root?).length + (xs.filterMap Visit.inline?).length := by
  induction xs with
  | nil => rfl
  | cons x rest ih =>
    obtain ⟨fate, kind, path, value⟩ := x
    cases fate <;>
      simp [List.filterMap_cons, Visit.held?, Visit.logged?, Visit.trace?, Visit.root?,
        Visit.inline?, ih] <;> omega

/-- The entries for bubbles tell the sizes of the bubbles, in their order. -/
theorem sizes_log (c : Json) :
    (c.visited.flatMap Visit.events).filterMap Event.bubbleSize? =
      c.bubbles.map fun w => (bubbleOf (.ofFields w.fields)).size := by
  have hevents (x : Visit) : x.events.filterMap Event.bubbleSize? =
      (x.bubble?.map fun w => (bubbleOf (.ofFields w.fields)).size).toList := by
    obtain ⟨fate, kind, path, value⟩ := x
    cases fate with
    | node =>
      refine List.filterMap_eq_nil_iff.mpr fun e he => ?_
      obtain ⟨level, -, he⟩ := List.mem_filterMap.mp he
      cases level with
      | debug => cases he
      | warn =>
        obtain ⟨s, -, rfl⟩ := Option.map_eq_some_iff.mp he
        rfl
      | trace =>
        cases he
        rfl
    | _ => rfl
  have hbubble (x : Visit) (h : x.fate ≠ .bubble) :
      (x.bubble?.map fun w => (bubbleOf (.ofFields w.fields)).size) = none := by
    rw [Visit.bubble?, if_neg h]
    rfl
  rw [filterMap_events hevents,
    Json.filterMap_visited fun x hx => hbubble x (by rw [hx]; decide),
    ← Json.map_snd_placedBubbles, List.map_map, List.map_eq_flatMap]
  refine List.flatMap_congr fun b _ => ?_
  rw [Json.filterMap_bubbleVisits hbubble]
  rfl

/-- As many components are finished as there are nodes, but for the boxes of headers, bodies and
footers and the spans inside texts. -/
theorem length_traces (c : Json) :
    (c.visited.filterMap (·.logged? .trace)).length
      + (c.bubbles.map fun w => (bubbleOf (.ofFields w.fields)).boxed.length).sum
      + (c.bubbles.map fun w => (bubbleOf (.ofFields w.fields)).inlineSpans.length).sum =
      (c.bubbles.flatMap Json.bubblePositions).length := by
  have hdropped (x : Visit) (hx : x.fate = .dropped) : x.root? = none ∧ x.inline? = none :=
    ⟨if_neg (by rw [hx]; decide), if_neg (by rw [hx]; decide)⟩
  have hinline := (perm_visited (fun x hx => (hdropped x hx).2) perm_bubbleOf c).length_eq
  have hroot : (c.visited.filterMap Visit.root?).length =
      (c.bubbles.map fun w => (bubbleOf (.ofFields w.fields)).boxed.length).sum := by
    rw [Json.filterMap_visited fun x hx => (hdropped x hx).1, List.length_flatMap,
      ← Json.map_snd_placedBubbles, List.map_map]
    exact congrArg List.sum (List.map_congr_left fun b _ => length_bubbleOf b.1 b.2)
  have hheld := (perm_held c).length_eq
  rw [List.length_map, length_held] at hheld
  rw [List.length_flatMap] at hinline
  rw [← hheld, ← hinline, hroot]

/-! ## Documents -/

/-- What the log of a document `v` with the contents `c` has of its tree `t`. -/
structure Accounts (v c : Json) (t : Tree.Message) (log : List Event) : Prop where
  /-- Every value that is met stands at its path. -/
  places : ∀ x ∈ c.visited, (origin v c).at? x.path = some x.value
  /-- The entry for the message is the first, and behind it stand those of the visits. -/
  entries : ∃ kind, c.typeText? = some kind ∧
    log = .message t.altText kind :: c.visited.flatMap Visit.events
  /-- Every other entry is about a path. -/
  paths : ∀ e ∈ log.tail, e.path?.isSome
  /-- Level by level, every visit has the one entry that belongs to it, if any does. -/
  levels : ∀ level, log.tail.filter (·.level = level) = c.visited.filterMap (·.logged? level)
  /-- The entries for bubbles are those of the tree, in their order. -/
  sizes : log.filterMap Event.bubbleSize? = t.bubbles.map Tree.Bubble.size
  /-- The values that are kept are the nodes and spans of the tree, kind by kind. -/
  kinds : (c.visited.filterMap Visit.held?).Perm (t.kinds.map Kind.word)
  /-- The trace entries are the nodes that are counted, but for headers, bodies and footers and for
  spans inside texts. -/
  traces : (log.filter (·.level = .trace)).length + (t.bubbles.map fun b => b.boxed.length).sum
    + (t.bubbles.map fun b => b.inlineSpans.length).sum = (t.kindCounts.map Prod.snd).sum
  /-- No two trace entries have the same text for a path. -/
  texts : (((log.filter (·.level = .trace)).filterMap Event.path?).map Path.text).Nodup
  /-- Behind a trace entry nothing is said of its node or of anything below it. -/
  order : log.Pairwise Settled

theorem accounts_message {v c : Json} {m : Document.Message} (hm : Document.Message.ofJson v = .ok m)
    (hv : v.field? "contents" = some c) (hc : Document.Container.ofJson c = .ok m.contents) :
    Accounts v c (treeOf m) (json .skip v).log := by
  have hkind : c.typeText? = some m.contents.kind := by
    rcases container_cases hc with ⟨htype, hcontents⟩ | ⟨htype, hcontents⟩ <;>
      rw [htype, hcontents] <;> rfl
  have htrace : (json .skip v).log.filter (·.level = .trace) =
      c.visited.filterMap (·.logged? .trace) := by
    rw [log_message hm hc, List.filter_cons_of_neg (by simp [Event.level]),
      filter_log]
  constructor
  case places =>
    have hstart : c.startPath = Document.written c [] := rfl
    intro x hx
    apply (Json.leads_visited hx).at?
    rw [hstart, Document.at?_written hv]
    rfl
  case entries => exact ⟨_, hkind, log_message hm hc⟩
  case paths =>
    rw [log_message hm hc]
    intro e he
    obtain ⟨x, -, he⟩ := List.mem_flatMap.mp he
    rw [path_of_mem_events he]
    rfl
  case levels =>
    rw [log_message hm hc]
    exact fun level => filter_log level c.visited
  case sizes =>
    rw [log_message hm hc, List.filterMap_cons_none rfl, sizes_log, bubbles_treeOf hc,
      List.map_map]
    rfl
  case kinds =>
    rw [kinds_treeOf hc]
    exact perm_held c
  case traces =>
    rw [htrace, Tree.Message.sum_kindCounts, kinds_treeOf hc, bubbles_treeOf hc, List.map_map,
      List.map_map]
    exact length_traces c
  case texts =>
    rw [htrace]
    exact nodup_traces c
  case order =>
    rw [log_message hm hc]
    refine List.pairwise_cons.mpr ⟨?_, pairwise_log c⟩
    rintro e - kind q hmessage
    cases hmessage

/-- **Accounting.** The log of every document that is resolved while components without a place are
skipped accounts for its tree: it starts with the one entry for the message, and behind it every
bubble, every value that is left out, every text whose line spacing starts with no integer and every
component that became a node has its one entry, each node after all below it. -/
theorem json_accounts (v : Json) (t : Tree.Message) (h : (json .skip v).result = .ok t) :
    ∃ c, v.field? "contents" = some c ∧ Accounts v c t (json .skip v).log := by
  obtain ⟨m, c, hm, hc, hcontents, rfl, -⟩ := exists_message h
  exact ⟨c, hc, accounts_message hm hc hcontents⟩

/-- A bubble with a header that is no box, a text that holds a span, a box and a value of no kind,
with a line spacing that is no number, and a text with a line spacing that starts with one. -/
def loose : Json :=
  let typed (kind : String) (fs : List (String × Json)) : Json :=
    .object (("type", .string kind) :: fs)
  typed "flex" [("contents", typed "bubble" [("header", typed "text" []), ("size", .string "kilo"),
    ("body", typed "box" [("contents", .array [
      typed "text" [("lineSpacing", .string "tight"),
        ("contents", .array [typed "span" [], typed "box" [], .null])],
      typed "text" [("lineSpacing", .string " +7px")]])])])]

theorem json_accounts_loose :
    ∃ t c, (json .skip loose).result = .ok t ∧ loose.field? "contents" = some c ∧
      Accounts loose c t (json .skip loose).log ∧
      (json .skip loose).log.map Event.level =
        [.debug, .debug, .debug, .debug, .debug, .warn, .trace, .trace] ∧
      t.kinds = [.box, .text, .span, .text] := by
  obtain ⟨m, hm⟩ : ∃ m, Document.Message.ofJson loose = .ok m := ⟨_, rfl⟩
  have h : (json .skip loose).result = .ok (treeOf m) := json_skip_result hm
  obtain ⟨c, hc, haccounts⟩ := json_accounts loose (treeOf m) h
  have hkinds : (treeOf m).kinds = [.box, .text, .span, .text] := by
    cases hm
    rfl
  refine ⟨treeOf m, c, h, hc, haccounts, ?_, hkinds⟩
  decide +kernel

end FlexLayout.Resolve
