import FlexLayout.Proofs.Document.Location
import FlexLayout.Resolve.Bubble

/-!
# A walk through a document

Every value of a document that has to do with its tree is met once, at its path, and something
becomes of it. Components are met after all that they hold, and bubbles before their sections. The
walk is a list of visits, one for each value; what stands inside a component that is dropped or
ignored is not met. A visit leads to its value (`leads_visited`), and no value is met after one
that stands around it, bubbles apart (`postorder_visited`).
-/

namespace FlexLayout

namespace Document

/-- What becomes of a value that is met. -/
inductive Fate where
  /-- A bubble. -/
  | bubble
  /-- A component that becomes a node. -/
  | node
  /-- The box of a header, body or footer. -/
  | root
  /-- A span among the contents of a text. -/
  | inline
  /-- A known component among the contents of a text that is no span. -/
  | ignored
  /-- It has no place in the tree. -/
  | dropped
  deriving DecidableEq, Repr

/-- A value, met at a path, with the kind that it is known by. -/
structure Visit where
  fate : Fate
  kind : String
  path : Path
  value : Json

end Document

namespace Json

open Document (Fate Visit boxedSections)
open Resolve (contentsPath entryPath)

/-- Meets a value under the kind that it names. -/
def met (v : Json) (fate : Fate) (path : Path) : Visit := ⟨fate, v.typeText?.getD "", path, v⟩

/-- What becomes of an item of a text. -/
def spanFate (v : Json) : Fate :=
  match v.kind? with
  | some .span => .inline
  | some _ => .ignored
  | none => .dropped

/-- The items of a text. Nothing below them is met. -/
def textVisits (path : Path) (v : Json) : List Visit :=
  v.contents.zipIdx.map fun (w, i) => w.met w.spanFate (path.item i)

mutual

/-- A component and all below it, each component after those that it holds. -/
def visits (path : Path) : Json → List Visit
  | .object fs =>
    match (object fs).kind? with
    | none => [(object fs).met .dropped path]
    | some .box => contentsVisits path fs ++ [(object fs).met .node path]
    | some .text => (object fs).textVisits path ++ [(object fs).met .node path]
    | some .video => altVisits path fs ++ [(object fs).met .node path]
    | some _ => [(object fs).met .node path]
  | v => [v.met .dropped path]
termination_by structural v => v

/-- The items of the first field `contents`. -/
def contentsVisits (path : Path) : List (String × Json) → List Visit
  | [] => []
  | (name, v) :: rest =>
    if name = "contents" then
      match v with
      | .array items => itemsVisits path 0 items
      | _ => []
    else contentsVisits path rest
termination_by structural fs => fs

/-- The first field `altContent`, unless it is `null`. -/
def altVisits (path : Path) : List (String × Json) → List Visit
  | [] => []
  | (name, v) :: rest =>
    if name = "altContent" then
      match v with
      | .null => []
      | v => visits (path.field "altContent") v
    else altVisits path rest
termination_by structural fs => fs

/-- The items of a box from an index on. -/
def itemsVisits (path : Path) (i : Nat) : List Json → List Visit
  | [] => []
  | v :: rest => visits (path.item i) v ++ itemsVisits path (i + 1) rest
termination_by structural items => items

end

/-- A slot that takes any known component. -/
def slotVisits (path : Path) (slot : Option Json) : List Visit :=
  match slot with
  | some w => w.visits path
  | none => []

/-- What is met inside a component. -/
def innerVisits (path : Path) (v : Json) : List Visit :=
  match v.kind? with
  | some .box => v.contents.zipIdx.flatMap fun (w, i) => w.visits (path.item i)
  | some .text => v.textVisits path
  | some .video => slotVisits (path.field "altContent") (v.slot? "altContent")
  | _ => []

/-- A slot that takes a box only. -/
def boxedVisits (path : Path) (slot : Option Json) : List Visit :=
  match slot with
  | some w =>
    if w.kind? = some .box then w.innerVisits path ++ [w.met .root path]
    else [w.met .dropped path]
  | none => []

/-- The slot of a name in a bubble. -/
def sectionVisits (path : Path) (v : Json) (name : String) : List Visit :=
  if name ∈ boxedSections then boxedVisits (path.field name) (v.slot? name)
  else slotVisits (path.field name) (v.slot? name)

/-- A bubble and then its sections, from the top down. -/
def bubbleVisits (path : Path) (v : Json) : List Visit :=
  v.met .bubble path :: ["header", "hero", "body", "footer"].flatMap (v.sectionVisits path)

/-- An entry of a carousel. What is no bubble is known by its discriminant. -/
def entryVisits (i : Nat) (v : Json) : List Visit :=
  if v.typeText? = some "bubble" then v.bubbleVisits (entryPath i)
  else [⟨.dropped, discriminant (v.field? "type"), entryPath i, v⟩]

/-- All that is met in a container. -/
def visited (v : Json) : List Visit :=
  if v.typeText? = some "carousel" then v.contents.zipIdx.flatMap fun (e, i) => e.entryVisits i
  else v.bubbleVisits contentsPath

/-! ## The walk, place by place -/

theorem itemsVisits_eq (path : Path) (i : Nat) (items : List Json) :
    itemsVisits path i items =
      (items.zipIdx i).flatMap fun (w, j) => w.visits (path.item j) := by
  induction items generalizing i with
  | nil => rfl
  | cons v rest ih => rw [itemsVisits, ih, List.zipIdx_cons, List.flatMap_cons]

theorem contentsVisits_eq (path : Path) (fs : List (String × Json)) :
    contentsVisits path fs =
      (object fs).contents.zipIdx.flatMap fun (w, i) => w.visits (path.item i) := by
  rw [search_eq_lookup (g := contentsVisits path) rfl
    (fun _ _ _ => by rw [contentsVisits.eq_def]) fs]
  unfold contents field? fields
  rcases fs.lookup "contents" with _ | v
  · rfl
  · cases v with
    | array items => exact itemsVisits_eq path 0 items
    | _ => rfl

theorem altVisits_eq (path : Path) (fs : List (String × Json)) :
    altVisits path fs =
      slotVisits (path.field "altContent") ((object fs).slot? "altContent") := by
  rw [search_eq_lookup (g := altVisits path) rfl (fun _ _ _ => by rw [altVisits.eq_def]) fs]
  unfold slot? field? fields
  rcases fs.lookup "altContent" with _ | v
  · rfl
  · cases v <;> rfl

/-- A component is met after all inside it. -/
theorem visits_eq (path : Path) (v : Json) :
    v.visits path =
      v.innerVisits path ++ [v.met (if v.kind?.isSome then .node else .dropped) path] := by
  unfold innerVisits
  cases v with
  | object fs =>
    rw [visits, contentsVisits_eq, altVisits_eq]
    rcases (object fs).kind? with _ | k
    · rfl
    · cases k <;> rfl
  | _ => rfl

theorem bubbleVisits_eq (path : Path) (v : Json) :
    v.bubbleVisits path = v.met .bubble path ::
      (boxedVisits (path.field "header") (v.slot? "header")
        ++ (slotVisits (path.field "hero") (v.slot? "hero")
        ++ (boxedVisits (path.field "body") (v.slot? "body")
        ++ boxedVisits (path.field "footer") (v.slot? "footer")))) := by
  have hboxed {name : String} (h : name ∈ boxedSections) :
      v.sectionVisits path name = boxedVisits (path.field name) (v.slot? name) := if_pos h
  have hhero : v.sectionVisits path "hero" = slotVisits (path.field "hero") (v.slot? "hero") :=
    if_neg (by decide)
  unfold bubbleVisits
  rw [List.flatMap_cons, List.flatMap_cons, List.flatMap_cons, List.flatMap_singleton,
    hboxed (by decide), hhero, hboxed (by decide), hboxed (by decide)]

/-! ## Where the visits lead -/

/-- The names of the slots that hold one component. -/
def slotNames : List String := ["header", "hero", "body", "footer", "altContent"]

/-- Below a path at which the value `v` stands, by items of contents and by slots, a longer path
leads to the value `w`. -/
inductive Leads (path : Path) (v : Json) : Path → Json → Prop where
  | self : Leads path v path v
  | item {q : Path} {x w : Json} {i : Nat} : Leads path v q x → x.contents[i]? = some w →
    Leads path v (q.item i) w
  | slot {q : Path} {x w : Json} {name : String} : Leads path v q x → name ∈ slotNames →
    x.slot? name = some w → Leads path v (q.field name) w

variable {path q : Path} {v w : Json}

theorem Leads.isPrefix (h : Leads path v q w) : path <+: q := by
  induction h with
  | self => exact List.prefix_refl path
  | item _ _ ih => exact ih.trans (List.prefix_append ..)
  | slot _ _ _ ih => exact ih.trans (List.prefix_append ..)

/-- The longer path leads to its value from wherever the shorter one does. -/
theorem Leads.at? (h : Leads path v q w) {root : Json} (hroot : root.at? path = some v) :
    root.at? q = some w := by
  induction h with
  | self => exact hroot
  | item _ hw ih =>
    rw [at?_item, ih]
    exact hw
  | slot _ _ hw ih =>
    rw [at?_field, ih]
    exact field_of_slot hw

theorem Leads.clear (h : Leads path v q w) (hpath : ∀ s ∈ path, s.Clear) : ∀ s ∈ q, s.Clear := by
  have hslots : ∀ name ∈ slotNames, (Segment.mk name none).Clear := by decide
  induction h with
  | self => exact hpath
  | item _ _ ih => exact Path.clear_item ih _
  | slot _ hname _ ih => exact Path.clear_field ih (hslots _ hname)

theorem Leads.trans {r : Path} {x : Json} (h : Leads path v q w) (h' : Leads q w r x) :
    Leads path v r x := by
  induction h' with
  | self => exact h
  | item _ hx ih => exact .item ih hx
  | slot _ hname hx ih => exact .slot ih hname hx

/-- What is met inside a component is met in an item, is an item of a text, or is met in
alternative content. -/
theorem mem_innerVisits {x : Visit} (h : x ∈ v.innerVisits path) :
    (∃ (w : Json) (i : Nat), v.contents[i]? = some w ∧
      (x ∈ w.visits (path.item i) ∨ x = w.met w.spanFate (path.item i))) ∨
      ∃ w : Json, v.slot? "altContent" = some w ∧ x ∈ w.visits (path.field "altContent") := by
  unfold innerVisits at h
  split at h
  · obtain ⟨⟨w, i⟩, hw, hx⟩ := List.mem_flatMap.mp h
    exact .inl ⟨w, i, List.mk_mem_zipIdx_iff_getElem?.mp hw, .inl hx⟩
  · obtain ⟨⟨w, i⟩, hw, rfl⟩ := List.mem_map.mp h
    exact .inl ⟨w, i, List.mk_mem_zipIdx_iff_getElem?.mp hw, .inr rfl⟩
  · rcases hw : v.slot? "altContent" with _ | w
    · rw [hw] at h
      cases h
    · rw [hw] at h
      exact .inr ⟨w, rfl, h⟩
  · cases h

/-- Every value that is met in a component stands at or below its path. -/
theorem leads_of_mem_visits {x : Visit} (h : x ∈ v.visits path) : Leads path v x.path x.value := by
  induction v using position_induction generalizing path x with
  | step v hcontents halt =>
    rw [visits_eq, List.mem_append, List.mem_singleton] at h
    rcases h with h | rfl
    · rcases mem_innerVisits h with ⟨w, i, hw, hx | rfl⟩ | ⟨w, hw, hx⟩
      · have hitem : Leads path v (path.item i) w := .item .self hw
        exact hitem.trans (hcontents w (List.mem_of_getElem? hw) hx)
      · exact .item .self hw
      · have hslot : Leads path v (path.field "altContent") w := .slot .self (by decide) hw
        exact hslot.trans (halt w hw hx)
    · exact .self

/-- What is met in a section is the value in its slot, or is met in the value. -/
theorem mem_sectionVisits {x : Visit} {name : String} (h : x ∈ v.sectionVisits path name) :
    ∃ w, v.slot? name = some w ∧ (x ∈ w.visits (path.field name) ∨
      ∃ fate : Fate, fate ≠ .bubble ∧ x = w.met fate (path.field name)) := by
  unfold sectionVisits boxedVisits slotVisits at h
  rcases hw : v.slot? name with _ | w
  · rw [hw, ite_self] at h
    cases h
  · rw [hw] at h
    dsimp only at h
    refine ⟨w, rfl, ?_⟩
    split at h
    · split at h
      · rcases List.mem_append.mp h with h | h
        · rw [visits_eq]
          exact .inl (List.mem_append_left _ h)
        · exact .inr ⟨.root, by decide, List.mem_singleton.mp h⟩
      · exact .inr ⟨.dropped, by decide, List.mem_singleton.mp h⟩
    · exact .inl h

/-- The same of a section. -/
theorem leads_of_mem_sectionVisits {x : Visit} {name : String} (hname : name ∈ slotNames)
    (h : x ∈ v.sectionVisits path name) :
    Leads path v x.path x.value ∧ path.field name <+: x.path := by
  obtain ⟨w, hw, h⟩ := mem_sectionVisits h
  have hx : Leads (path.field name) w x.path x.value := by
    rcases h with h | ⟨fate, -, rfl⟩
    · exact leads_of_mem_visits h
    · exact .self
  exact ⟨(Leads.slot .self hname hw).trans hx, hx.isPrefix⟩

/-- The same of a bubble. -/
theorem leads_of_mem_bubbleVisits {x : Visit} (h : x ∈ v.bubbleVisits path) :
    Leads path v x.path x.value := by
  unfold bubbleVisits at h
  rcases List.mem_cons.mp h with rfl | h
  · exact .self
  · obtain ⟨name, hname, hx⟩ := List.mem_flatMap.mp h
    have hslots : ∀ name ∈ ["header", "hero", "body", "footer"], name ∈ slotNames := by decide
    exact (leads_of_mem_sectionVisits (hslots name hname) hx).1

theorem leads_of_mem_entryVisits {x : Visit} {i : Nat} (h : x ∈ v.entryVisits i) :
    Leads (entryPath i) v x.path x.value := by
  unfold entryVisits at h
  split at h
  · exact leads_of_mem_bubbleVisits h
  · rw [List.mem_singleton.mp h]
    exact .self

/-- The path that the walk starts at: nothing for a carousel, and else the field of the
contents. -/
def startPath (v : Json) : Path := if v.typeText? = some "carousel" then [] else contentsPath

/-- Every value that is met in a container stands at its path. -/
theorem leads_visited {x : Visit} (h : x ∈ v.visited) : Leads v.startPath v x.path x.value := by
  unfold visited at h
  unfold startPath
  split at h
  · rename_i hv
    obtain ⟨⟨e, i⟩, he, hx⟩ := List.mem_flatMap.mp h
    rw [if_pos hv]
    have hentry : Leads [] v (entryPath i) e :=
      .item .self (List.mk_mem_zipIdx_iff_getElem?.mp he)
    exact hentry.trans (leads_of_mem_entryVisits hx)
  · rename_i hv
    rw [if_neg hv]
    exact leads_of_mem_bubbleVisits h

/-- No bubble is met inside a component, nor the root of a section. -/
theorem fate_of_mem_visits {x : Visit} (h : x ∈ v.visits path) :
    x.fate ≠ .bubble ∧ x.fate ≠ .root := by
  have hspan (w : Json) : w.spanFate ≠ .bubble ∧ w.spanFate ≠ .root := by
    unfold spanFate
    split <;> decide
  induction v using position_induction generalizing path with
  | step v hcontents halt =>
    rw [visits_eq, List.mem_append, List.mem_singleton] at h
    rcases h with h | rfl
    · rcases mem_innerVisits h with ⟨w, i, hw, hx | rfl⟩ | ⟨w, hw, hx⟩
      · exact hcontents w (List.mem_of_getElem? hw) hx
      · exact hspan w
      · exact halt w hw hx
    · unfold met
      dsimp only
      split <;> decide

/-- No bubble is met in a section. -/
theorem fate_of_mem_sectionVisits {x : Visit} {name : String} (h : x ∈ v.sectionVisits path name) :
    x.fate ≠ .bubble := by
  obtain ⟨w, -, h | ⟨fate, hfate, rfl⟩⟩ := mem_sectionVisits h
  · exact (fate_of_mem_visits h).1
  · exact hfate

/-! ## The bubbles of a container -/

/-- The bubbles that are met, each with its path. -/
def placedBubbles (v : Json) : List (Path × Json) :=
  if v.typeText? = some "carousel" then
    (v.contents.zipIdx.filter fun a => a.1.typeText? = some "bubble").map
      fun a => (entryPath a.2, a.1)
  else [(contentsPath, v)]

theorem map_snd_placedBubbles (v : Json) : v.placedBubbles.map Prod.snd = v.bubbles := by
  unfold placedBubbles bubbles
  split
  · have hcontents := List.filter_map (f := Prod.fst) (l := v.contents.zipIdx)
      (p := fun e : Json => decide (e.typeText? = some "bubble"))
    rw [List.zipIdx_map_fst] at hcontents
    rw [List.map_map, hcontents]
    rfl
  · rfl

/-- Of the visits of a bubble only the first is one of a bubble. -/
theorem filterMap_bubbleVisits {β : Type} {φ : Visit → Option β}
    (h : ∀ x : Visit, x.fate ≠ .bubble → φ x = none) (path : Path) (v : Json) :
    (v.bubbleVisits path).filterMap φ = (φ (v.met .bubble path)).toList := by
  have hsections : (["header", "hero", "body", "footer"].flatMap
      (v.sectionVisits path)).filterMap φ = [] := by
    rw [List.filterMap_eq_nil_iff]
    intro x hx
    obtain ⟨name, -, hx⟩ := List.mem_flatMap.mp hx
    exact h x (fate_of_mem_sectionVisits hx)
  unfold bubbleVisits
  rw [List.filterMap_cons, hsections]
  cases φ (v.met .bubble path) <;> rfl

/-- What is found on the walk, but for what is dropped, is found in the bubbles. -/
theorem filterMap_visited {β : Type} {φ : Visit → Option β}
    (h : ∀ x : Visit, x.fate = .dropped → φ x = none) (v : Json) :
    v.visited.filterMap φ = v.placedBubbles.flatMap fun b => (b.2.bubbleVisits b.1).filterMap φ := by
  unfold visited placedBubbles
  split
  · rw [List.filterMap_flatMap]
    induction v.contents.zipIdx with
    | nil => rfl
    | cons a rest ih =>
      rw [List.flatMap_cons, ih]
      dsimp only [entryVisits]
      by_cases hb : a.1.typeText? = some "bubble"
      · rw [if_pos hb, List.filter_cons_of_pos (by simpa using hb)]
        rfl
      · rw [if_neg hb, List.filter_cons_of_neg (by simpa using hb),
          List.filterMap_cons_none (h _ rfl)]
        rfl
  · rw [List.flatMap_singleton]

/-- Nothing is met at the empty path. -/
theorem ne_nil_of_mem_visited {x : Visit} (h : x ∈ v.visited) : x.path ≠ [] := by
  have hne {s : Segment} (hs : [s] <+: x.path) : x.path ≠ [] := by
    intro hnil
    rw [hnil, List.prefix_nil] at hs
    cases hs
  unfold visited at h
  split at h
  · obtain ⟨⟨e, i⟩, -, hx⟩ := List.mem_flatMap.mp h
    exact hne (leads_of_mem_entryVisits hx).isPrefix
  · exact hne (leads_of_mem_bubbleVisits h).isPrefix

/-! ## The order of the visits -/

/-- The second visit is not at or below the path of the first. -/
def Apart (x y : Visit) : Prop := ¬ x.path <+: y.path

theorem apart_of_steps {x y : Visit} {s t : Segment} (hne : s ≠ t) (hx : path ++ [s] <+: x.path)
    (hy : path ++ [t] <+: y.path) : Apart x y :=
  fun h => hne (Path.step_unique (hx.trans h) hy)

theorem pairwise_zipIdx {α : Type} (xs : List α) :
    xs.zipIdx.Pairwise fun a b => a.2 < b.2 := by
  have h : (xs.zipIdx.map Prod.snd).Pairwise (· < ·) := by
    rw [List.zipIdx_map_snd]
    exact List.pairwise_lt_range' 1
  exact List.pairwise_map.mp h

/-- Items at different indices are apart, with all below them. -/
theorem pairwise_items {items : List Json} {f : Json × Nat → List Visit}
    (hpath : ∀ a, ∀ x ∈ f a, path.item a.2 <+: x.path)
    (hitem : ∀ a, a.1 ∈ items → (f a).Pairwise Apart) :
    (items.zipIdx.flatMap f).Pairwise Apart := by
  rw [List.pairwise_flatMap]
  constructor
  · rintro ⟨w, i⟩ hw
    exact hitem _ (List.mem_of_getElem? (List.mk_mem_zipIdx_iff_getElem?.mp hw))
  · refine (pairwise_zipIdx items).imp fun {a b} hlt x hx y hy => ?_
    refine apart_of_steps ?_ (hpath a x hx) (hpath b y hy)
    intro heq
    rw [Segment.mk.injEq, Option.some_inj] at heq
    omega

theorem pairwise_textVisits (path : Path) (v : Json) : (v.textVisits path).Pairwise Apart := by
  unfold textVisits
  rw [List.map_eq_flatMap]
  apply pairwise_items
  · intro a x hx
    rw [List.mem_singleton.mp hx]
    exact List.prefix_refl _
  · intro a _
    exact List.pairwise_singleton _ _

/-- What is met inside a component is further down. -/
theorem length_lt_of_mem_innerVisits {x : Visit} (h : x ∈ v.innerVisits path) :
    path.length < x.path.length := by
  have hlonger {s : Segment} (hx : path ++ [s] <+: x.path) : path.length < x.path.length := by
    have hle := hx.length_le
    rw [List.length_append, List.length_singleton] at hle
    omega
  rcases mem_innerVisits h with ⟨w, i, -, hx | rfl⟩ | ⟨w, -, hx⟩
  · exact hlonger (leads_of_mem_visits hx).isPrefix
  · exact hlonger (List.prefix_refl _)
  · exact hlonger (leads_of_mem_visits hx).isPrefix

/-- A value is met after all inside it. -/
theorem pairwise_concat {fate : Fate} (h : (v.innerVisits path).Pairwise Apart) :
    (v.innerVisits path ++ [v.met fate path]).Pairwise Apart := by
  rw [List.pairwise_append]
  refine ⟨h, List.pairwise_singleton _ _, fun x hx y hy hprefix => ?_⟩
  rw [List.mem_singleton.mp hy] at hprefix
  exact absurd hprefix.length_le (Nat.not_le.mpr (length_lt_of_mem_innerVisits hx))

theorem pairwise_innerVisits (hcontents : ∀ w ∈ v.contents, ∀ path, (w.visits path).Pairwise Apart)
    (halt : ∀ w, v.slot? "altContent" = some w → ∀ path, (w.visits path).Pairwise Apart) :
    (v.innerVisits path).Pairwise Apart := by
  unfold innerVisits
  split
  · exact pairwise_items (fun a x hx => (leads_of_mem_visits hx).isPrefix)
      fun a ha => hcontents a.1 ha _
  · exact pairwise_textVisits path v
  · rcases hw : v.slot? "altContent" with _ | w
    · exact List.Pairwise.nil
    · exact halt w hw _
  · exact List.Pairwise.nil

theorem pairwise_visits (path : Path) (v : Json) : (v.visits path).Pairwise Apart := by
  induction v using position_induction generalizing path with
  | step v hcontents halt =>
    rw [visits_eq]
    exact pairwise_concat (pairwise_innerVisits hcontents halt)

theorem pairwise_sectionVisits (path : Path) (v : Json) (name : String) :
    (v.sectionVisits path name).Pairwise Apart := by
  unfold sectionVisits boxedVisits slotVisits
  rcases v.slot? name with _ | w
  · rw [ite_self]
    exact List.Pairwise.nil
  · dsimp only
    split
    · split
      · exact pairwise_concat (pairwise_innerVisits (fun _ _ path => pairwise_visits path _)
          fun _ _ path => pairwise_visits path _)
      · exact List.pairwise_singleton _ _
    · exact pairwise_visits _ w

/-- The second visit is not at or below the path of the first, unless that is a bubble. -/
def InOrder (x y : Visit) : Prop := x.fate ≠ .bubble → Apart x y

theorem postorder_bubbleVisits (path : Path) (v : Json) :
    (v.bubbleVisits path).Pairwise InOrder := by
  have hslots : ∀ name ∈ ["header", "hero", "body", "footer"], name ∈ slotNames := by decide
  have hnames : ["header", "hero", "body", "footer"].Pairwise (· ≠ ·) := by decide
  have hsections : (["header", "hero", "body", "footer"].flatMap
      (v.sectionVisits path)).Pairwise Apart := by
    rw [List.pairwise_flatMap]
    refine ⟨fun name _ => pairwise_sectionVisits path v name, ?_⟩
    refine hnames.imp_of_mem fun {a b} ha hb hne x hx y hy => ?_
    refine apart_of_steps ?_ (leads_of_mem_sectionVisits (hslots a ha) hx).2
      (leads_of_mem_sectionVisits (hslots b hb) hy).2
    intro heq
    cases heq
    exact hne rfl
  unfold bubbleVisits
  refine List.pairwise_cons.mpr ⟨fun y _ hne => absurd rfl hne, ?_⟩
  apply hsections.imp
  intro x y h _
  exact h

theorem postorder_entryVisits (i : Nat) (v : Json) : (v.entryVisits i).Pairwise InOrder := by
  unfold entryVisits
  split
  · exact postorder_bubbleVisits _ v
  · exact List.pairwise_singleton _ _

/-- Every value is met after all that stands inside it, bubbles apart. So no two values that are
met share a path, bubbles apart. -/
theorem postorder_visited (v : Json) : v.visited.Pairwise InOrder := by
  unfold visited
  split
  · rw [List.pairwise_flatMap]
    constructor
    · exact fun a _ => postorder_entryVisits a.2 a.1
    · refine (pairwise_zipIdx v.contents).imp fun {a b} hlt x hx y hy _ => ?_
      have ha : ([] : Path) ++ [⟨"contents", some a.2⟩] <+: x.path :=
        (leads_of_mem_entryVisits hx).isPrefix
      refine apart_of_steps ?_ ha (leads_of_mem_entryVisits hy).isPrefix
      intro heq
      rw [Segment.mk.injEq, Option.some_inj] at heq
      omega
  · exact postorder_bubbleVisits _ v

end Json

end FlexLayout
