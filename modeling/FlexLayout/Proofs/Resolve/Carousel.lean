import FlexLayout.Proofs.Document.PathText
import FlexLayout.Proofs.Resolve.Kinds
import FlexLayout.Proofs.Resolve.Unplaced

/-!
# Carousels, entry by entry

A carousel is resolved like its entries one by one, each as the only bubble of a message of its
own. An entry that is a bubble yields the bubble of its message, and what it leaves without a place
stands below the entry where it stood below the contents (`yields_alone`, `yields_carousel`). So
skipping maps the bubbles, and rejecting stops at the first entry that is no bubble or whose own
message is rejected.
-/

namespace FlexLayout

open FlexLayout.Document (Entry Bubble)

/-! ## Messages around a value -/

namespace Document

/-- A message whose contents are the value `c`. -/
structure Carries (v c : Json) : Prop where
  altText : AltTextIsText v
  flex : IsFlex v
  contents : v.field? "contents" = some c

theorem Carries.ofJson {v c : Json} (h : Carries v c) {d : Container}
    (hd : Container.ofJson c = .ok d) : ∃ s, Message.ofJson v = .ok ⟨s, d⟩ := by
  obtain ⟨s, hs⟩ := Message.ofJson_of_isFlex h.altText h.flex
  rw [h.contents, Option.getD_some, hd] at hs
  exact ⟨s, hs⟩

/-- A message with nothing but its contents. -/
def alone (c : Json) : Json := .object [("type", .string "flex"), ("contents", c)]

theorem carries_alone (c : Json) : Carries (alone c) c where
  altText := by rintro a ⟨⟩
  flex := ⟨rfl, rfl⟩
  contents := rfl

/-! ## Entries without a place -/

/-- The components without a place in an entry of a carousel. -/
def Entry.unplaced (path : Path) : Entry → List (String × Path)
  | .bubble b => b.unplaced path
  | .unknown kind => [(kind, path)]

theorem Entry.unplaced_eq_atPath (p : Path) (e : Entry) :
    e.unplaced p = atPath p (e.unplaced []) := by
  cases e with
  | bubble b => exact b.unplaced_eq_atPath p
  | unknown kind =>
    show [(kind, p)] = [(kind, p ++ [])]
    rw [List.append_nil]

theorem Entry.unplaced_eq_nil_iff (p : Path) {e : Entry} :
    e.unplaced p = [] ↔ e.unplaced [] = [] := by
  rw [e.unplaced_eq_atPath p]
  exact List.map_eq_nil_iff

theorem unplacedEntries_cons (i : Nat) (e : Entry) (rest : List Entry) :
    unplacedEntries i (e :: rest) =
      e.unplaced (Resolve.entryPath i) ++ unplacedEntries (i + 1) rest := by
  cases e <;> rfl

theorem unplacedEntries_eq_nil_iff {i : Nat} {es : List Entry} :
    unplacedEntries i es = [] ↔ ∀ e ∈ es, e.unplaced [] = [] := by
  induction es generalizing i with
  | nil => simp [unplacedEntries]
  | cons e rest ih =>
    rw [unplacedEntries_cons, List.append_eq_nil_iff, ih, Entry.unplaced_eq_nil_iff,
      List.forall_mem_cons]

/-- The first component without a place belongs to the first entry that has any. -/
theorem exists_first_unplaced {i : Nat} {es : List Entry} {u : String × Path}
    {us : List (String × Path)} (h : unplacedEntries i es = u :: us) :
    ∃ (j : Nat) (e : Entry), es[j]? = some e ∧
      (∀ k < j, ∀ x : Entry, es[k]? = some x → x.unplaced [] = []) ∧
      (e.unplaced (Resolve.entryPath (i + j))).head? = some u := by
  induction es generalizing i with
  | nil => cases h
  | cons e rest ih =>
    rw [unplacedEntries_cons] at h
    rcases he : e.unplaced (Resolve.entryPath i) with _ | ⟨w, ws⟩
    · rw [he, List.nil_append] at h
      obtain ⟨j, x, hx, hbefore, hhead⟩ := ih h
      refine ⟨j + 1, x, hx, fun k hk y hy => ?_, ?_⟩
      · cases k with
        | zero =>
          cases hy
          exact (Entry.unplaced_eq_nil_iff _).mp he
        | succ k => exact hbefore k (by omega) y hy
      · rwa [Nat.add_right_comm, Nat.add_assoc] at hhead
    · rw [he] at h
      cases h
      exact ⟨0, e, rfl, fun k hk => by omega, by rw [Nat.add_zero, he, List.head?_cons]⟩

end Document

/-! ## Entries and their own messages -/

namespace Resolve

open FlexLayout.Document (Carries alone)

/-- A bubble in a message of its own. -/
theorem yields_alone {w e : Json} (h : Carries w e) (he : e.typeText? = some "bubble") :
    ∃ s, Yields (fun p => json p w) ((Bubble.ofFields e.fields).unplaced contentsPath)
      ⟨s, .bubble (bubbleOf (.ofFields e.fields))⟩ := by
  obtain ⟨s, hs⟩ := h.ofJson (Document.Container.ofJson_bubble (Json.typeText?_eq_some_iff.mp he))
  refine ⟨s, ?_⟩
  simp only [json_of_ok hs]
  exact yields_message _

/-- A carousel in a message. -/
theorem yields_carousel {v c : Json} (h : Carries v c) (hc : c.typeText? = some "carousel") :
    ∃ s, Yields (fun p => json p v) (Document.unplacedEntries 0 (c.contents.map Entry.ofJson))
      ⟨s, .carousel (carousel (bubblesOf (c.contents.map Entry.ofJson)))⟩ := by
  obtain ⟨s, hs⟩ :=
    h.ofJson (Document.Container.ofJson_carousel (Json.typeText?_eq_some_iff.mp hc))
  refine ⟨s, ?_⟩
  simp only [json_of_ok hs]
  exact yields_message _

/-- An entry is a bubble, and `w` is a message of its own that is resolved under rejection. -/
def StandsAlone (w e : Json) : Prop :=
  e.typeText? = some "bubble" ∧ ∃ t, (json .reject w).result = .ok t

theorem entry_ofJson_bubble {e : Json} (he : e.typeText? = some "bubble") :
    Entry.ofJson e = .bubble (.ofFields e.fields) := by
  rw [Entry.ofJson, Json.typeText?_eq_some_iff.mp he]
  rfl

theorem entry_ofJson_unknown {e : Json} (he : e.typeText? ≠ some "bubble") :
    Entry.ofJson e = .unknown (Json.discriminant (e.field? "type")) := by
  unfold Entry.ofJson
  split
  · rename_i hd
    rw [Json.discriminant_eq_iff Json.isWord_bubble, ← Json.typeText?_eq_some_iff] at hd
    exact (he hd).elim
  · rfl

/-- An entry leaves nothing without a place just if it stands alone. -/
theorem unplaced_eq_nil_iff_standsAlone {w e : Json} (h : Carries w e) :
    (Entry.ofJson e).unplaced [] = [] ↔ StandsAlone w e := by
  by_cases he : e.typeText? = some "bubble"
  · obtain ⟨s, hs⟩ := yields_alone h he
    rw [entry_ofJson_bubble he, ← Entry.unplaced_eq_nil_iff contentsPath]
    constructor
    · intro hnil
      rw [show (Bubble.ofFields e.fields).unplaced contentsPath = [] from hnil] at hs
      exact ⟨he, _, hs.result_eq .reject⟩
    · rintro ⟨-, t, ht⟩
      exact (hs.of_result ht).2 rfl
  · rw [entry_ofJson_unknown he]
    constructor
    · rintro ⟨⟩
    · rintro ⟨hbubble, -⟩
      exact (he hbubble).elim

/-- What rejection reports of an entry: its discriminant if it is no bubble, and otherwise what its
own message fails for, below the entry and not below the contents. -/
theorem failure_of_head {w e : Json} (h : Carries w e) {i : Nat} {kind : String} {path : Path}
    (hhead : ((Entry.ofJson e).unplaced (entryPath i)).head? = some (kind, path)) :
    (e.typeText? ≠ some "bubble" ∧ kind = Json.discriminant (e.field? "type") ∧
        path = entryPath i) ∨
      (e.typeText? = some "bubble" ∧ ∃ below, path = entryPath i ++ below ∧
        (json .reject w).result = .error (.unknownComponent kind (contentsPath ++ below))) := by
  by_cases he : e.typeText? = some "bubble"
  · obtain ⟨s, hs⟩ := yields_alone h he
    rw [entry_ofJson_bubble he, Entry.unplaced, Bubble.unplaced_eq_atPath] at hhead
    rw [Bubble.unplaced_eq_atPath] at hs
    rcases hu : (Bubble.ofFields e.fields).unplaced [] with _ | ⟨⟨k, below⟩, rest⟩
    · rw [hu] at hhead
      cases hhead
    · rw [hu] at hhead hs
      cases hhead
      exact .inr ⟨he, below, rfl, hs.result_eq .reject⟩
  · rw [entry_ofJson_unknown he] at hhead
    cases hhead
    exact .inl ⟨he, rfl, rfl⟩

/-- **Carousels.** Take a message that carries a carousel, and for every entry a message that
carries the entry. Under skipping the bubbles of the carousel are, in order and one each, those of
the messages of the entries that are bubbles. Under rejection the carousel is resolved just if
every entry is a bubble whose message is resolved; otherwise it fails for the first entry of which
this does not hold: with its discriminant at its own path if it is no bubble, and else with the
failure of its message, its path starting at the entry in place of the contents. -/
theorem json_carousel (v c : Json) (hv : Carries v c) (hc : c.typeText? = some "carousel")
    (single : Json → Json) (hsingle : ∀ e ∈ c.contents, Carries (single e) e) :
    (∃ t, (json .skip v).result = .ok t ∧
      List.Forall₂ (fun e b => ∃ s, (json .skip (single e)).result = .ok ⟨s, .bubble b⟩)
        (c.contents.filter fun e => e.typeText? = some "bubble") t.bubbles) ∧
      ((∃ t, (json .reject v).result = .ok t) ↔ ∀ e ∈ c.contents, StandsAlone (single e) e) ∧
      (∀ f, (json .reject v).result = .error f →
        ∃ i e kind path, c.contents[i]? = some e ∧ f = .unknownComponent kind path ∧
          ¬ StandsAlone (single e) e ∧
          (∀ j < i, ∀ x, c.contents[j]? = some x → StandsAlone (single x) x) ∧
          ((e.typeText? ≠ some "bubble" ∧ kind = Json.discriminant (e.field? "type") ∧
              path = entryPath i) ∨
            (e.typeText? = some "bubble" ∧ ∃ below, path = entryPath i ++ below ∧
              (json .reject (single e)).result =
                .error (.unknownComponent kind (contentsPath ++ below))))) ∧
      ∀ (i : Nat) (below : Path),
        (entryPath i).text = "contents[" ++ toString i ++ "]" ∧
          (contentsPath ++ below).text = "contents" ++ below.suffix ∧
          (entryPath i ++ below).text = "contents[" ++ toString i ++ "]" ++ below.suffix := by
  obtain ⟨s, hs⟩ := yields_carousel hv hc
  have hstands : ∀ e ∈ c.contents, (Entry.ofJson e).unplaced [] = [] ↔
      StandsAlone (single e) e := fun e he => unplaced_eq_nil_iff_standsAlone (hsingle e he)
  have hentry (i : Nat) : (entryPath i).text = "contents[" ++ toString i ++ "]" := by
    show String.intercalate "." ["contents" ++ "[" ++ toString i ++ "]"] = _
    rw [String.intercalate_singleton]
    rfl
  refine ⟨⟨_, hs.skip_result, ?_⟩, ?_, fun f hf => ?_, fun i below => ⟨hentry i, ?_, ?_⟩⟩
  · show List.Forall₂ _ _ (bubblesOf (c.contents.map Entry.ofJson))
    rw [bubblesOf_map_ofJson, List.forall₂_map_right_iff, List.forall₂_same]
    intro e he
    obtain ⟨hmem, hbubble⟩ := List.mem_filter.mp he
    obtain ⟨s', hs'⟩ := yields_alone (hsingle e hmem) (of_decide_eq_true hbubble)
    exact ⟨s', hs'.skip_result⟩
  · have hnil : Document.unplacedEntries 0 (c.contents.map Entry.ofJson) = [] ↔
        ∀ e ∈ c.contents, StandsAlone (single e) e := by
      rw [Document.unplacedEntries_eq_nil_iff, List.forall_mem_map]
      exact forall₂_congr hstands
    rw [← hnil]
    constructor
    · rintro ⟨t, ht⟩
      exact (hs.of_result ht).2 rfl
    · intro h
      rw [h] at hs
      exact ⟨_, hs.result_eq .reject⟩
  · obtain ⟨-, kind, path, rest, hunplaced, rfl⟩ := hs.of_failure hf
    obtain ⟨i, x, hx, hbefore, hhead⟩ := Document.exists_first_unplaced hunplaced
    rw [List.getElem?_map, Option.map_eq_some_iff] at hx
    obtain ⟨e, he, rfl⟩ := hx
    have hmem := List.mem_of_getElem? he
    rw [Nat.zero_add] at hhead
    refine ⟨i, e, kind, path, he, rfl, fun hstand => ?_, fun j hj x hx => ?_,
      failure_of_head (hsingle e hmem) hhead⟩
    · rw [(Entry.unplaced_eq_nil_iff _).mpr ((hstands e hmem).mpr hstand)] at hhead
      cases hhead
    · refine (hstands x (List.mem_of_getElem? hx)).mp (hbefore j hj _ ?_)
      rw [List.getElem?_map, hx, Option.map_some]
  · exact Path.text_append (List.cons_ne_nil _ _) below
  · rw [← hentry i]
    exact Path.text_append (List.cons_ne_nil _ _) below

/-- A carousel whose first bubble holds a hero without a kind, and whose second entry is no
bubble. -/
theorem json_carousel_mixed :
    ∃ c, Carries Document.mixed c ∧ c.typeText? = some "carousel" ∧
      (∀ e ∈ c.contents, Carries (alone e) e) ∧
      (∃ t, (json .skip Document.mixed).result = .ok t ∧ t.bubbles.length = 1) ∧
      ∃ e, c.contents[0]? = some e ∧
        (json .reject Document.mixed).result =
          .error (.unknownComponent "" (entryPath 0 ++ [⟨"hero", none⟩])) ∧
        (json .reject (alone e)).result =
          .error (.unknownComponent "" (contentsPath ++ [⟨"hero", none⟩])) := by
  have hmixed : Carries Document.mixed _ :=
    ⟨Document.mixed_altText, Document.mixed_isFlex, rfl⟩
  have h := json_carousel Document.mixed _ hmixed rfl alone fun e _ => Document.carries_alone e
  refine ⟨_, hmixed, rfl, fun e _ => Document.carries_alone e, ?_, _, rfl, rfl, rfl⟩
  obtain ⟨t, ht, hall⟩ := h.1
  exact ⟨t, ht, hall.length_eq.symm⟩

end Resolve

end FlexLayout
