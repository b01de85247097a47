import FlexLayout.Proofs.Document.Location
import FlexLayout.Proofs.Resolve.Kinds
import FlexLayout.Proofs.Resolve.Unplaced

/-!
# Paths of failures

The path of a failure, read as names and indices, leads to the component that has no place. It
starts at the document if the contents are a bubble, and at the contents if they are a carousel.
`located_of_mem_unplaced` finds a location for every component without a place, and
`json_reject_address` reads the location off the text of the failure.
-/

namespace FlexLayout

open FlexLayout.Document (Component Site Located BubbleAt boxedSections)

/-! ## Values without a place -/

/-- A value has no place at a site, and `kind` is reported of it. A carousel takes bubbles, the
header, body and footer take boxes, and every other site takes the known kinds. -/
def Document.Site.Refuses (site : Site) (w : Json) (kind : String) : Prop :=
  match site with
  | .entry => Json.discriminant (w.field? "type") = kind ∧ kind ≠ "bubble"
  | .boxed => w.kind? ≠ some .box ∧ w.typeText?.getD "" = kind
  | .hero | .alt | .boxItem | .textItem => w.typeText?.getD "" = kind ∧ kind ∉ Kind.words

namespace Document

/-- A value of an unknown kind has no place anywhere in a bubble. -/
theorem Site.refuses_of_kind {site : Site} {w : Json} (hsite : site ≠ .entry)
    (h : w.kind? = none) : site.Refuses w (w.typeText?.getD "") := by
  cases site with
  | entry => exact absurd rfl hsite
  | boxed => exact ⟨by rw [h]; rintro ⟨⟩, rfl⟩
  | _ => exact ⟨rfl, not_mem_words h⟩

theorem Entry.ofJson_eq_unknown {e : Json} {kind : String} (h : ofJson e = unknown kind) :
    Site.Refuses .entry e kind := by
  unfold ofJson at h
  split at h
  · cases h
  · rename_i hne
    cases h
    exact ⟨rfl, hne⟩

theorem Entry.ofJson_eq_bubble {e : Json} {b : Bubble} (h : ofJson e = bubble b) :
    e.typeText? = some "bubble" ∧ b = .ofFields e.fields := by
  unfold ofJson at h
  split at h
  · rename_i hd
    cases h
    exact ⟨Json.typeText?_eq_some_iff.mpr ((Json.discriminant_eq_iff Json.isWord_bubble).mp hd),
      rfl⟩
  · cases h

/-! ## Locations of components without a place -/

variable {c : Json} {kind : String}

/-- What has no place below a located component is located itself. -/
theorem located_of_component {w : Json} {site : Site} {path q : Path} (hw : Located c site path w)
    (hsite : site ≠ .entry) (h : (kind, q) ∈ (Component.ofJson w).unplaced path) :
    ∃ site x, Located c site q x ∧ site.Refuses x kind := by
  induction w using Json.position_induction generalizing site path with
  | step w hcontents halt =>
    rcases hk : w.kind? with _ | k
    · rw [Component.ofJson_eq, hk] at h
      cases List.mem_singleton.mp h
      exact ⟨site, w, hw, Site.refuses_of_kind hsite hk⟩
    · cases k with
      | box =>
        rw [Component.ofJson_box hk, Component.unplaced] at h
        obtain ⟨i, x, hx, hmem⟩ := Component.mem_unplacedFrom h
        rw [List.getElem?_map, Option.map_eq_some_iff] at hx
        obtain ⟨v, hv, rfl⟩ := hx
        rw [Nat.zero_add] at hmem
        exact hcontents v (List.mem_of_getElem? hv) (.boxItem hw hsite hk hv) (by decide) hmem
      | text =>
        rw [Component.ofJson_text hk, Component.unplaced] at h
        obtain ⟨i, hi, rfl⟩ := mem_unplacedSpans h
        rw [List.getElem?_map, Option.map_eq_some_iff] at hi
        obtain ⟨v, hv, hunknown⟩ := hi
        obtain ⟨hnone, rfl⟩ := Component.ofJson_eq_unknown hunknown
        rw [Nat.zero_add]
        exact ⟨.textItem, v, .textItem hw hsite hk hv, Site.refuses_of_kind (by decide) hnone⟩
      | video =>
        rw [Component.ofJson_video hk] at h
        rcases hx : w.slot? "altContent" with _ | v
        · rw [hx] at h
          cases h
        · rw [hx, Option.map_some, Component.unplaced] at h
          exact halt v hx (.alt hw hsite hk hx) (by decide) h
      | _ =>
        rw [Component.ofJson_eq, hk] at h
        cases h

/-- A header, body or footer that is no box has no place itself. -/
theorem unplacedBoxed_of_ne {w : Json} (h : w.kind? ≠ some .box) (path : Path) :
    unplacedBoxed path (some (.ofJson w)) = [(w.typeText?.getD "", path)] := by
  rw [← Component.kind_ofJson, Component.ofJson_eq]
  rcases hk : w.kind? with _ | k
  · rfl
  · cases k with
    | box => exact absurd hk h
    | _ => rfl

theorem located_of_boxed {b : Json} {path q : Path} {name : String} (hb : BubbleAt c path b)
    (hname : name ∈ boxedSections)
    (h : (kind, q) ∈ unplacedBoxed (path.field name) ((b.slot? name).map .ofJson)) :
    ∃ site x, Located c site q x ∧ site.Refuses x kind := by
  rcases hw : b.slot? name with _ | w
  · rw [hw] at h
    cases h
  · have hlocated : Located c .boxed (path.field name) w := .boxed hb hname hw
    rw [hw, Option.map_some] at h
    by_cases hk : w.kind? = some .box
    · refine located_of_component hlocated (by decide) ?_
      rw [Component.ofJson_box hk] at h ⊢
      exact h
    · rw [unplacedBoxed_of_ne hk] at h
      cases List.mem_singleton.mp h
      exact ⟨.boxed, w, hlocated, hk, rfl⟩

theorem located_of_bubble {b : Json} {path q : Path} (hb : BubbleAt c path b)
    (h : (kind, q) ∈ (Bubble.ofFields b.fields).unplaced path) :
    ∃ site x, Located c site q x ∧ site.Refuses x kind := by
  simp only [Bubble.unplaced, Bubble.ofFields, sectionOf_eq, List.mem_append, or_assoc] at h
  rcases h with h | h | h | h
  · exact located_of_boxed hb (by decide) h
  · rcases hw : b.slot? "hero" with _ | w
    · rw [hw] at h
      cases h
    · rw [hw] at h
      exact located_of_component (.hero hb hw) (by decide) h
  · exact located_of_boxed hb (by decide) h
  · exact located_of_boxed hb (by decide) h

/-! ## Paths from the top -/

/-- Where the paths of failures start: at a carousel itself, or else at the document. -/
def origin (v c : Json) : Json := if c.typeText? = some "carousel" then c else v

/-- The path of a failure at a path of the container. -/
def written (c : Json) (q : Path) : Path :=
  if c.typeText? = some "carousel" then q else Resolve.contentsPath ++ q

theorem at?_written {v : Json} (hc : v.field? "contents" = some c) (q : Path) :
    (origin v c).at? (written c q) = c.at? q := by
  unfold origin written
  split
  · rfl
  · have hstep : v.at? Resolve.contentsPath = some c := by
      show (v.field? "contents").bind (fun x => some x) = some c
      rw [hc, Option.bind_some]
    rw [Json.at?_append, hstep, Option.bind_some]

theorem written_ne_nil {q : Path} (h : q ≠ []) : written c q ≠ [] := by
  unfold written
  split
  · exact h
  · exact List.cons_ne_nil _ _

theorem clear_written {q : Path} (h : ∀ s ∈ q, s.Clear) : ∀ s ∈ written c q, s.Clear := by
  have hcontents : ∀ s ∈ Resolve.contentsPath, s.Clear := by decide
  unfold written
  split
  · exact h
  · intro s hs
    rcases List.mem_append.mp hs with hs | hs
    · exact hcontents s hs
    · exact h s hs

theorem written_injective {q q' : Path} (h : written c q = written c q') : q = q' := by
  unfold written at h
  split at h
  · exact h
  · exact List.append_cancel_left h

/-- Different locations have different texts. -/
theorem Located.eq_of_text_eq {site site' : Site} {q q' : Path} {w w' : Json}
    (h : Located c site q w) (h' : Located c site' q' w')
    (htext : (written c q).text = (written c q').text) : q = q' :=
  written_injective (Path.eq_of_text_eq (written_ne_nil h.ne_nil) (clear_written h.clear)
    (written_ne_nil h'.ne_nil) (clear_written h'.clear) htext)

/-- Every component without a place is located. -/
theorem located_of_mem_unplaced {d : Container} (hd : Container.ofJson c = .ok d) {path : Path}
    (h : (kind, path) ∈ d.unplaced) :
    ∃ site q w, path = written c q ∧ Located c site q w ∧ site.Refuses w kind := by
  rcases Resolve.container_cases hd with ⟨ht, rfl⟩ | ⟨ht, rfl⟩
  · have hwritten (q : Path) : written c q = Resolve.contentsPath ++ q := by
      unfold written
      rw [ht, if_neg (by decide)]
    have h : (kind, path) ∈ (Bubble.ofFields c.fields).unplaced Resolve.contentsPath := h
    rw [Bubble.unplaced_eq_atPath] at h
    obtain ⟨q, hmem, rfl⟩ := mem_atPath.mp h
    obtain ⟨site, w, hw, hrefuses⟩ := located_of_bubble (.single ht) hmem
    exact ⟨site, q, w, (hwritten q).symm, hw, hrefuses⟩
  · have hwritten (q : Path) : written c q = q := by
      unfold written
      rw [ht, if_pos rfl]
    obtain ⟨i, e, he, h⟩ := mem_unplacedEntries h
    rw [List.getElem?_map, Option.map_eq_some_iff] at he
    obtain ⟨x, hx, rfl⟩ := he
    rw [Nat.zero_add] at h
    rcases h with ⟨b, hb, hmem⟩ | ⟨hunknown, rfl⟩
    · obtain ⟨hbubble, rfl⟩ := Entry.ofJson_eq_bubble hb
      obtain ⟨site, w, hw, hrefuses⟩ := located_of_bubble (.entry ht hx hbubble) hmem
      exact ⟨site, path, w, (hwritten path).symm, hw, hrefuses⟩
    · exact ⟨.entry, _, x, (hwritten _).symm, .entry ht hx, Entry.ofJson_eq_unknown hunknown⟩

/-- No two components without a place are reported with the same text. -/
theorem nodup_texts {d : Container} (hd : Container.ofJson c = .ok d) :
    ((paths d.unplaced).map Path.text).Nodup := by
  refine List.Nodup.map_on (fun p hp q hq htext => ?_) (Container.nodup_unplaced d)
  obtain ⟨⟨_, _⟩, hu, rfl⟩ := List.mem_map.mp hp
  obtain ⟨⟨_, _⟩, hv, rfl⟩ := List.mem_map.mp hq
  obtain ⟨_, p, _, rfl, hp, -⟩ := located_of_mem_unplaced hd hu
  obtain ⟨_, q, _, rfl, hq, -⟩ := located_of_mem_unplaced hd hv
  exact congrArg (written c) (hp.eq_of_text_eq hq htext)

end Document

/-! ## Failures -/

namespace Resolve

open FlexLayout.Document (origin written)

/-- What skipping leaves out of a document. -/
theorem skipped_json {v : Json} {m : Document.Message} (h : Document.Message.ofJson v = .ok m) :
    (json .skip v).skipped = m.unplaced := by
  rw [json_of_ok h]
  exact (yields_message m).skip_skipped

/-- **Addresses.** A document that is rejected for a component without a place has contents, and
the text of the path reads as a path that leads, from the carousel or else from the document, to a
value that has no place at its site and is of the reported kind. Any two locations of a document
have different texts, and no two components that skipping leaves out are reported with the same
text. -/
theorem json_reject_address (v : Json) :
    (∀ kind path, (json .reject v).result = .error (.unknownComponent kind path) →
      ∃ c site q w, v.field? "contents" = some c ∧ Path.ofText? path.text = some (written c q) ∧
        (origin v c).at? (written c q) = some w ∧ Located c site q w ∧ site.Refuses w kind) ∧
      (∀ c, v.field? "contents" = some c → ∀ site site' q q' w w', Located c site q w →
        Located c site' q' w' → q ≠ q' → (written c q).text ≠ (written c q').text) ∧
      ((json .skip v).skipped.map fun u => u.2.text).Nodup := by
  refine ⟨fun kind path h => ?_, fun c _ site site' q q' w w' hq hq' hne htext =>
    hne (hq.eq_of_text_eq hq' htext), ?_⟩
  · rcases hm : Document.Message.ofJson v with fault | m
    · rw [json_of_error hm] at h
      cases h
    · obtain ⟨c, hc, hcontents⟩ := exists_contents hm
      rw [json_of_ok hm] at h
      obtain ⟨-, kind', path', rest, hunplaced, heq⟩ := (yields_message m).of_failure h
      cases heq
      have hmem : (kind, path) ∈ m.contents.unplaced := by
        rw [show m.contents.unplaced = m.unplaced from rfl, hunplaced]
        exact List.mem_cons_self
      obtain ⟨site, q, w, rfl, hw, hrefuses⟩ := Document.located_of_mem_unplaced hcontents hmem
      refine ⟨c, site, q, w, hc, ?_, ?_, hw, hrefuses⟩
      · exact Path.ofText?_of_clear (Document.written_ne_nil hw.ne_nil)
          (Document.clear_written hw.clear)
      · rw [Document.at?_written hc]
        exact hw.at?
  · rcases hm : Document.Message.ofJson v with fault | m
    · have hskip : (json .skip v).skipped = [] := by
        unfold json
        rw [hm]
        rfl
      rw [hskip]
      exact List.nodup_nil
    · obtain ⟨c, -, hcontents⟩ := exists_contents hm
      have htexts := Document.nodup_texts hcontents
      unfold Document.paths at htexts
      rw [List.map_map] at htexts
      rw [skipped_json hm]
      exact htexts

/-- A carousel whose first bubble has a hero without a kind. -/
theorem json_reject_address_mixed :
    (json .reject Document.mixed).result =
        .error (.unknownComponent "" [⟨"contents", some 0⟩, ⟨"hero", none⟩]) ∧
      ∃ c site q w, Document.mixed.field? "contents" = some c ∧
        Path.ofText? "contents[0].hero" = some (written c q) ∧
        (origin Document.mixed c).at? (written c q) = some w ∧ Located c site q w ∧
          site.Refuses w "" := by
  have h : (json .reject Document.mixed).result =
      .error (.unknownComponent "" [⟨"contents", some 0⟩, ⟨"hero", none⟩]) := rfl
  have htext : Path.text [⟨"contents", some 0⟩, ⟨"hero", none⟩] = "contents[0].hero" := by
    decide +kernel
  have haddress := (json_reject_address Document.mixed).1 _ _ h
  rw [htext] at haddress
  exact ⟨h, haddress⟩

end Resolve

end FlexLayout
