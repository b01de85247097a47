import FlexLayout.Proofs.Resolve.Carousel
import FlexLayout.Proofs.Sample.Component

/-!
# Messages of a sample

Every sample is a message that is resolved. `ContentsGrown` says what its contents look like,
however the dice fall; nothing in them is without a place but the strays that were asked for, so
rejection can fail for a stray only (`always_valid`).
-/

namespace FlexLayout

namespace Json

/-- An object in a field is in the slot of that name. -/
theorem slot?_of_field {v w : Json} {name : String} (h : v.field? name = some w)
    (hw : w.isObject = true) : v.slot? name = some w := by
  unfold slot?
  rw [h]
  cases w with
  | object fs => rfl
  | _ => cases hw

theorem isObject_of_kind {v : Json} {k : Kind} (h : v.kind? = some k) : v.isObject = true := by
  cases v with
  | object fs => rfl
  | _ => cases h

end Json

namespace Sample

open FlexLayout.Document (Component Bubble Entry Carries)

/-- The bounds that a sample can keep. -/
structure Shape.Proper (s : Shape) : Prop where
  depth : 1 ≤ s.depth
  width : 1 ≤ s.width

/-! ## Bubbles -/

/-- A box of a sample that may stand in a section. -/
structure BoxGrown (s : Shape) (w : Json) : Prop where
  kind : w.kind? = some .box
  grown : Grown s.unknown s.Admits s.depth w

/-- A box of two buttons, whatever the shape. -/
structure IsFooter (w : Json) : Prop where
  kind : w.kind? = some .box
  length : w.contents.length = 2
  buttons : ∀ x ∈ w.contents, x.kind? = some .button

/-- What a bubble of a sample holds. -/
structure BubbleGrown (s : Shape) (v : Json) : Prop where
  type : v.typeText? = some "bubble"
  body : ∃ w, v.slot? "body" = some w ∧ BoxGrown s w
  header : ∀ w, v.slot? "header" = some w → BoxGrown s w
  hero : ∀ w, v.slot? "hero" = some w → w.kind? = some .image
  footer : ∀ w, v.slot? "footer" = some w → IsFooter w

variable {s : Shape}

theorem always_footer : Always footer IsFooter := by
  refine .bind always_button fun first hfirst => .bind always_button fun second hsecond => .pure ?_
  have hcontents := Json.contents_of_field (v := object [
    ("contents", some (.array [first, second])), ("layout", text "vertical"),
    ("spacing", text "sm"), ("type", text "box")]) (by simp; rfl)
  refine ⟨kind?_of_type (by simp; rfl), ?_, ?_⟩
  · rw [hcontents]
    rfl
  · rw [hcontents]
    simp [hfirst, hsecond]

/-- A box with room for a given number of boxes below it. -/
theorem always_boxGrown (hs : s.Proper) (room : Nat) (h : room + 1 ≤ s.depth) :
    Always (box s (component s room)) (BoxGrown s) :=
  (always_box hs.width (always_component hs.width room)).imp fun _ hv =>
    ⟨hv.1, (Grown.of_box hv).mono h⟩

theorem always_bubble (hs : s.Proper) : Always (bubble s) (BubbleGrown s) := by
  have hdepth := hs.depth
  have hbody := always_boxGrown hs (s.depth - 1) (by omega)
  have hheader := always_boxGrown hs (s.depth - 2) (by omega)
  refine .bind hbody fun body hbody => .bind (.maybe always_footer 50) fun footer hfooter =>
    .bind (.maybe hheader 50) fun header hheader => .bind (.maybe always_image 50) fun hero hhero =>
      .after fun _ => .after fun _ => .pure ?_
  refine ⟨Json.typeText?_eq_some_iff.mpr (by simp; rfl), ⟨body, ?_, hbody⟩, fun w hw => ?_,
    fun w hw => ?_, fun w hw => ?_⟩
  · exact Json.slot?_of_field (by simp) (Json.isObject_of_kind hbody.kind)
  · have hfield := Json.field_of_slot hw
    exact hheader w (by simpa using hfield)
  · have hfield := Json.field_of_slot hw
    exact hhero w (by simpa using hfield)
  · have hfield := Json.field_of_slot hw
    exact hfooter w (by simpa using hfield)

/-! ## Containers and messages -/

/-- The contents of a sample of `n` bubbles. -/
inductive ContentsGrown (s : Shape) (n : Nat) (c : Json) : Prop where
  | bubble : n = 1 → BubbleGrown s c → ContentsGrown s n c
  | carousel : n ≠ 1 → c.typeText? = some "carousel" → c.contents.length = n →
    (∀ e ∈ c.contents, BubbleGrown s e) → ContentsGrown s n c

theorem always_contents (hs : s.Proper) (n : Nat) :
    Always (contents s n) (ContentsGrown s n) := by
  unfold contents
  split
  · rename_i hn
    exact (always_bubble hs).imp fun c hc => .bubble hn hc
  · rename_i hn
    refine .bind (.many (always_bubble hs) n) fun items hitems => .pure ?_
    have hcontents := Json.contents_of_field (v := object [
      ("contents", some (.array items)), ("type", text "carousel")]) (by simp; rfl)
    refine .carousel hn (Json.typeText?_eq_some_iff.mpr (by simp; rfl)) ?_ ?_
    · rw [hcontents]
      exact hitems.1
    · rw [hcontents]
      exact hitems.2

theorem always_words (n : Nat) : Always (words n) fun w => ∃ t, w = some (.string t) :=
  .after fun _ => .pure ⟨_, rfl⟩

/-- A sample carries contents that are grown. -/
theorem always_message (hs : s.Proper) (n : Nat) :
    Always (message s n) fun v => ∃ c, Carries v c ∧ ContentsGrown s n c := by
  refine .bind (always_words 2) fun altText haltText => .bind (always_contents hs n)
    fun c hc => .pure ⟨c, ⟨?_, ⟨rfl, by simp; rfl⟩, by simp⟩, hc⟩
  obtain ⟨t, rfl⟩ := haltText
  intro a ha
  exact ⟨t, by simpa using ha.symm⟩

/-! ## What is without a place -/

theorem IsFooter.grown {w : Json} (h : IsFooter w) (unknown : Bool) : Grown unknown (· = 2) 1 w :=
  .box h.kind h.length fun x hx => .leaf (h.buttons x hx) (by decide)

theorem BoxGrown.nesting_le {w : Json} (h : BoxGrown s w) :
    (Component.ofJson w).nesting ≤ s.depth := h.grown.nesting_le

/-- Only strays are without a place in a section that holds a grown box. -/
theorem of_mem_unplacedBoxed {Count : Nat → Prop} {room : Nat} {slot : Option Json}
    (h : ∀ w, slot = some w → w.kind? = some .box ∧ Grown s.unknown Count room w) {path : Path}
    {u : String × Path} (hu : u ∈ Document.unplacedBoxed path (slot.map Component.ofJson)) :
    u.1 = unknownKind ∧ s.unknown = true := by
  rcases slot with _ | w
  · cases hu
  · obtain ⟨hkind, hgrown⟩ := h w rfl
    have hboxed : Document.unplacedBoxed path (some (Component.ofJson w)) =
        (Component.ofJson w).unplaced path := by
      rw [Component.ofJson_box hkind]
      rfl
    rw [Option.map_some, hboxed] at hu
    exact hgrown.of_mem_unplaced hu

namespace BubbleGrown

variable {v : Json}

theorem grown_body (h : BubbleGrown s v) (w : Json) (hw : v.slot? "body" = some w) :
    BoxGrown s w := by
  obtain ⟨body, hslot, hbody⟩ := h.body
  cases hslot.symm.trans hw
  exact hbody

/-- Only strays are without a place in a bubble. -/
theorem of_mem_unplaced (h : BubbleGrown s v) {path : Path} {u : String × Path}
    (hu : u ∈ (Bubble.ofFields v.fields).unplaced path) :
    u.1 = unknownKind ∧ s.unknown = true := by
  simp only [Bubble.unplaced, Bubble.ofFields, Document.sectionOf_eq, List.mem_append,
    or_assoc] at hu
  rcases hu with hu | hu | hu | hu
  · exact of_mem_unplacedBoxed (fun w hw => ⟨(h.header w hw).kind, (h.header w hw).grown⟩) hu
  · rcases hslot : v.slot? "hero" with _ | w
    · rw [hslot] at hu
      cases hu
    · have hhero : Grown s.unknown s.Admits s.depth w := .leaf (h.hero w hslot) (by decide)
      rw [hslot] at hu
      exact hhero.of_mem_unplaced hu
  · exact of_mem_unplacedBoxed
      (fun w hw => ⟨(h.grown_body w hw).kind, (h.grown_body w hw).grown⟩) hu
  · exact of_mem_unplacedBoxed
      (fun w hw => ⟨(h.footer w hw).kind, (h.footer w hw).grown s.unknown⟩) hu

/-- The boxes of a bubble stand in one another up to the depth that was asked for. -/
theorem nesting_le (h : BubbleGrown s v) (hs : s.Proper) {name : String}
    (hname : name ∈ ["header", "hero", "body", "footer"]) {w : Json}
    (hw : v.slot? name = some w) : (Component.ofJson w).nesting ≤ s.depth := by
  simp only [List.mem_cons, List.not_mem_nil, or_false] at hname
  rcases hname with rfl | rfl | rfl | rfl
  · exact (h.header w hw).nesting_le
  · rw [Component.ofJson_eq, h.hero w hw]
    exact Nat.zero_le _
  · exact (h.grown_body w hw).nesting_le
  · exact ((h.footer w hw).grown s.unknown).nesting_le.trans hs.depth

/-- The body of a bubble is resolved. -/
theorem isSome_body (h : BubbleGrown s v) : (Resolve.bubbleOf (.ofFields v.fields)).body.isSome := by
  obtain ⟨w, hw, hbody⟩ := h.body
  have hstands := Resolve.bubbleOf_stands (p := .skip) v fun hreject => by cases hreject
  exact hstands.body.present.mpr ⟨w, hw, hbody.kind⟩

end BubbleGrown

/-! ## Samples -/

namespace ContentsGrown

variable {n : Nat} {c : Json}

/-- The bubbles of the contents are as many as were asked for. -/
theorem bubbles (h : ContentsGrown s n c) :
    c.bubbles.length = n ∧ ∀ w ∈ c.bubbles, BubbleGrown s w := by
  unfold Json.bubbles
  cases h with
  | bubble hn hc =>
    rw [hc.type, if_neg (by decide), hn]
    exact ⟨rfl, List.forall_mem_singleton.mpr hc⟩
  | carousel _ htype hlength hall =>
    have hfilter : c.contents.filter (fun e => e.typeText? = some "bubble") = c.contents :=
      List.filter_eq_self.mpr fun e he => decide_eq_true (hall e he).type
    rw [if_pos htype, hfilter]
    exact ⟨hlength, hall⟩

/-- The contents are read, and only strays are without a place in them. -/
theorem exists_ofJson (h : ContentsGrown s n c) :
    ∃ d, Document.Container.ofJson c = .ok d ∧
      ∀ u ∈ d.unplaced, u.1 = unknownKind ∧ s.unknown = true := by
  cases h with
  | bubble _ hc =>
    exact ⟨_, Document.Container.ofJson_bubble (Json.typeText?_eq_some_iff.mp hc.type),
      fun u hu => hc.of_mem_unplaced hu⟩
  | carousel _ htype _ hall =>
    refine ⟨_, Document.Container.ofJson_carousel (Json.typeText?_eq_some_iff.mp htype),
      fun u hu => ?_⟩
    obtain ⟨kind, path⟩ := u
    obtain ⟨i, x, hx, hmem⟩ := Document.mem_unplacedEntries hu
    obtain ⟨e, he, rfl⟩ := Option.map_eq_some_iff.mp (List.getElem?_map.symm.trans hx)
    have hgrown := hall e (List.mem_of_getElem? he)
    rw [Resolve.entry_ofJson_bubble hgrown.type] at hmem
    rcases hmem with ⟨b, hb, hu⟩ | ⟨hunknown, -⟩
    · cases hb
      exact hgrown.of_mem_unplaced hu
    · cases hunknown

end ContentsGrown

open FlexLayout.Resolve (json)

/-- What is asked of a sample `v` of `n` bubbles: skipping resolves it, and so does rejecting unless
it meets a stray; it comes to `n` bubbles with a body each; and its contents keep to the number of
bubbles and to the depth. -/
structure Valid (s : Shape) (n : Nat) (v : Json) : Prop where
  skip : ∃ t, (json .skip v).result = .ok t
  reject : s.unknown = false → ∃ t, (json .reject v).result = .ok t
  failure : ∀ p f, (json p v).result = .error f →
    p = .reject ∧ s.unknown = true ∧ ∃ path, f = .unknownComponent unknownKind path
  bubbles : ∀ p t, (json p v).result = .ok t →
    t.bubbles.length = n ∧ ∀ b ∈ t.bubbles, b.body.isSome
  contents : ∃ c, v.field? "contents" = some c ∧ (c.typeText? = some "bubble" ↔ n = 1) ∧
    (n ≠ 1 → c.typeText? = some "carousel" ∧ c.contents.length = n ∧
      ∀ e ∈ c.contents, e.typeText? = some "bubble") ∧
    ∀ b ∈ c.bubbles, ∀ name ∈ ["header", "hero", "body", "footer"], ∀ w,
      b.slot? name = some w → (Component.ofJson w).nesting ≤ s.depth

/-- The contents are a bubble just if there is one, and else a carousel. -/
theorem ContentsGrown.type {n : Nat} {c : Json} (hc : ContentsGrown s n c) :
    (c.typeText? = some "bubble" ↔ n = 1) ∧
      (n ≠ 1 → c.typeText? = some "carousel" ∧ c.contents.length = n ∧
        ∀ e ∈ c.contents, e.typeText? = some "bubble") := by
  cases hc with
  | bubble hn hc => exact ⟨⟨fun _ => hn, fun _ => hc.type⟩, fun hne => absurd hn hne⟩
  | carousel hn htype hlength hall =>
    refine ⟨⟨fun hbubble => ?_, fun hone => absurd hone hn⟩,
      fun _ => ⟨htype, hlength, fun e he => (hall e he).type⟩⟩
    rw [htype] at hbubble
    exact absurd hbubble (by decide)

theorem valid_of_contentsGrown {n : Nat} {v c : Json} (hs : s.Proper) (hv : Carries v c)
    (hc : ContentsGrown s n c) : Valid s n v := by
  obtain ⟨d, hd, hstrays⟩ := hc.exists_ofJson
  obtain ⟨altText, hm⟩ := hv.ofJson hd
  have hyields : Resolve.Yields (fun p => json p v) d.unplaced
      (Resolve.treeOf ⟨altText, d⟩) := by
    simp only [Resolve.json_of_ok hm]
    exact Resolve.yields_message _
  have hbubbles : (Resolve.treeOf ⟨altText, d⟩).bubbles =
      c.bubbles.map fun w => Resolve.bubbleOf (.ofFields w.fields) :=
    Resolve.bubbles_containerOf hd altText
  obtain ⟨hlength, hgrown⟩ := hc.bubbles
  refine ⟨⟨_, hyields.skip_result⟩, fun hunknown => ?_, fun p f hf => ?_, fun p t ht => ?_,
    ⟨c, hv.contents, hc.type.1, hc.type.2, fun b hb name hname w hw => ?_⟩⟩
  · have hnil : d.unplaced = [] := List.eq_nil_iff_forall_not_mem.mpr fun u hu => by
      have hstray := (hstrays u hu).2
      rw [hunknown] at hstray
      cases hstray
    rw [hnil] at hyields
    exact ⟨_, hyields.result_eq .reject⟩
  · obtain ⟨hp, kind, path, rest, hunplaced, rfl⟩ := hyields.of_failure hf
    have hstray := hstrays (kind, path) (hunplaced ▸ List.mem_cons_self)
    exact ⟨hp, hstray.2, path, by rw [← hstray.1]⟩
  · obtain ⟨rfl, -⟩ := hyields.of_result ht
    rw [hbubbles, List.length_map, List.forall_mem_map]
    exact ⟨hlength, fun w hw => (hgrown w hw).isSome_body⟩
  · exact (hgrown b hb).nesting_le hs hname hw

/-- **Samples.** However the dice fall, a sample of any number of bubbles is valid. -/
theorem always_valid (s : Shape) (hs : s.Proper) (n : Nat) :
    Always (message s n) (Valid s n) :=
  (always_message hs n).imp fun _ ⟨_, hv, hc⟩ => valid_of_contentsGrown hs hv hc

/-- A carousel of two bubbles, sprinkled with strays. -/
theorem always_valid_pair : Shape.Proper ⟨3, 5, true⟩ ∧ ∀ dice,
    ∃ t, (json .skip (message ⟨3, 5, true⟩ 2 dice).1).result = .ok t ∧ t.bubbles.length = 2 := by
  have hs : Shape.Proper ⟨3, 5, true⟩ := ⟨by decide, by decide⟩
  refine ⟨hs, fun dice => ?_⟩
  have hvalid := always_valid ⟨3, 5, true⟩ hs 2 dice
  obtain ⟨t, ht⟩ := hvalid.skip
  exact ⟨t, ht, (hvalid.bubbles .skip t ht).1⟩

end Sample

end FlexLayout
