import FlexLayout.Proofs.Tree.Within

/-!
# Trees that were read are stable

What can be read can be written and read again. Nodes are read from the leaves up, so the induction
over a value says of its annotations that whatever the value stands for is within its limits.
With the limits that the reader of texts keeps, this leaves nothing to ask of the depth of a tree or
of its doubles: `Message.ofText?_stable` is the round trip for every text that can be read, however
it is spelled.
-/

set_option maxRecDepth 2000

namespace FlexLayout.Tree

/-! ## Nodes -/

/-- The writing of a child. -/
def childToJson (c : Child) : Json :=
  .object [("spacing", optionalMargin c.spacing), ("node", c.node.toJson)]

theorem childrenToJson_eq_map (cs : List Child) : Node.childrenToJson cs = cs.map childToJson := by
  induction cs with
  | nil => rfl
  | cons c cs ih => rw [Node.childrenToJson, ih, List.map_cons, childToJson]

theorem childFloats_eq_flatMap (cs : List Child) :
    childFloats cs = cs.flatMap fun c => optionFloats Margin.floats c.spacing ++ c.node.floats := by
  induction cs with
  | nil => rfl
  | cons c cs ih => rw [childFloats, ih, List.flatMap_cons]

namespace Reading

/-- An annotated value within limits: so is all that it can stand for. -/
structure Tame (d : Nat) (q : Reading) : Prop where
  json : q.json.Tame d
  node : ∀ n ∈ q.node, Within d n.toJson n.floats
  child : ∀ c ∈ q.child, Within d (childToJson c) (childFloats [c])
  children : ∀ cs ∈ q.children, Within d (.array (Node.childrenToJson cs)) (childFloats cs)

variable {d : Nat} {parts : Parts Reading}

/-- The record of annotated parts within limits has plain fields within limits. -/
theorem json_all {r : Record Reading} (h : r.All (Tame d)) : r.json.All (Json.Tame d) := by
  intro f hf v hv
  obtain ⟨⟨name, slot⟩, hmem, rfl⟩ := List.mem_map.mp hf
  cases slot with
  | given q =>
    cases hv
    exact (h _ hmem q rfl).json
  | omitted => cases hv
  | cut => cases hv

/-- A node that is nothing but its record. -/
theorem within_leaf {α : Type} {names : List String} {read : Record Json → Option α}
    {fields : α → List (String × Json)} {floats : α → List Float} {f : α → Node} {n : Node}
    (hp : parts.All (Tame d))
    (hrecord : ∀ ⦃r : Record Json⦄ ⦃a : α⦄, r.All (Json.Tame d) → read r = some a →
      WithinFields d (fields a) (floats a))
    (hwrite : ∀ a, (f a).toJson = tagged (f a).kind.word (fields a))
    (hfloats : ∀ a, (f a).floats = floats a)
    (h : ((parts.record? names).bind fun r => (read r.json).bind fun a => some (f a)) = some n) :
    Within (d + 1) n.toJson n.floats := by
  obtain ⟨r, hr, h⟩ := Option.bind_eq_some_iff.mp h
  obtain ⟨a, ha, h⟩ := Option.bind_eq_some_iff.mp h
  cases h
  rw [hwrite, hfloats]
  exact (hrecord (json_all (Parts.record?_all hp hr)) ha).tagged

theorem within_nodeOfKind? {k : Kind} {n : Node} (hp : parts.All (Tame d))
    (h : nodeOfKind? parts k = some n) : Within (d + 1) n.toJson n.floats := by
  cases k with
  | box =>
    obtain ⟨r, hr, h⟩ := Option.bind_eq_some_iff.mp h
    obtain ⟨b, hb, h⟩ := Option.bind_eq_some_iff.mp h
    obtain ⟨cs, hcs, h⟩ := Option.bind_eq_some_iff.mp h
    cases h
    have hr := Parts.record?_all hp hr
    obtain ⟨q, hq, hcs⟩ := hr.required hcs
    have hchildren := hq.children cs hcs
    have hfields := Box.within (json_all hr) hb hchildren.depth_le
    exact WithinFields.tagged ⟨hfields.depth_le,
      allFinite_append.mpr ⟨hfields.finite, hchildren.finite⟩⟩
  | button => exact within_leaf hp (fun _ _ => Button.within) (fun _ => rfl) (fun _ => rfl) h
  | filler => exact within_leaf hp (fun _ _ => Filler.within) (fun _ => rfl) (fun _ => rfl) h
  | icon => exact within_leaf hp (fun _ _ => Icon.within) (fun _ => rfl) (fun _ => rfl) h
  | image => exact within_leaf hp (fun _ _ => Image.within) (fun _ => rfl) (fun _ => rfl) h
  | separator => exact within_leaf hp (fun _ _ => Separator.within) (fun _ => rfl) (fun _ => rfl) h
  | spacer => exact within_leaf hp (fun _ _ => Spacer.within) (fun _ => rfl) (fun _ => rfl) h
  | text => exact within_leaf hp (fun _ _ => Text.within) (fun _ => rfl) (fun _ => rfl) h
  | span => exact within_leaf hp (fun _ _ => Span.within) (fun _ => rfl) (fun _ => rfl) h
  | video =>
    obtain ⟨r, hr, h⟩ := Option.bind_eq_some_iff.mp h
    obtain ⟨v, hv, h⟩ := Option.bind_eq_some_iff.mp h
    obtain ⟨alt, halt, h⟩ := Option.bind_eq_some_iff.mp h
    cases h
    have hr := Parts.record?_all hp hr
    have halt := hr.optional halt
    cases alt with
    | none =>
      have hnull : Json.null.depth ≤ d := Nat.zero_le d
      exact (Video.within (json_all hr) hv hnull).tagged
    | some alt =>
      obtain ⟨q, hq, hnode⟩ := halt alt rfl
      have halt := hq.node alt hnode
      have hfields := Video.within (json_all hr) hv halt.depth_le
      exact WithinFields.tagged ⟨hfields.depth_le,
        allFinite_append.mpr ⟨hfields.finite, halt.finite⟩⟩

theorem within_nodeOf? {n : Node} (hp : parts.All (Tame d)) (h : nodeOf? parts = some n) :
    Within (d + 1) n.toJson n.floats := by
  obtain ⟨⟨tag, rest⟩, htagged, h⟩ := Option.bind_eq_some_iff.mp h
  obtain ⟨k, -, h⟩ := Option.bind_eq_some_iff.mp h
  exact within_nodeOfKind? (Parts.tagged?_all hp htagged) h

theorem within_childOf? {c : Child} (hp : parts.All (Tame d)) (h : childOf? parts = some c) :
    Within (d + 1) (childToJson c) (childFloats [c]) := by
  obtain ⟨r, hr, h⟩ := Option.bind_eq_some_iff.mp h
  have hr := Parts.record?_all hp hr
  obtain ⟨spacing, hspacing, h⟩ := Margin.keeps.optional (json_all hr) h
  obtain ⟨node, hnode, h⟩ := Option.bind_eq_some_iff.mp h
  cases h
  obtain ⟨q, hq, hnode⟩ := hr.required hnode
  have hnode := hq.node node hnode
  exact ⟨Json.depth_object_le.mpr (by simp [optionalMargin, hspacing.depth_le, hnode.depth_le]),
    by simp [childFloats, hspacing.finite, hnode.finite]⟩

theorem within_childrenOf? {cs : List Child} (hp : parts.All (Tame d))
    (h : childrenOf? parts = some cs) :
    Within (d + 1) (.array (Node.childrenToJson cs)) (childFloats cs) := by
  cases parts with
  | fields fs => cases h
  | items qs =>
    have hchild (c : Child) (hc : c ∈ cs) : Within d (childToJson c) (childFloats [c]) := by
      obtain ⟨q, hq, hread⟩ := exists_of_mem_mapM h c hc
      exact (hp q hq).child c hread
    rw [childrenToJson_eq_map, childFloats_eq_flatMap]
    refine ⟨Json.depth_array_le.mpr (List.forall_mem_map.mpr fun c hc => (hchild c hc).depth_le), ?_⟩
    intro x hx
    obtain ⟨c, hc, hx⟩ := List.mem_flatMap.mp hx
    refine (hchild c hc).finite x ?_
    rw [childFloats_eq_flatMap, List.flatMap_singleton]
    exact hx

theorem tame_ofParts {v : Json} (hv : v.Tame (d + 1)) (hp : parts.All (Tame d)) :
    (ofParts v parts).Tame (d + 1) where
  json := hv
  node _ h := within_nodeOf? hp h
  child _ h := within_childOf? hp h
  children _ h := within_childrenOf? hp h

/-- A value without parts stands for nothing. -/
theorem tame_leaf {v : Json} (hv : v.Tame d) : (Reading.mk v none none none).Tame d where
  json := hv
  node := by rintro n ⟨⟩
  child := by rintro c ⟨⟩
  children := by rintro cs ⟨⟩

mutual

/-- What a value within limits can stand for is within the same limits. -/
theorem tame_ofJson : ∀ (v : Json) (d : Nat), v.Tame d → (ofJson v).Tame d
  | .null, _, hv | .bool _, _, hv | .number _, _, hv | .string _, _, hv => tame_leaf hv
  | .array items, d, hv => by
    obtain ⟨d', rfl, hparts⟩ := hv.parts rfl
    exact tame_ofParts hv (tame_ofItems items d' hparts)
  | .object fs, d, hv => by
    obtain ⟨d', rfl, hparts⟩ := hv.parts rfl
    exact tame_ofParts hv (tame_ofFields fs d' hparts)
termination_by structural v => v

theorem tame_ofItems : ∀ (items : List Json) (d : Nat), (∀ v ∈ items, v.Tame d) →
    ∀ q ∈ ofItems items, q.Tame d
  | [], _, _ => by rintro q ⟨⟩
  | v :: rest, d, h => by
    rw [List.forall_mem_cons] at h
    rw [ofItems, List.forall_mem_cons]
    exact ⟨tame_ofJson v d h.1, tame_ofItems rest d h.2⟩
termination_by structural items => items

theorem tame_ofFields : ∀ (fs : List (String × Json)) (d : Nat), (∀ f ∈ fs, f.2.Tame d) →
    ∀ f ∈ ofFields fs, f.2.Tame d
  | [], _, _ => by rintro f ⟨⟩
  | (name, v) :: rest, d, h => by
    rw [List.forall_mem_cons] at h
    rw [ofFields, List.forall_mem_cons]
    exact ⟨tame_ofJson v d h.1, tame_ofFields rest d h.2⟩
termination_by structural fs => fs

end

end Reading

theorem Node.keeps : Keeps toJson floats ofJson? := fun d v n hv h =>
  (Reading.tame_ofJson v d hv).node n h

/-! ## Sections and bubbles -/

theorem Section.keeps : Keeps toJson floats ofJson? := by
  refine Keeps.of_record ?_ (fun _ => rfl) fun _ => rfl
  intro d r s hr h
  obtain ⟨backgroundColor, -, h⟩ := Option.bind_eq_some_iff.mp h
  obtain ⟨flex, hflex, h⟩ := Growth.keeps.required hr h
  obtain ⟨content, hcontent, h⟩ := Node.keeps.required hr h
  cases h
  exact ⟨by simp [hflex.depth_le, hcontent.depth_le],
    by simp [floats, hflex.finite, hcontent.finite]⟩

theorem Bubble.within {d : Nat} {r : Record Json} {b : Bubble} (hr : r.All (Json.Tame d))
    (h : ofRecord? r = some b) : WithinFields d b.fields b.floats := by
  obtain ⟨size, -, h⟩ := Option.bind_eq_some_iff.mp h
  obtain ⟨direction, -, h⟩ := Option.bind_eq_some_iff.mp h
  obtain ⟨maxWidth, hmaxWidth, h⟩ := Length.keeps.required hr h
  obtain ⟨cornerRadius, hcornerRadius, h⟩ := Length.keeps.required hr h
  obtain ⟨header, hheader, h⟩ := Section.keeps.optional hr h
  obtain ⟨hero, hhero, h⟩ := Section.keeps.optional hr h
  obtain ⟨body, hbody, h⟩ := Section.keeps.optional hr h
  obtain ⟨footer, hfooter, h⟩ := Section.keeps.optional hr h
  obtain ⟨action, haction, h⟩ := Action.keeps.optional hr h
  cases h
  exact ⟨by simp [fields, optionalSection, optionalAction, hmaxWidth.depth_le,
      hcornerRadius.depth_le, hheader.depth_le, hhero.depth_le, hbody.depth_le, hfooter.depth_le,
      haction.depth_le],
    by simp [floats, hmaxWidth.finite, hcornerRadius.finite, hheader.finite, hhero.finite,
      hbody.finite, hfooter.finite]⟩

theorem Bubble.keeps : Keeps (fun b : Bubble => .object b.fields) floats ofJson? :=
  Keeps.of_record (fun _ _ _ hr h => Bubble.within hr h) (fun _ => rfl) fun _ => rfl

theorem Carousel.within {d : Nat} {r : Record Json} {c : Carousel} (hr : r.All (Json.Tame d))
    (h : ofRecord? r = some c) : WithinFields d c.fields c.floats := by
  obtain ⟨bubbles, hbubbles, h⟩ := Bubble.keeps.list.required hr h
  obtain ⟨gap, hgap, h⟩ := Length.keeps.required hr h
  obtain ⟨insetStart, hinsetStart, h⟩ := Length.keeps.required hr h
  obtain ⟨insetEnd, hinsetEnd, h⟩ := Length.keeps.required hr h
  obtain ⟨bubbleWidth, hbubbleWidth, h⟩ := Length.keeps.required hr h
  cases h
  exact ⟨by simp [fields, hbubbles.depth_le, hgap.depth_le, hinsetStart.depth_le,
      hinsetEnd.depth_le, hbubbleWidth.depth_le],
    by simp [floats, hbubbles.finite, hgap.finite, hinsetStart.finite, hinsetEnd.finite,
      hbubbleWidth.finite]⟩

/-! ## Messages -/

theorem Container.keeps : Keeps toJson floats ofJson? := by
  intro d v c hv h
  obtain ⟨p, hp, h⟩ := Option.bind_eq_some_iff.mp h
  obtain ⟨d', rfl, hparts⟩ := hv.parts hp
  obtain ⟨⟨tag, rest⟩, htagged, h⟩ := Option.bind_eq_some_iff.mp h
  have hrest := Parts.tagged?_all hparts htagged
  obtain ⟨kind, -, h⟩ := Option.bind_eq_some_iff.mp h
  split at h
  · obtain ⟨r, hr, h⟩ := Option.bind_eq_some_iff.mp h
    obtain ⟨b, hb, h⟩ := Option.bind_eq_some_iff.mp h
    cases h
    exact (Bubble.within (Parts.record?_all hrest hr) hb).tagged
  · obtain ⟨r, hr, h⟩ := Option.bind_eq_some_iff.mp h
    obtain ⟨c, hc, h⟩ := Option.bind_eq_some_iff.mp h
    cases h
    exact (Carousel.within (Parts.record?_all hrest hr) hc).tagged
  · cases h

/-- The fields of a record that are asked for are the fields of the record. -/
theorem record?_all {names : List String} {d : Nat} {v : Json} {r : Record Json}
    (hv : v.Asked names.contains d) (h : record? names v = some r) : r.All (Json.Tame d) := by
  obtain ⟨p, hp, hr⟩ := Option.bind_eq_some_iff.mp h
  cases v with
  | array items =>
    cases hp
    exact Parts.record?_all (p := .items items) hv hr
  | object fs =>
    cases hp
    exact Parts.record?_fields_all
      (fun f hf hname => hv f hf (List.contains_iff_mem.mpr hname)) hr
  | _ => cases hp

namespace Message

/-- A message takes one level, and only what stands in the fields that are asked for matters. -/
theorem within {d : Nat} {v : Json} {m : Message} (hv : v.Asked names.contains d)
    (h : ofJson? v = some m) : Within (d + 1) m.toJson m.floats := by
  obtain ⟨r, hr, h⟩ := Option.bind_eq_some_iff.mp h
  have hr := record?_all hv hr
  obtain ⟨altText, -, h⟩ := Option.bind_eq_some_iff.mp h
  obtain ⟨contents, hcontents, h⟩ := Container.keeps.required hr h
  cases h
  exact ⟨Json.depth_object_le.mpr (by simp [hcontents.depth_le]), hcontents.finite⟩

/-- A tree that was read can be written: it holds no double that is written as `null`, and its
writing is neither nested too deeply nor nested more deeply than what it was read from. -/
theorem within_of_ofText? {s : String} {m : Message} (h : ofText? s = some m) :
    ∃ v, Json.readFields? names s = some v ∧
      Within (min Json.maxNesting v.depth) m.toJson m.floats := by
  obtain ⟨v, hv, hm⟩ := Option.bind_eq_some_iff.mp h
  obtain ⟨r, hr, -⟩ := Option.bind_eq_some_iff.mp hm
  obtain ⟨p, hp, -⟩ := Option.bind_eq_some_iff.mp hr
  have hpos := Json.depth_pos_of_parts? hp
  have hwithin := within (Json.readFields?_asked hv).lt_depth hm
  refine ⟨v, hv, hwithin.depth_le.trans_eq ?_, hwithin.finite⟩
  unfold Json.maxNesting
  omega

/-- **Stability.** A tree that was read from a text, however spelled, is written as a text that is
nested no more deeply and is read as the same tree. Only every finite double in it has to read back;
that its doubles are finite and that it is not nested too deeply is not asked for. -/
theorem ofText?_stable {s : String} {m : Message} (h : ofText? s = some m)
    (hreread : ∀ x ∈ m.floats, x.isFinite = true → Json.Rereads (.float x)) :
    ofText? m.text = some m ∧ (∀ x ∈ m.floats, x.isFinite = true) ∧
      ∃ v, Json.readFields? names s = some v ∧ Json.readFields? names m.text = some m.toJson ∧
        m.toJson.depth ≤ v.depth := by
  obtain ⟨v, hv, hwithin⟩ := within_of_ofText? h
  obtain ⟨hmax, hdepth⟩ := le_min_iff.mp hwithin.depth_le
  have hfaithful : Faithful toJson ofJson? m :=
    Message.faithful fun x hx => ⟨hwithin.finite x hx, hreread x hx (hwithin.finite x hx)⟩
  have hread : Json.readFields? names m.text = some m.toJson :=
    Json.readFields?_pretty names hfaithful.readable hmax
  refine ⟨?_, hwithin.finite, v, hv, hread, hdepth⟩
  unfold ofText?
  rw [hread, Option.bind_some, hfaithful.read_write]

/-- A bubble with nothing but a spacer. -/
def spaced : Message where
  altText := "hi"
  contents := .bubble {
    size := .mega
    direction := .ltr
    maxWidth := .literal "300px"
    cornerRadius := .literal "5px"
    header := none
    hero := none
    body := some ⟨none, .default, .spacer ⟨.px 12.5⟩⟩
    footer := none
    action := some (.uri none "a" (some ⟨none⟩)) }

/-- The bubble is spelled as an array, its size and the growth as objects, and the kinds of the
action and of the spacer by their numbers; absent options are left out or `null`. Nobody asks for
the first field. -/
def spacedText : String :=
  "\x7b\"extra\":[1e999],\"alt_text\":\"hi\",\"contents\":[\"bubble\",\x7b\"mega\":null\x7d,\"ltr\",
    \x7b\"Literal\":\"300px\"\x7d,\x7b\"Literal\":\"5px\"\x7d,null,null,
    \x7b\"flex\":\x7b\"Default\":\x7b\x7d\x7d,\"content\":[6,\x7b\"Px\":1.25e1\x7d]\x7d,null,
    \x7b\"type\":0,\"uri\":\"a\",\"altUri\":[]\x7d]\x7d"

theorem ofText?_stable_spaced : ofText? spacedText = some spaced ∧
    (∀ x ∈ spaced.floats, x.isFinite = true → Json.Rereads (.float x)) ∧
    ofText? spaced.text = some spaced := by
  have hchars : spacedText.toList = _ := String.toList_ofList
  have hread : ofText? spacedText = some spaced := by
    rw [ofText?, Json.readFields?, hchars]
    decide +kernel
  have hfloats : spaced.floats = [12.5] := by decide +kernel
  have hreread : ∀ x ∈ spaced.floats, x.isFinite = true → Json.Rereads (.float x) := by
    rw [hfloats]
    intro x hx _
    rw [List.mem_singleton.mp hx, Json.rereads_iff]
    exact ⟨⟨false, ['1', '2'], some ['5'], none⟩, by decide +kernel, by decide +kernel⟩
  exact ⟨hread, hreread, (ofText?_stable hread hreread).1⟩

end Message

end FlexLayout.Tree
