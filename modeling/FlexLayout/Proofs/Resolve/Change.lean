import FlexLayout.Proofs.Document.Attribute
import FlexLayout.Proofs.Document.Location
import FlexLayout.Proofs.Resolve.Envelope

/-!
# Changes that reading does not see

A change on a path is followed from the inside out. Each value on the way is read as before,
because the only attribute that the change goes through is read as before (`Agree.changeStep`). So
a document is read as before if one of its bubbles is (`BubbleAt.ofJson_changeStep`) or one of its
components is, at any depth (`Located.ofJson_change`).
-/

namespace FlexLayout.Document

open Json (changeIndex changeItem mapFields)
open Parts (Once)

/-! ## Attributes of an edited object -/

variable {as : List Attribute} {v : Json}

/-- Attributes survive a change that goes through one of them and leaves its reading as it is. -/
theorem Agree.changeStep (hnodup : (as.map Attribute.name).Nodup) {a : Attribute} (ha : a ∈ as)
    {index : Option Nat} {f : Json → Json} {w : Json} (hw : v.field? a.name = some w)
    (h : a.read (changeIndex index f w) = a.read w) :
    Agree as (v.changeStep ⟨a.name, index⟩ f).fields v.fields := by
  intro b hb
  show ((v.changeField a.name (changeIndex index f)).field? b.name).bind b.read =
    (v.field? b.name).bind b.read
  rw [Json.field?_changeField]
  split
  · rename_i hname
    have hab : b = a := List.inj_on_of_nodup_map hnodup hb ha hname
    subst hab
    rw [hw]
    exact h
  · rfl

/-- Attributes survive the loss of a field that none of them can read. -/
theorem Agree.withoutField {name : String}
    (h : ∀ a ∈ as, a.name = name → ∀ w, v.field? name = some w → w = .null ∨ a.read w = none) :
    Agree as (v.withoutField name).fields v.fields := by
  intro a ha
  show ((v.withoutField name).field? a.name).bind a.read = (v.field? a.name).bind a.read
  rw [Json.field?_withoutField]
  split
  · rename_i hname
    subst hname
    rcases hw : v.field? a.name with _ | w
    · rfl
    · rcases h a ha rfl w hw with rfl | hread
      · exact a.read_null.symm
      · exact hread.symm
  · rfl

/-- The loss of a field that is written once leaves the other names written as often as before. -/
theorem once_withoutField {name : String} (h : Once v.fields name) (k : String) :
    Once (v.withoutField name).fields k ↔ Once v.fields k := by
  unfold Once at *
  show (v.withoutField name).names.count k ≤ 1 ↔ v.names.count k ≤ 1
  have h : v.names.count name ≤ 1 := h
  rw [Json.names_withoutField]
  by_cases hk : k = name
  · subst hk
    have hzero : (v.names.filter (· != k)).count k = 0 :=
      List.count_eq_zero.mpr fun hmem => by simpa using (List.mem_filter.mp hmem).2
    omega
  · rw [List.count_filter (by simpa using hk)]

theorem once_changeField (name : String) (f : Json → Json) (k : String) :
    Once (v.changeField name f).fields k ↔ Once v.fields k := by
  show (v.changeField name f).names.count k ≤ 1 ↔ v.names.count k ≤ 1
  rw [Json.names_changeField]

/-! ## Reading an edited object -/

variable {g : List (String × Json) → List (String × Json)}

theorem Component.read?_mapFields (htype : (v.mapFields g).field? "type" = v.field? "type")
    (h : Agree (Attribute.ofComponent v) (v.mapFields g).fields v.fields) :
    read? (v.mapFields g) = read? v := by
  have hread := ofJson_congr htype h
  cases v with
  | object fs => exact congrArg some hread
  | _ => rfl

theorem Styles.ofJson?_mapFields (honce : ∀ k, Once (v.mapFields g).fields k ↔ Once v.fields k)
    (h : Agree Attribute.ofStyles (v.mapFields g).fields v.fields) :
    ofJson? (v.mapFields g) = ofJson? v := by
  cases v with
  | object fs => exact ofJson?_congr honce h
  | _ => rfl

theorem Styles.color?_mapFields (honce : ∀ k, Once (v.mapFields g).fields k ↔ Once v.fields k)
    (h : Agree Attribute.ofStyle (v.mapFields g).fields v.fields) :
    color? (v.mapFields g) = color? v := by
  cases v with
  | object fs => exact color?_congr honce h
  | _ => rfl

theorem getElem?_modify_bind {α : Type} {read : Json → Option α} {items : List Json} {i : Nat}
    {f : Json → Json} {x : Json} (hx : items[i]? = some x) (h : read (f x) = read x) (j : Nat) :
    (items.modify i f)[j]?.bind read = items[j]?.bind read := by
  rw [List.getElem?_modify]
  split
  · rename_i hij
    subst hij
    rw [hx]
    exact h
  · simp

/-- Items are read as before if the one that changes is. -/
theorem map_changeItem {α : Type} {read : Json → α} {w x : Json} {i : Nat} {f : Json → Json}
    (hx : w.item? i = some x) (h : read (f x) = read x) :
    (w.changeItem i f).items?.map (List.map read) = w.items?.map (List.map read) := by
  have hread : (some ∘ read) (f x) = (some ∘ read) x := congrArg some h
  cases w with
  | array items =>
    refine congrArg some (List.ext_getElem? fun j => ?_)
    rw [List.getElem?_map, List.getElem?_map, Option.map_eq_bind, Option.map_eq_bind]
    exact getElem?_modify_bind hx hread j
  | _ => rfl

/-- Styles in an array are read as before if the one that changes is. -/
theorem Styles.ofJson?_changeItem {items : List Json} {x : Json} {i : Nat} {f : Json → Json}
    (hx : items[i]? = some x) (h : color? (f x) = color? x) :
    ofJson? (changeItem i f (.array items)) = ofJson? (.array items) := by
  have hitem := getElem?_modify_bind hx h
  show ofJson? (.array (items.modify i f)) = _
  rw [ofJson?_array, ofJson?_array, List.length_modify, hitem, hitem, hitem, hitem]

/-! ## Containers with a change inside -/

variable {c : Json} {path : Path}

/-- What is read of a container depends on its type and its attributes. -/
theorem Container.ofJson_congr {d : Json} (htype : d.field? "type" = c.field? "type")
    (hbubble : c.typeText? = some "bubble" → Agree Attribute.ofBubble d.fields c.fields)
    (hcarousel : c.typeText? = some "carousel" → Agree Attribute.ofCarousel d.fields c.fields) :
    ofJson d = ofJson c := by
  unfold ofJson
  rw [htype]
  split
  · rename_i hd
    have hc := Json.typeText?_eq_some_iff.mpr ((Json.discriminant_eq_iff Json.isWord_bubble).mp hd)
    rw [Bubble.ofFields_congr (hbubble hc)]
  · rename_i hd
    have hc :=
      Json.typeText?_eq_some_iff.mpr ((Json.discriminant_eq_iff Json.isWord_carousel).mp hd)
    have hentries : d.contents.map Entry.ofJson = c.contents.map Entry.ofJson := by
      rw [map_contents_eq, map_contents_eq]
      exact congrArg (·.getD []) (hcarousel hc Attribute.entries List.mem_cons_self)
    exact congrArg (fun es => Except.ok (carousel es)) hentries
  · rfl

/-- A container is read as before if one of its bubbles is. -/
theorem BubbleAt.ofJson_mapFields {b : Json} (h : BubbleAt c path b)
    (htype : (b.mapFields g).field? "type" = b.field? "type")
    (hagree : Agree Attribute.ofBubble (b.mapFields g).fields b.fields) :
    Container.ofJson (c.change (mapFields g) path) = Container.ofJson c := by
  cases h with
  | single hc =>
    refine Container.ofJson_congr htype (fun _ => hagree) fun hcarousel => ?_
    rw [hc] at hcarousel
    exact absurd hcarousel (by decide)
  | @entry i e hc he hbubble =>
    have hne : "type" ≠ "contents" := by decide
    refine Container.ofJson_congr (Json.field?_changeField_of_ne hne _ _) (fun hsingle => ?_)
      fun _ => ?_
    · rw [hc] at hsingle
      exact absurd hsingle (by decide)
    · rw [Json.getElem?_contents, Option.bind_eq_some_iff] at he
      obtain ⟨w, hw, hb⟩ := he
      exact .changeStep (a := Attribute.entries) (by decide) List.mem_cons_self hw
        (map_changeItem hb (Entry.ofJson_congr htype hagree))

variable {f : Json → Json}

/-- A container is read as before if an attribute of one of its bubbles is. -/
theorem BubbleAt.ofJson_changeStep {b : Json} (h : BubbleAt c path b) {a : Attribute}
    (ha : a ∈ Attribute.ofBubble) {w : Json} (hw : b.field? a.name = some w) {index : Option Nat}
    (hread : a.read (changeIndex index f w) = a.read w) :
    Container.ofJson (c.change f (path ++ [⟨a.name, index⟩])) = Container.ofJson c := by
  have htype := (Attribute.name_ne_type_of_bubble ha).symm
  rw [Json.change_append]
  exact h.ofJson_mapFields (Json.field?_changeField_of_ne htype _ _)
    (.changeStep Attribute.nodup_ofBubble ha hw hread)

/-- A component is read as before if one of its attributes is. -/
theorem Component.read?_changeStep {a : Attribute} (ha : a ∈ Attribute.ofComponent v) {w : Json}
    (hw : v.field? a.name = some w) {index : Option Nat}
    (hread : a.read (changeIndex index f w) = a.read w) :
    read? (v.changeStep ⟨a.name, index⟩ f) = read? v := by
  have htype := (Attribute.name_ne_type_of_component ha).symm
  exact read?_mapFields (Json.field?_changeField_of_ne htype _ _)
    (.changeStep (Attribute.nodup_ofComponent v) ha hw hread)

theorem Component.ofJson_of_read? {w : Json} (h : read? v = read? w) : ofJson v = ofJson w := by
  have hread (v : Json) : ofJson v = (read? v).getD (.unknown "") := by
    cases v <;> rfl
  rw [hread, hread, h]

/-- A box or a text is read as before if an item of its contents is. -/
theorem Component.read?_changeItem {x : Json} {i : Nat}
    (ha : Attribute.components ∈ Attribute.ofComponent v) (hx : v.contents[i]? = some x)
    (hf : read? (f x) = read? x) :
    read? (v.changeStep ⟨"contents", some i⟩ f) = read? v := by
  rw [Json.getElem?_contents, Option.bind_eq_some_iff] at hx
  obtain ⟨w, hw, hitem⟩ := hx
  exact read?_changeStep ha hw (map_changeItem hitem (ofJson_of_read? hf))

/-- A container is read as before if one of its components is. -/
theorem Located.ofJson_change {site : Site} {w : Json} (h : Located c site path w)
    (hsite : site ≠ .entry) (hf : Component.read? (f w) = Component.read? w) :
    Container.ofJson (c.change f path) = Container.ofJson c := by
  induction h generalizing f with
  | entry _ _ => exact absurd rfl hsite
  | @boxed path b w name hb hname hw =>
    have ha : Attribute.component name ∈ Attribute.ofBubble := by
      simp only [boxedSections, List.mem_cons, List.not_mem_nil, or_false] at hname
      rcases hname with rfl | rfl | rfl <;> simp [Attribute.ofBubble]
    exact hb.ofJson_changeStep ha (Json.field_of_slot hw) hf
  | hero hb hw =>
    have ha : Attribute.component "hero" ∈ Attribute.ofBubble := by simp [Attribute.ofBubble]
    exact hb.ofJson_changeStep ha (Json.field_of_slot hw) hf
  | @boxItem _ path w x i hw hne hk hx ih | @textItem _ path w x i hw hne hk hx ih =>
    have ha : Attribute.components ∈ Attribute.ofComponent w := by
      unfold Attribute.ofComponent
      rw [hk]
      simp [Attribute.ofKind]
    rw [Path.item, Json.change_append]
    exact ih hne (Component.read?_changeItem ha hx hf)
  | @alt _ path w x hw hne hk hx ih =>
    have ha : Attribute.component "altContent" ∈ Attribute.ofComponent w := by
      unfold Attribute.ofComponent
      rw [hk]
      simp [Attribute.ofKind]
    rw [Path.field, Json.change_append]
    refine ih hne ?_
    show Component.read? (w.changeStep ⟨"altContent", none⟩ f) = _
    exact Component.read?_changeStep ha (Json.field_of_slot hx) hf

/-- A message is read as before if its contents are. -/
theorem Message.ofJson_change {d c : Json} (hc : d.field? "contents" = some c)
    (h : Container.ofJson (c.change f path) = Container.ofJson c) :
    ofJson (d.change f (Resolve.contentsPath ++ path)) = ofJson d := by
  show ofJson (d.changeField "contents" (Json.change f path)) = _
  have hcontents := Json.field?_changeField d "contents" "contents" (Json.change f path)
  rw [if_pos rfl, hc, Option.map_some] at hcontents
  have htype : (d.changeField "contents" (Json.change f path)).field? "type" = d.field? "type" :=
    Json.field?_changeField_of_ne (by decide) _ _
  have haltText : altTextOf (d.changeField "contents" (Json.change f path)) = altTextOf d := by
    unfold altTextOf
    rw [Json.field?_changeField_of_ne (by decide)]
  unfold ofJson
  rw [isObject_of_field hcontents, isObject_of_field hc, haltText, htype, hcontents, hc,
    Option.getD_some, Option.getD_some, h]

end FlexLayout.Document
