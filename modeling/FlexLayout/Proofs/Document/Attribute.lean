import FlexLayout.Proofs.Document.Edit
import FlexLayout.Proofs.Document.Position
import FlexLayout.Proofs.Json.Record
import Mathlib.Data.List.Nodup

/-!
# Attributes

The attributes that are read of each kind of object, with how each of them is read. What is read of
an object depends on its type and on these attributes only (`Component.ofJson_congr`,
`Bubble.ofFields_congr`, `Styles.ofJson?_congr`), so an edit that every attribute survives leaves
the reading as it was.
-/

namespace FlexLayout

namespace Document

/-- The component in a slot; none if the slot is `null`. -/
def Component.read? : Json → Option Component
  | .null => none
  | v => some (.ofJson v)

/-! ## Attributes -/

/-- An attribute that counts as absent unless it can be read. -/
structure Attribute where
  name : String
  Value : Type
  read : Json → Option Value
  read_null : read .null = none

namespace Attribute

/-- The attribute of an object with these fields. -/
def of (a : Attribute) (fs : Fields) : Option a.Value := lenient fs a.name a.read

def text (name : String) : Attribute := ⟨name, String, Json.text?, rfl⟩

def number (name : String) : Attribute := ⟨name, Float, Json.float?, rfl⟩

def flag (name : String) : Attribute := ⟨name, Bool, Json.bool?, rfl⟩

def natural (name : String) : Attribute :=
  ⟨name, UInt32, fun v => (v.natBelow? UInt32.size).map Nat.toUInt32, rfl⟩

def word (α : Type) [Keyword α] (name : String) : Attribute :=
  ⟨name, α, Keyword.ofJson? .document, rfl⟩

def action : Attribute := ⟨"action", Action, Action.ofJson? .document, rfl⟩

def background : Attribute := ⟨"background", Background, Background.ofJson?, rfl⟩

def component (name : String) : Attribute := ⟨name, Component, Component.read?, rfl⟩

def components : Attribute :=
  ⟨"contents", List Component, fun v => v.items?.map (List.map .ofJson), rfl⟩

def entries : Attribute := ⟨"contents", List Entry, fun v => v.items?.map (List.map .ofJson), rfl⟩

/-- The background colour of one section. -/
def color (name : String) : Attribute := ⟨name, String, Styles.color?, rfl⟩

def styles : Attribute := ⟨"styles", Styles, Styles.ofJson?, rfl⟩

/-- The position of a component, and its offsets. -/
def placement : List Attribute :=
  [word Position "position", text "offsetTop", text "offsetBottom", text "offsetStart",
    text "offsetEnd"]

/-- The attributes of a component of each kind. -/
def ofKind : Kind → List Attribute
  | .box => placement ++
    [word Layout "layout", components, number "flex", text "spacing", text "margin",
      text "paddingAll", text "paddingTop", text "paddingBottom", text "paddingStart",
      text "paddingEnd", text "backgroundColor", text "borderColor", text "borderWidth",
      text "cornerRadius", text "width", text "maxWidth", text "height", text "maxHeight",
      word JustifyContent "justifyContent", word AlignItems "alignItems", background, action]
  | .button => placement ++
    [action, number "flex", text "margin", word ButtonHeight "height", word ButtonStyle "style",
      text "color", word Gravity "gravity", word AdjustMode "adjustMode"]
  | .filler => [number "flex"]
  | .icon => placement ++ [text "url", text "size", text "aspectRatio", text "margin"]
  | .image => placement ++
    [text "url", number "flex", text "margin", word Align "align", word Gravity "gravity",
      text "size", text "aspectRatio", word AspectMode "aspectMode", text "backgroundColor", action]
  | .separator => [text "margin", text "color"]
  | .spacer => [text "size"]
  | .text => placement ++
    [text "text", components, number "flex", text "margin", text "size", word Align "align",
      word Gravity "gravity", flag "wrap", natural "maxLines", word Weight "weight", text "color",
      word FontStyle "style", word Decoration "decoration", text "lineSpacing", action]
  | .span =>
    [text "text", text "size", text "color", word Weight "weight", word FontStyle "style",
      word Decoration "decoration"]
  | .video =>
    [text "url", text "previewUrl", component "altContent", text "aspectRatio", action]

/-- The attributes of a value that stands for a component; none if its kind is unknown. -/
def ofComponent (v : Json) : List Attribute := v.kind?.elim [] ofKind

def ofBubble : List Attribute :=
  [word BubbleSize "size", word Direction "direction", component "header", component "hero",
    component "body", component "footer", styles, action]

def ofCarousel : List Attribute := [entries]

/-- The attributes of the styles of a bubble. -/
def ofStyles : List Attribute := [color "header", color "hero", color "body", color "footer"]

/-- The attributes of the style of one section. -/
def ofStyle : List Attribute := [text "backgroundColor"]

theorem nodup_ofKind (k : Kind) : ((ofKind k).map name).Nodup := by
  cases k <;> decide

theorem nodup_ofComponent (v : Json) : ((ofComponent v).map name).Nodup := by
  unfold ofComponent
  rcases v.kind? with _ | k
  · exact List.nodup_nil
  · exact nodup_ofKind k

theorem nodup_ofBubble : (ofBubble.map name).Nodup := by decide

theorem nodup_ofStyles : (ofStyles.map name).Nodup := by decide

/-- The type of a component is none of its attributes. -/
theorem name_ne_type_of_component {v : Json} {a : Attribute} (h : a ∈ ofComponent v) :
    a.name ≠ "type" := by
  have hkind (k : Kind) : ∀ s ∈ (ofKind k).map name, s ≠ "type" := by
    cases k <;> decide
  unfold ofComponent at h
  generalize v.kind? = kind at h
  rcases kind with _ | k
  · cases h
  · exact hkind k _ (List.mem_map_of_mem h)

theorem name_ne_type_of_bubble {a : Attribute} (h : a ∈ ofBubble) : a.name ≠ "type" := by
  have hbubble : ∀ s ∈ ofBubble.map name, s ≠ "type" := by decide
  exact hbubble _ (List.mem_map_of_mem h)

end Attribute

/-- Two objects agree on some attributes. -/
def Agree (as : List Attribute) (fs gs : Fields) : Prop := ∀ a ∈ as, a.of fs = a.of gs

/-! ## What the reading depends on -/

section Congruence

open Attribute

theorem map_contents_eq {α : Type} (read : Json → α) (v : Json) :
    v.contents.map read =
      (lenient v.fields "contents" fun w => w.items?.map (List.map read)).getD [] := by
  unfold Json.contents Json.field? lenient
  rcases v.fields.lookup "contents" with _ | w
  · rfl
  · cases w <;> rfl

theorem slot_eq_of (v : Json) (name : String) :
    (v.slot? name).map Component.ofJson = (component name).of v.fields := by
  show _ = (v.field? name).bind Component.read?
  unfold Json.slot?
  rcases v.field? name with _ | w
  · rfl
  · cases w <;> rfl

/-- What is read of a component depends on its type and its attributes. -/
theorem Component.ofJson_congr {v w : Json} (htype : v.field? "type" = w.field? "type")
    (h : Agree (ofComponent w) v.fields w.fields) : ofJson v = ofJson w := by
  have htext : v.typeText? = w.typeText? := congrArg (·.bind Json.text?) htype
  have hkind : v.kind? = w.kind? := by
    unfold Json.kind?
    rw [htext]
  rw [ofJson_eq, ofJson_eq, hkind, htext, map_contents_eq, map_contents_eq, slot_eq_of,
    slot_eq_of]
  unfold ofComponent at h
  generalize w.kind? = kind at h ⊢
  rcases kind with _ | k
  · rfl
  · cases k <;>
      simp only [Option.elim, Agree, ofKind, placement, of, Attribute.text, number, flag, natural,
        word, Attribute.action, background, component, components, List.forall_mem_append,
        List.forall_mem_cons] at h <;>
      simp only [Box.ofFields, Button.ofFields, Filler.ofFields, Icon.ofFields, Image.ofFields,
        Separator.ofFields, Spacer.ofFields, Text.ofFields, Span.ofFields, Video.ofFields,
        Placement.ofFields, stringOf, numberOf, wordOf, actionOf, of, component, h]

/-- What is read of a bubble depends on its attributes. -/
theorem Bubble.ofFields_congr {v w : Json} (h : Agree ofBubble v.fields w.fields) :
    ofFields v.fields = ofFields w.fields := by
  unfold ofFields
  simp only [sectionOf_eq, slot_eq_of]
  simp only [Agree, ofBubble, of, word, component, Attribute.styles, Attribute.action,
    List.forall_mem_cons] at h
  simp only [wordOf, actionOf, of, component, h]

theorem Entry.ofJson_congr {v w : Json} (htype : v.field? "type" = w.field? "type")
    (h : Agree ofBubble v.fields w.fields) : ofJson v = ofJson w := by
  unfold ofJson
  rw [htype, Bubble.ofFields_congr h]

theorem Styles.color?_object (fs : Fields) :
    color? (.object fs) = if ∀ k ∈ ofStyle.map Attribute.name, Parts.Once fs k then
      lenient fs "backgroundColor" Json.text? else none := by
  show Option.bind (Parts.record? (ofStyle.map Attribute.name) (.fields fs)) _ = _
  rw [Parts.record?_fields]
  split
  · exact Record.lenient_fields (by decide) fs Json.text?
  · rfl

/-- The styles of an object are lost if one of the four sections is written twice. -/
theorem Styles.ofJson?_object (fs : Fields) :
    ofJson? (.object fs) = if ∀ k ∈ ofStyles.map Attribute.name, Parts.Once fs k then
      some {
        header := lenient fs "header" color?
        hero := lenient fs "hero" color?
        body := lenient fs "body" color?
        footer := lenient fs "footer" color? } else none := by
  show Option.bind (Parts.record? (ofStyles.map Attribute.name) (.fields fs)) _ = _
  rw [Parts.record?_fields]
  split
  · have hfield {k : String} (hk : k ∈ ofStyles.map Attribute.name) :=
      Record.lenient_fields hk fs color?
    rw [Option.bind_some, hfield (by decide), hfield (by decide), hfield (by decide),
      hfield (by decide)]
    rfl
  · rfl

theorem Styles.color?_congr {fs gs : Fields} (honce : ∀ k, Parts.Once fs k ↔ Parts.Once gs k)
    (h : Agree ofStyle fs gs) : color? (.object fs) = color? (.object gs) := by
  simp only [Agree, ofStyle, of, Attribute.text, List.forall_mem_singleton] at h
  rw [color?_object, color?_object]
  simp only [honce, h]

/-- What is read of styles depends on their attributes and on the fields that are written twice. -/
theorem Styles.ofJson?_congr {fs gs : Fields} (honce : ∀ k, Parts.Once fs k ↔ Parts.Once gs k)
    (h : Agree ofStyles fs gs) : ofJson? (.object fs) = ofJson? (.object gs) := by
  simp only [Agree, ofStyles, of, Attribute.color, List.forall_mem_cons] at h
  rw [ofJson?_object, ofJson?_object]
  simp only [honce, h]

/-- Styles in an array are those of its items. -/
theorem Styles.ofJson?_array (items : List Json) :
    ofJson? (.array items) = if items.length ≤ 4 then
      some {
        header := items[0]?.bind color?
        hero := items[1]?.bind color?
        body := items[2]?.bind color?
        footer := items[3]?.bind color? } else none := by
  rcases items with _ | ⟨a, _ | ⟨b, _ | ⟨c, _ | ⟨d, _ | ⟨e, rest⟩⟩⟩⟩⟩
  · rfl
  · rfl
  · rfl
  · rfl
  · rfl
  · rw [if_neg (by simp)]
    rfl

end Congruence

/-! ## Values that share their fields -/

section SameBut

/-- Two values with the same fields, those of the given names apart. -/
def SameBut (names : List String) (v w : Json) : Prop := ∀ k, k ∉ names → v.field? k = w.field? k

variable {names : List String} {v w : Json}

theorem SameBut.of_filter
    (h : (v.fields.filter fun f => f.1 ∉ names) = w.fields.filter fun f => f.1 ∉ names) :
    SameBut names v w := by
  have hlookup {k : String} (hk : k ∉ names) (fs : Fields) :
      (fs.filter fun f => f.1 ∉ names).lookup k = fs.lookup k := by
    induction fs with
    | nil => rfl
    | cons f rest ih =>
      by_cases hf : f.1 ∈ names
      · have hne : (k == f.1) = false := beq_false_of_ne fun heq => hk (heq ▸ hf)
        rw [List.filter_cons_of_neg (by simpa using hf), ih, List.lookup_cons, hne]
      · rw [List.filter_cons_of_pos (by simpa using hf), List.lookup_cons, List.lookup_cons, ih]
  intro k hk
  unfold Json.field?
  rw [← hlookup hk v.fields, ← hlookup hk w.fields, h]

theorem SameBut.changeField (v : Json) (name : String) (f : Json → Json) :
    SameBut [name] (v.changeField name f) v := fun _ hk =>
  Json.field?_changeField_of_ne (List.ne_of_not_mem_cons hk) v f

theorem SameBut.lenient (h : SameBut names v w) {α : Type} (k : String) (read : Json → Option α)
    (hk : k ∉ names) : lenient v.fields k read = lenient w.fields k read :=
  congrArg (·.bind read) (h k hk)

theorem SameBut.slot? (h : SameBut names v w) {k : String} (hk : k ∉ names) :
    v.slot? k = w.slot? k := by
  unfold Json.slot?
  rw [h k hk]

theorem SameBut.typeText? (h : SameBut names v w) (htype : "type" ∉ names) :
    v.typeText? = w.typeText? := congrArg (·.bind Json.text?) (h "type" htype)

theorem SameBut.kind? (h : SameBut names v w) (htype : "type" ∉ names) : v.kind? = w.kind? := by
  unfold Json.kind?
  rw [h.typeText? htype]

/-- The attributes of a box do not look at its contents. -/
theorem SameBut.box (h : SameBut ["contents"] v w) :
    Box.ofFields v.fields = .ofFields w.fields := by
  simp (disch := decide) only [Box.ofFields, Placement.ofFields, stringOf, numberOf, wordOf,
    actionOf, h.lenient]

theorem SameBut.text (h : SameBut ["contents"] v w) :
    Text.ofFields v.fields = .ofFields w.fields := by
  simp (disch := decide) only [Text.ofFields, Placement.ofFields, stringOf, numberOf, wordOf,
    actionOf, h.lenient]

theorem SameBut.video (h : SameBut ["altContent"] v w) :
    Video.ofFields v.fields = .ofFields w.fields := by
  simp (disch := decide) only [Video.ofFields, stringOf, actionOf, h.lenient]

end SameBut

end Document

end FlexLayout
