import FlexLayout.Proofs.Document.Attribute

/-!
# Reading part by part

Components, bubbles and containers are read without any way to fail. Here they are read once more
by readers that can: a record is read if all its attributes are, a list if all its items are, and a
bubble if its sections are. Failures are absorbed by attributes that may be absent, and by nothing
else, so one item that could not be read would take its whole list with it. None ever does
(`component?_eq`, `entryOf?_eq`): the two ways to read agree, and lists keep their length and their
order, however malformed the attributes are and however deep they stand (`component?_elementwise`).
-/

namespace FlexLayout.Document

/-! ## Records -/

/-- Reads an attribute by way of an optional value: what is missing or `null` is absent, and so is
what cannot be read. -/
def Attribute.read? (a : Attribute) (fs : Fields) : Option (Option a.Value) :=
  match fs.lookup a.name with
  | none | some .null => some none
  | some v => some (a.read v)

theorem Attribute.read?_eq (a : Attribute) (fs : Fields) : a.read? fs = some (a.of fs) := by
  unfold read? of lenient
  rcases fs.lookup a.name with _ | v
  · rfl
  · cases v with
    | null => exact congrArg some a.read_null.symm
    | _ => rfl

namespace Fallible

open Attribute

/-- Reads a position and its offsets. Like all records, they are read if every attribute is. -/
def placement? (fs : Fields) : Option Placement := do
  some {
    position := ← (word Position "position").read? fs
    offsets := {
      top := ← (text "offsetTop").read? fs
      bottom := ← (text "offsetBottom").read? fs
      start := ← (text "offsetStart").read? fs
      «end» := ← (text "offsetEnd").read? fs } }

theorem placement?_eq (fs : Fields) : placement? fs = some (.ofFields fs) := by
  simp only [placement?, Attribute.read?_eq]
  rfl

def box? (fs : Fields) : Option Box := do
  some {
    layout := ← (word Layout "layout").read? fs
    flex := ← (number "flex").read? fs
    spacing := ← (text "spacing").read? fs
    margin := ← (text "margin").read? fs
    padding := {
      all := ← (text "paddingAll").read? fs
      top := ← (text "paddingTop").read? fs
      bottom := ← (text "paddingBottom").read? fs
      start := ← (text "paddingStart").read? fs
      «end» := ← (text "paddingEnd").read? fs }
    placement := ← placement? fs
    backgroundColor := ← (text "backgroundColor").read? fs
    borderColor := ← (text "borderColor").read? fs
    borderWidth := ← (text "borderWidth").read? fs
    cornerRadius := ← (text "cornerRadius").read? fs
    width := ← (text "width").read? fs
    maxWidth := ← (text "maxWidth").read? fs
    height := ← (text "height").read? fs
    maxHeight := ← (text "maxHeight").read? fs
    justifyContent := ← (word JustifyContent "justifyContent").read? fs
    alignItems := ← (word AlignItems "alignItems").read? fs
    background := ← background.read? fs
    action := ← action.read? fs }

def button? (fs : Fields) : Option Button := do
  some {
    action := ← action.read? fs
    flex := ← (number "flex").read? fs
    margin := ← (text "margin").read? fs
    placement := ← placement? fs
    height := ← (word ButtonHeight "height").read? fs
    style := ← (word ButtonStyle "style").read? fs
    color := ← (text "color").read? fs
    gravity := ← (word Gravity "gravity").read? fs
    adjustMode := ← (word AdjustMode "adjustMode").read? fs }

def filler? (fs : Fields) : Option Filler := do
  some { flex := ← (number "flex").read? fs }

def icon? (fs : Fields) : Option Icon := do
  some {
    url := (← (text "url").read? fs).getD ""
    size := ← (text "size").read? fs
    aspectRatio := ← (text "aspectRatio").read? fs
    margin := ← (text "margin").read? fs
    placement := ← placement? fs }

def image? (fs : Fields) : Option Image := do
  some {
    url := (← (text "url").read? fs).getD ""
    flex := ← (number "flex").read? fs
    margin := ← (text "margin").read? fs
    placement := ← placement? fs
    align := ← (word Align "align").read? fs
    gravity := ← (word Gravity "gravity").read? fs
    size := ← (text "size").read? fs
    aspectRatio := ← (text "aspectRatio").read? fs
    aspectMode := ← (word AspectMode "aspectMode").read? fs
    backgroundColor := ← (text "backgroundColor").read? fs
    action := ← action.read? fs }

def separator? (fs : Fields) : Option Separator := do
  some {
    margin := ← (text "margin").read? fs
    color := ← (text "color").read? fs }

def spacer? (fs : Fields) : Option Spacer := do
  some { size := ← (text "size").read? fs }

def text? (fs : Fields) : Option Text := do
  some {
    text := (← (text "text").read? fs).getD ""
    flex := ← (number "flex").read? fs
    margin := ← (text "margin").read? fs
    placement := ← placement? fs
    size := ← (text "size").read? fs
    align := ← (word Align "align").read? fs
    gravity := ← (word Gravity "gravity").read? fs
    wrap := ← (flag "wrap").read? fs
    maxLines := ← (natural "maxLines").read? fs
    weight := ← (word Weight "weight").read? fs
    color := ← (text "color").read? fs
    style := ← (word FontStyle "style").read? fs
    decoration := ← (word Decoration "decoration").read? fs
    lineSpacing := ← (text "lineSpacing").read? fs
    action := ← action.read? fs }

def span? (fs : Fields) : Option Span := do
  some {
    text := (← (text "text").read? fs).getD ""
    size := ← (text "size").read? fs
    color := ← (text "color").read? fs
    weight := ← (word Weight "weight").read? fs
    style := ← (word FontStyle "style").read? fs
    decoration := ← (word Decoration "decoration").read? fs }

def video? (fs : Fields) : Option Video := do
  some {
    url := (← (text "url").read? fs).getD ""
    previewUrl := (← (text "previewUrl").read? fs).getD ""
    aspectRatio := ← (text "aspectRatio").read? fs
    action := ← action.read? fs }

/-! ## Components -/

/-- The component of an object, given the components in its `contents` and its `altContent`. -/
def fields? (fs : Fields) (contents : List Component) (alt : Option Component) :
    Option Component :=
  let kind := (stringOf fs "type").getD ""
  match Keyword.ofWord? kind with
  | some Kind.box => (box? fs).map (.box · contents)
  | some Kind.button => (button? fs).map .button
  | some Kind.filler => (filler? fs).map .filler
  | some Kind.icon => (icon? fs).map .icon
  | some Kind.image => (image? fs).map .image
  | some Kind.separator => (separator? fs).map .separator
  | some Kind.spacer => (spacer? fs).map .spacer
  | some Kind.text => (text? fs).map (.text · contents)
  | some Kind.span => (span? fs).map .span
  | some Kind.video => (video? fs).map (.video · alt)
  | none => some (.unknown kind)

mutual

/-- Reads a component. -/
def component? : Json → Option Component
  | .object fs => fields? fs (contents fs) (alt fs)
  | _ => some (.unknown "")
termination_by structural v => v

/-- The components in the first field `contents`; none of them if one cannot be read. -/
def contents : List (String × Json) → List Component
  | [] => []
  | (name, v) :: rest =>
    if name = "contents" then
      match v with
      | .array items => (components? items).getD []
      | _ => []
    else contents rest
termination_by structural fs => fs

/-- The component in the first field `altContent`, if it can be read. -/
def alt : List (String × Json) → Option Component
  | [] => none
  | (name, v) :: rest =>
    if name = "altContent" then
      match v with
      | .null => none
      | v => component? v
    else alt rest
termination_by structural fs => fs

/-- Reads a list, if every item can be read. -/
def components? : List Json → Option (List Component)
  | [] => some []
  | v :: rest => do
    let c ← component? v
    let more ← components? rest
    some (c :: more)
termination_by structural items => items

end

/-- No attribute of any kind keeps an object from being read. -/
theorem fields?_eq (fs : Fields) (contents : List Component) (alt : Option Component) :
    fields? fs contents alt = some (.ofFields fs contents alt) := by
  simp only [fields?, Component.ofFields, box?, button?, filler?, icon?, image?, separator?,
    spacer?, text?, span?, video?, Attribute.read?_eq, placement?_eq]
  rcases Keyword.ofWord? ((stringOf fs "type").getD "") with _ | k
  · rfl
  · cases k <;> rfl

mutual

/-- Every value is read, and comes to the same component. -/
theorem component?_eq : ∀ v : Json, component? v = some (.ofJson v)
  | .object fs => by
    rw [component?, Component.ofJson, contents_eq fs, alt_eq fs, fields?_eq]
  | .null | .bool _ | .number _ | .string _ | .array _ => rfl

theorem contents_eq : ∀ fs : List (String × Json), contents fs = Component.contentsOf fs
  | [] => rfl
  | (name, v) :: rest => by
    rw [contents.eq_def, Component.contentsOf.eq_def]
    simp only [contents_eq rest]
    cases v with
    | array items =>
      simp only [components?_eq items]
      rfl
    | _ => rfl

theorem alt_eq : ∀ fs : List (String × Json), alt fs = Component.altOf fs
  | [] => rfl
  | (name, v) :: rest => by
    have hv := component?_eq v
    rw [alt.eq_def, Component.altOf.eq_def]
    simp only [alt_eq rest]
    cases v with
    | null => rfl
    | _ => simp only [hv]

theorem components?_eq : ∀ items : List Json, components? items = some (Component.ofItems items)
  | [] => rfl
  | v :: rest => by
    rw [components?, Component.ofItems, component?_eq v, components?_eq rest]
    rfl

end

/-! ## Bubbles and carousels -/

/-- The component in a section; none if the section is missing or `null`. A component that cannot
be read does not count as absent here. -/
def section? (fs : Fields) (name : String) : Option (Option Component) :=
  match fs.lookup name with
  | none | some .null => some none
  | some v => (component? v).map some

/-- Reads a bubble, if its sections can be read. -/
def bubble? (fs : Fields) : Option Bubble := do
  some {
    size := ← (word BubbleSize "size").read? fs
    direction := ← (word Direction "direction").read? fs
    header := ← section? fs "header"
    hero := ← section? fs "hero"
    body := ← section? fs "body"
    footer := ← section? fs "footer"
    styles := (← styles.read? fs).getD {}
    action := ← action.read? fs }

/-- Reads an entry of a carousel. What is no bubble is not looked into. -/
def entryOf? (v : Json) : Option Entry :=
  match Json.discriminant (v.field? "type") with
  | "bubble" => (bubble? v.fields).map .bubble
  | kind => some (.unknown kind)

/-- The entries of a carousel; none of them if one cannot be read. -/
def entries (fs : Fields) : List Entry :=
  (lenient fs "contents" fun v => v.items?.bind (List.mapM entryOf?)).getD []

/-- Reads a container, whose type may be wrong. -/
def container? (v : Json) : Option (Except Fault Container) :=
  match Json.discriminant (v.field? "type") with
  | "bubble" => (bubble? v.fields).map (.ok <| .bubble ·)
  | "carousel" => some (.ok (.carousel (entries v.fields)))
  | found => some (.error (.contentsType found))

theorem section?_eq (fs : Fields) (name : String) : section? fs name = some (sectionOf fs name) := by
  unfold section? sectionOf
  simp only [component?_eq, Option.map_some]
  rcases fs.lookup name with _ | v
  · rfl
  · cases v <;> rfl

theorem bubble?_eq (fs : Fields) : bubble? fs = some (.ofFields fs) := by
  simp only [bubble?, Attribute.read?_eq, section?_eq]
  rfl

theorem entryOf?_eq (v : Json) : entryOf? v = some (.ofJson v) := by
  simp only [entryOf?, Entry.ofJson, bubble?_eq, Option.map_some]
  generalize Json.discriminant (v.field? "type") = kind
  split
  · rfl
  · simp only

theorem entries_eq (v : Json) : entries v.fields = v.contents.map .ofJson := by
  have hread : entryOf? = fun v => some (Entry.ofJson v) := funext entryOf?_eq
  rw [map_contents_eq, entries, hread]
  congr 2
  funext w
  rcases w.items? with _ | items
  · rfl
  · exact List.mapM_pure

theorem container?_eq (v : Json) : container? v = some (Container.ofJson v) := by
  simp only [container?, Container.ofJson, bubble?_eq, Option.map_some, entries_eq]
  generalize Json.discriminant (v.field? "type") = kind
  split
  · rfl
  · rfl
  · simp only

/-! ## Lists and their items -/

/-- What a component has of the value that it is read from. The component of a box or a text whose
`contents` is an array has one component for every item, in their order. -/
structure ReadFrom (v : Json) (c : Component) : Prop where
  kind : c.kind = v.typeText?.getD ""
  unknown : (∃ kind, c = .unknown kind) ↔ v.typeText?.getD "" ∉ Kind.words
  box : v.typeText? = some "box" → ∀ xs, v.field? "contents" = some (.array xs) →
    ∃ b cs, c = .box b cs ∧ List.Forall₂ (fun x d => component? x = some d) xs cs
  text : v.typeText? = some "text" → ∀ xs, v.field? "contents" = some (.array xs) →
    ∃ t cs, c = .text t cs ∧ List.Forall₂ (fun x d => component? x = some d) xs cs

/-- A reader that never fails reads a list item by item. -/
theorem forall₂_read {α : Type} {read? : Json → Option α} {read : Json → α}
    (h : ∀ v, read? v = some (read v)) (xs : List Json) :
    List.Forall₂ (fun x a => read? x = some a) xs (xs.map read) := by
  rw [List.forall₂_map_right_iff, List.forall₂_same]
  exact fun x _ => h x

theorem isUnknown_ofJson_iff (v : Json) :
    (∃ kind, Component.ofJson v = .unknown kind) ↔ v.typeText?.getD "" ∉ Kind.words := by
  constructor
  · rintro ⟨kind, h⟩
    exact not_mem_words (Component.ofJson_eq_unknown h).1
  · intro h
    rcases hk : v.kind? with _ | k
    · exact ⟨_, by rw [Component.ofJson_eq, hk]⟩
    · rw [typeText_of_kind hk] at h
      exact absurd (List.mem_map_of_mem (by cases k <;> decide)) h

theorem readFrom_ofJson (v : Json) : ReadFrom v (.ofJson v) where
  kind := Component.kind_ofJson v
  unknown := isUnknown_ofJson_iff v
  box hbox xs hxs := by
    rw [Component.ofJson_box (Json.kind?_of_typeText hbox), Json.contents_of_field hxs]
    exact ⟨_, _, rfl, forall₂_read component?_eq xs⟩
  text htext xs hxs := by
    rw [Component.ofJson_text (Json.kind?_of_typeText htext), Json.contents_of_field hxs]
    exact ⟨_, _, rfl, forall₂_read component?_eq xs⟩

/-- **Lists and their items.** Every value is read as a component, of the kind that it names under
`type` or of the empty kind, and only a kind that nobody knows makes it unknown. The contents of a
box or a text are read item by item, and so are the entries of a carousel: none is lost and none
moves, whatever is wrong with the attributes of any of them. -/
theorem component?_elementwise (v : Json) :
    (component? v = some (.ofJson v) ∧ ReadFrom v (.ofJson v)) ∧
      container? v = some (Container.ofJson v) ∧
      (v.typeText? = some "carousel" → ∀ xs, v.field? "contents" = some (.array xs) →
        ∃ es, Container.ofJson v = .ok (.carousel es) ∧
          List.Forall₂ (fun x e => entryOf? x = some e) xs es) := by
  refine ⟨⟨component?_eq v, readFrom_ofJson v⟩, container?_eq v, fun htype xs hxs => ?_⟩
  refine ⟨xs.map .ofJson, ?_, forall₂_read entryOf?_eq xs⟩
  rw [Container.ofJson, Json.typeText?_eq_some_iff.mp htype, hxs]
  rfl

/-- A carousel whose entries are a number, a bubble with a list for a body, and a bubble whose body
has an item with the wrong attributes. -/
def mangled : Json :=
  let typed (kind : String) (fs : List (String × Json)) : Json :=
    .object (("type", .string kind) :: fs)
  typed "carousel" [("contents", .array [.number (.int 5),
    typed "bubble" [("body", .array [])],
    typed "bubble" [("body", typed "box" [("contents", .array [
      typed "text" [("text", .null), ("maxLines", .string "two"), ("contents", .bool true)]])])]])]

theorem component?_elementwise_mangled :
    ∃ es, Container.ofJson mangled = .ok (.carousel es) ∧
      List.Forall₂ (fun x e => entryOf? x = some e) mangled.contents es :=
  (component?_elementwise mangled).2.2 rfl mangled.contents rfl

end Fallible

end FlexLayout.Document
