import FlexLayout.Document.Message
import FlexLayout.Tree.Message

/-!
# Positions in a document

What stands where in the JSON of a document, said of the values themselves: the kind that a value
names, the items of its `contents`, and the value in one of its slots. `Json.positions` lists the
kinds of all places below a value that a tree has a node for. `Component.ofJson_eq` says how
components are read in these words, for every value.
-/

namespace FlexLayout

namespace Json

/-- The value in a field that is there and not `null`. -/
def slot? (v : Json) (name : String) : Option Json :=
  match v.field? name with
  | some .null => none
  | w => w

/-- The string that an object names under `type`. -/
def typeText? (v : Json) : Option String := (v.field? "type").bind text?

/-- The known kind that an object names under `type`. -/
def kind? (v : Json) : Option Kind := v.typeText?.bind Keyword.ofWord?

/-- The items under `contents`; none unless an array stands there. -/
def contents (v : Json) : List Json := ((v.field? "contents").bind items?).getD []

/-- The items under `contents` of a known kind. -/
def knownContents (v : Json) : List Json := v.contents.filter fun w => w.kind?.isSome

/-- The spans under `contents`. -/
def spanContents (v : Json) : List Json := v.contents.filter fun w => w.kind? = some .span

mutual

/-- The kinds of the places below a component that have a node, each before those below it. Below
a text these are its spans. -/
def positions : Json → List Kind
  | .object fs =>
    match (object fs).kind? with
    | none => []
    | some .box => .box :: contentsPositions fs
    | some .text => .text :: (object fs).spanContents.map fun _ => .span
    | some .video => .video :: altPositions fs
    | some k => [k]
  | _ => []
termination_by structural v => v

/-- The positions in the first field `contents`. -/
def contentsPositions : List (String × Json) → List Kind
  | [] => []
  | (name, v) :: rest =>
    if name = "contents" then
      match v with
      | .array items => itemsPositions items
      | _ => []
    else contentsPositions rest
termination_by structural fs => fs

/-- The positions in the first field `altContent`. -/
def altPositions : List (String × Json) → List Kind
  | [] => []
  | (name, v) :: rest =>
    if name = "altContent" then positions v else altPositions rest
termination_by structural fs => fs

def itemsPositions : List Json → List Kind
  | [] => []
  | v :: rest => positions v ++ itemsPositions rest
termination_by structural items => items

end

/-- The positions in a header, body or footer, which hold a box only. -/
def boxedPositions (slot : Option Json) : List Kind :=
  match slot with
  | some w => if w.kind? = some .box then w.positions else []
  | none => []

/-- The positions in a hero, which holds any known component. -/
def heroPositions (slot : Option Json) : List Kind :=
  match slot with
  | some w => w.positions
  | none => []

/-- The positions in a bubble, from the top down. -/
def bubblePositions (v : Json) : List Kind :=
  boxedPositions (v.slot? "header") ++ heroPositions (v.slot? "hero")
    ++ boxedPositions (v.slot? "body") ++ boxedPositions (v.slot? "footer")

/-- The bubbles of a container: the entries of a carousel that are bubbles, or else the container
itself. -/
def bubbles (v : Json) : List Json :=
  if v.typeText? = some "carousel" then v.contents.filter fun e => e.typeText? = some "bubble"
  else [v]

theorem bind_text?_eq_some_iff {v : Json} {name s : String} :
    (v.field? name).bind text? = some s ↔ v.field? name = some (.string s) := by
  rw [Option.bind_eq_some_iff]
  constructor
  · rintro ⟨w, hw, hs⟩
    cases w with
    | string s' =>
      cases hs
      exact hw
    | _ => cases hs
  · intro h
    exact ⟨_, h, rfl⟩

theorem typeText?_eq_some_iff {v : Json} {s : String} :
    v.typeText? = some s ↔ v.field? "type" = some (.string s) :=
  bind_text?_eq_some_iff

theorem kind?_of_typeText {v : Json} {k : Kind} (h : v.typeText? = some k.word) :
    v.kind? = some k := by
  unfold kind?
  rw [h]
  cases k <;> decide

theorem contents_of_field {v : Json} {items : List Json}
    (h : v.field? "contents" = some (.array items)) : v.contents = items := by
  unfold contents
  rw [h]
  rfl

/-! ## The positions, place by place -/

theorem itemsPositions_eq (items : List Json) : itemsPositions items = items.flatMap positions := by
  induction items with
  | nil => rfl
  | cons v rest ih => rw [itemsPositions, ih, List.flatMap_cons]

/-- A search for the first field of a name looks the name up. -/
theorem search_eq_lookup {α : Type} {g : List (String × Json) → α} {name : String} {none : α}
    {found : Json → α} (hnil : g [] = none)
    (hcons : ∀ k v rest, g ((k, v) :: rest) = if k = name then found v else g rest)
    (fs : List (String × Json)) : g fs = (fs.lookup name).elim none found := by
  induction fs with
  | nil => exact hnil
  | cons f rest ih =>
    obtain ⟨k, v⟩ := f
    rw [hcons, List.lookup_cons]
    by_cases h : k = name
    · subst h
      rw [if_pos rfl, beq_self_eq_true]
      rfl
    · rw [if_neg h, beq_false_of_ne (Ne.symm h)]
      exact ih

theorem contentsPositions_eq (fs : List (String × Json)) :
    contentsPositions fs = (object fs).contents.flatMap positions := by
  rw [search_eq_lookup (g := contentsPositions) rfl
    (fun _ _ _ => by rw [contentsPositions.eq_def]) fs]
  unfold contents field? fields
  rcases fs.lookup "contents" with _ | v
  · rfl
  · cases v with
    | array items => exact itemsPositions_eq items
    | _ => rfl

theorem altPositions_eq (fs : List (String × Json)) :
    altPositions fs = heroPositions ((object fs).slot? "altContent") := by
  rw [search_eq_lookup (g := altPositions) rfl (fun _ _ _ => by rw [altPositions.eq_def]) fs]
  unfold slot? field? fields
  rcases fs.lookup "altContent" with _ | v
  · rfl
  · cases v <;> rfl

/-- A box counts with all that its contents hold, a text with its spans, and a video with what its
alternative content holds. -/
theorem positions_eq (v : Json) :
    v.positions = match v.kind? with
      | none => []
      | some .box => .box :: v.contents.flatMap positions
      | some .text => .text :: v.spanContents.map fun _ => .span
      | some .video => .video :: heroPositions (v.slot? "altContent")
      | some k => [k] := by
  cases v with
  | object fs => rw [positions, contentsPositions_eq, altPositions_eq]
  | _ => rfl

end Json

/-! ## Induction over positions -/

namespace Json

theorem sizeOf_lookup_lt {fs : List (String × Json)} {name : String} {w : Json}
    (h : fs.lookup name = some w) : sizeOf w < sizeOf fs := by
  induction fs with
  | nil => cases h
  | cons f rest ih =>
    obtain ⟨k, v⟩ := f
    rw [List.cons.sizeOf_spec, Prod.mk.sizeOf_spec]
    rw [List.lookup_cons] at h
    split at h
    · cases h
      omega
    · have := ih h
      omega

theorem sizeOf_field_lt {v w : Json} {name : String} (h : v.field? name = some w) :
    sizeOf w < sizeOf v := by
  cases v with
  | object fs =>
    have hfs : sizeOf w < sizeOf fs := sizeOf_lookup_lt h
    rw [object.sizeOf_spec]
    omega
  | _ => cases h

theorem field_of_slot {v w : Json} {name : String} (h : v.slot? name = some w) :
    v.field? name = some w := by
  unfold slot? at h
  split at h
  · cases h
  · exact h

theorem sizeOf_mem_contents_lt {v w : Json} (h : w ∈ v.contents) : sizeOf w < sizeOf v := by
  unfold contents at h
  rcases hf : v.field? "contents" with _ | c
  · rw [hf] at h
    cases h
  · have hc := sizeOf_field_lt hf
    rw [hf] at h
    cases c with
    | array items =>
      have hw := List.sizeOf_lt_of_mem (show w ∈ items from h)
      rw [array.sizeOf_spec] at hc
      omega
    | _ => cases h

/-- What holds of a value if it holds of the items of its contents and of its alternative content
holds of every value. -/
@[elab_as_elim]
theorem position_induction {motive : Json → Prop}
    (step : ∀ v : Json, (∀ w ∈ v.contents, motive w) →
      (∀ w, v.slot? "altContent" = some w → motive w) → motive v) (v : Json) : motive v :=
  step v (fun w _ => position_induction step w) (fun w _ => position_induction step w)
termination_by sizeOf v
decreasing_by
  · exact sizeOf_mem_contents_lt ‹_›
  · exact sizeOf_field_lt (field_of_slot ‹_›)

end Json

/-! ## Reading components -/

namespace Document

theorem sectionOf_eq (v : Json) (name : String) :
    sectionOf v.fields name = (v.slot? name).map Component.ofJson := by
  unfold sectionOf Json.slot? Json.field?
  rcases v.fields.lookup name with _ | w
  · rfl
  · cases w <;> rfl

theorem typeText_of_kind {w : Json} {k : Kind} (h : w.kind? = some k) :
    w.typeText? = some k.word := by
  obtain ⟨s, hs, hk⟩ := Option.bind_eq_some_iff.mp h
  have hword := List.find?_some hk
  rw [beq_iff_eq] at hword
  rw [hs, ← hword]
  rfl

namespace Component

theorem contentsOf_eq (fs : Fields) :
    contentsOf fs = (Json.object fs).contents.map ofJson := by
  rw [Json.search_eq_lookup (g := contentsOf) rfl (fun _ _ _ => by rw [contentsOf.eq_def]) fs]
  unfold Json.contents Json.field? Json.fields
  rcases fs.lookup "contents" with _ | v
  · rfl
  · cases v with
    | array items => exact ofItems_eq_map items
    | _ => rfl

theorem altOf_eq (fs : Fields) :
    altOf fs = ((Json.object fs).slot? "altContent").map ofJson := by
  rw [Json.search_eq_lookup (g := altOf) rfl (fun _ _ _ => by rw [altOf.eq_def]) fs]
  unfold Json.slot? Json.field? Json.fields
  rcases fs.lookup "altContent" with _ | v
  · rfl
  · cases v <;> rfl

theorem ofWord?_getD (s : Option String) :
    (Keyword.ofWord? (s.getD "") : Option Kind) = s.bind Keyword.ofWord? := by
  rcases s with _ | s
  · decide
  · rfl

/-- Every value is read as a component of the kind that it names, from its own fields, its
contents item by item and its alternative content. -/
theorem ofJson_eq (v : Json) :
    ofJson v = match v.kind? with
      | some .box => box (.ofFields v.fields) (v.contents.map ofJson)
      | some .button => button (.ofFields v.fields)
      | some .filler => filler (.ofFields v.fields)
      | some .icon => icon (.ofFields v.fields)
      | some .image => image (.ofFields v.fields)
      | some .separator => separator (.ofFields v.fields)
      | some .spacer => spacer (.ofFields v.fields)
      | some .text => text (.ofFields v.fields) (v.contents.map ofJson)
      | some .span => span (.ofFields v.fields)
      | some .video => video (.ofFields v.fields) ((v.slot? "altContent").map ofJson)
      | none => unknown (v.typeText?.getD "") := by
  cases v with
  | object fs =>
    have hkind : (Keyword.ofWord? ((stringOf fs "type").getD "") : Option Kind) =
        (Json.object fs).kind? := ofWord?_getD _
    rw [ofJson, ofFields, contentsOf_eq, altOf_eq, hkind]
    rfl
  | _ => rfl

theorem ofJson_box {v : Json} (h : v.kind? = some .box) :
    ofJson v = box (.ofFields v.fields) (v.contents.map ofJson) := by rw [ofJson_eq, h]

theorem ofJson_text {v : Json} (h : v.kind? = some .text) :
    ofJson v = text (.ofFields v.fields) (v.contents.map ofJson) := by rw [ofJson_eq, h]

theorem ofJson_video {v : Json} (h : v.kind? = some .video) :
    ofJson v = video (.ofFields v.fields) ((v.slot? "altContent").map ofJson) := by
  rw [ofJson_eq, h]

/-- A component is of the kind that its value names. -/
theorem kind_ofJson (w : Json) : (ofJson w).kind = w.typeText?.getD "" := by
  rw [ofJson_eq]
  rcases hk : w.kind? with _ | k
  · rfl
  · rw [typeText_of_kind hk]
    cases k <;> rfl

theorem ofJson_eq_unknown {w : Json} {kind : String} (h : ofJson w = unknown kind) :
    w.kind? = none ∧ w.typeText?.getD "" = kind := by
  rw [ofJson_eq] at h
  rcases hk : w.kind? with _ | k
  · rw [hk] at h
    cases h
    exact ⟨rfl, rfl⟩
  · rw [hk] at h
    cases k <;> cases h

end Component

theorem not_mem_words {w : Json} (h : w.kind? = none) : w.typeText?.getD "" ∉ Kind.words := by
  have hnone : (Keyword.ofWord? (w.typeText?.getD "") : Option Kind) = none := by
    rw [Component.ofWord?_getD]
    exact h
  intro hmem
  obtain ⟨k, hk, hword⟩ := List.mem_map.mp hmem
  exact List.find?_eq_none.mp hnone k hk (beq_iff_eq.mpr hword)

end Document

end FlexLayout
