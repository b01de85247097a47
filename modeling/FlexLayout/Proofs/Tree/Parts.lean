import FlexLayout.Proofs.Json.Codec
import FlexLayout.Tree.Decoding

/-!
# Parts of written trees

The doubles in every part of a tree below the nodes, and that each part is read as it was written
if its doubles are exact. The fields of nodes are records; what a node holds besides its fields is
left to the nodes themselves.
-/

namespace FlexLayout

/-! ## Options -/

theorem allExact_optionFloats {α : Type} {f : α → List Float} {a : Option α} :
    AllExact (optionFloats f a) ↔ ∀ b ∈ a, AllExact (f b) := by
  rcases a with _ | b
  · simp [optionFloats]
  · simp [optionFloats]

namespace Tree

@[simp] theorem word?_toJson {α : Type} [Keyword α] [LawfulKeyword α] (a : α) :
    word? (Keyword.toJson a) = some a := (faithful_word .tree a).read_write

@[simp] theorem readable_word {α : Type} [Keyword α] (a : α) : (Keyword.toJson a).Readable :=
  Json.readable_string _

@[simp] theorem nullable_optionalWord {α : Type} [Keyword α] [LawfulKeyword α] (a : Option α) :
    nullable word? (optionalWord a) = some a :=
  Faithful.nullable_ofOption fun b _ => faithful_word .tree b

@[simp] theorem readable_optionalWord {α : Type} [Keyword α] [LawfulKeyword α] (a : Option α) :
    (optionalWord a).Readable :=
  Faithful.readable_ofOption fun b _ => faithful_word .tree b

@[simp] theorem text?_string (s : String) : Json.text? (.string s) = some s := rfl

@[simp] theorem bool?_bool (b : Bool) : Json.bool? (.bool b) = some b := rfl

@[simp] theorem nullable_optionalString (s : Option String) :
    nullable Json.text? (optionalString s) = some s :=
  Faithful.nullable_ofOption fun b _ => faithful_string b

@[simp] theorem readable_optionalString (s : Option String) : (optionalString s).Readable :=
  Faithful.readable_ofOption fun b _ => faithful_string b

@[simp] theorem nullable_optionalAction (a : Option Action) :
    nullable action? (optionalAction a) = some a :=
  Faithful.nullable_ofOption fun b _ => b.faithful .tree

@[simp] theorem readable_optionalAction (a : Option Action) : (optionalAction a).Readable :=
  Faithful.readable_ofOption fun b _ => b.faithful .tree

@[simp] theorem length_toJson {l : Length} (h : AllExact l.floats) :
    Length.ofJson? l.toJson = some l := (Length.faithful h).read_write

@[simp] theorem readable_length {l : Length} (h : AllExact l.floats) : l.toJson.Readable :=
  (Length.faithful h).readable

@[simp] theorem nullable_optionalLength {l : Option Length}
    (h : AllExact (optionFloats Length.floats l)) :
    nullable Length.ofJson? (.ofOption Length.toJson l) = some l :=
  Faithful.nullable_ofOption fun b hb => Length.faithful (allExact_optionFloats.mp h b hb)

@[simp] theorem readable_optionalLength {l : Option Length}
    (h : AllExact (optionFloats Length.floats l)) : (Json.ofOption Length.toJson l).Readable :=
  Faithful.readable_ofOption fun b hb => Length.faithful (allExact_optionFloats.mp h b hb)

@[simp] theorem growth_toJson {g : Growth} (h : AllExact g.floats) :
    Growth.ofJson? g.toJson = some g := (Growth.faithful h).read_write

@[simp] theorem readable_growth {g : Growth} (h : AllExact g.floats) : g.toJson.Readable :=
  (Growth.faithful h).readable

end Tree

/-! ## Geometry -/

/-- The doubles in the lengths on the four edges. -/
def Edges.floats (e : Edges) : List Float :=
  optionFloats Length.floats e.top ++ optionFloats Length.floats e.bottom
    ++ optionFloats Length.floats e.start ++ optionFloats Length.floats e.end

theorem Edges.faithful {e : Edges} (h : AllExact e.floats) : Faithful toJson ofJson? e := by
  simp only [floats, allExact_append] at h
  have hrecord : FaithfulRecord ["top", "bottom", "start", "end"]
      (fun r => do
        some {
          top := ← r.optional "top" Length.ofJson?
          bottom := ← r.optional "bottom" Length.ofJson?
          start := ← r.optional "start" Length.ofJson?
          «end» := ← r.optional "end" Length.ofJson? })
      [("top", .ofOption Length.toJson e.top), ("bottom", .ofOption Length.toJson e.bottom),
        ("start", .ofOption Length.toJson e.start), ("end", .ofOption Length.toJson e.end)] e :=
    ⟨rfl, by decide, by simp [h], by simp [h]⟩
  exact hrecord.faithful rfl rfl

namespace Tree

@[simp] theorem edges_toJson {e : Edges} (h : AllExact e.floats) :
    Edges.ofJson? e.toJson = some e := (Edges.faithful h).read_write

@[simp] theorem readable_edges {e : Edges} (h : AllExact e.floats) : e.toJson.Readable :=
  (Edges.faithful h).readable

def Margin.floats (m : Margin) : List Float := m.amount.floats

theorem Margin.faithful {m : Margin} (h : AllExact m.floats) : Faithful toJson ofJson? m := by
  simp only [floats] at h
  have hrecord : FaithfulRecord ["side", "amount"]
      (fun r => do some ⟨← r.required "side" word?, ← r.required "amount" Length.ofJson?⟩)
      [("side", Keyword.toJson m.side), ("amount", m.amount.toJson)] m :=
    ⟨rfl, by decide, by simp [h], by simp [h]⟩
  exact hrecord.faithful rfl rfl

@[simp] theorem nullable_optionalMargin {m : Option Margin}
    (h : AllExact (optionFloats Margin.floats m)) :
    nullable Margin.ofJson? (optionalMargin m) = some m :=
  Faithful.nullable_ofOption fun b hb => Margin.faithful (allExact_optionFloats.mp h b hb)

@[simp] theorem readable_optionalMargin {m : Option Margin}
    (h : AllExact (optionFloats Margin.floats m)) : (optionalMargin m).Readable :=
  Faithful.readable_ofOption fun b hb => Margin.faithful (allExact_optionFloats.mp h b hb)

def Geometry.floats (g : Geometry) : List Float :=
  g.flex.floats ++ optionFloats Margin.floats g.margin ++ g.offsets.floats

theorem Geometry.faithful {g : Geometry} (h : AllExact g.floats) : Faithful toJson ofJson? g := by
  simp only [floats, allExact_append] at h
  have hrecord : FaithfulRecord ["flex", "margin", "position", "offsets"]
      (fun r => do
        some {
          flex := ← r.required "flex" Growth.ofJson?
          margin := ← r.optional "margin" Margin.ofJson?
          position := ← r.optional "position" word?
          offsets := ← r.required "offsets" Edges.ofJson? })
      [("flex", g.flex.toJson), ("margin", optionalMargin g.margin),
        ("position", optionalWord g.position), ("offsets", g.offsets.toJson)] g :=
    ⟨rfl, by decide, by simp [h], by simp [h]⟩
  exact hrecord.faithful rfl rfl

@[simp] theorem geometry_toJson {g : Geometry} (h : AllExact g.floats) :
    Geometry.ofJson? g.toJson = some g := (Geometry.faithful h).read_write

@[simp] theorem readable_geometry {g : Geometry} (h : AllExact g.floats) : g.toJson.Readable :=
  (Geometry.faithful h).readable

/-- The double in a line height. -/
def LineHeight.floats : LineHeight → List Float
  | px x | multiplier x => [x]

theorem LineHeight.faithful {l : LineHeight} (h : AllExact l.floats) :
    Faithful toJson ofJson? l := by
  cases l with
  | px x => exact .of_float (allExact_cons.mp h).1 rfl fun _ => rfl
  | multiplier x => exact .of_float (allExact_cons.mp h).1 rfl fun _ => rfl

@[simp] theorem lineHeight_toJson {l : LineHeight} (h : AllExact l.floats) :
    LineHeight.ofJson? l.toJson = some l := (LineHeight.faithful h).read_write

@[simp] theorem readable_lineHeight {l : LineHeight} (h : AllExact l.floats) :
    l.toJson.Readable := (LineHeight.faithful h).readable

/-! ## Fields of nodes

The doubles of a record are listed in the order of its fields. -/

def Span.floats (s : Span) : List Float := optionFloats Length.floats s.fontSize

theorem Span.record {s : Span} (h : AllExact s.floats) :
    FaithfulRecord names ofRecord? s.fields s := by
  simp only [floats] at h
  exact ⟨rfl, by decide, by simp [ofRecord?, fields, optionalLength, h],
    by simp [fields, optionalLength, h]⟩

theorem Span.faithful {s : Span} (h : AllExact s.floats) :
    Faithful (fun s : Span => .object s.fields) ofJson? s := (record h).faithful rfl rfl

def Button.floats (b : Button) : List Float := b.geometry.floats ++ b.height.floats

theorem Button.record {b : Button} (h : AllExact b.floats) :
    FaithfulRecord names ofRecord? b.fields b := by
  simp only [floats, allExact_append] at h
  exact ⟨rfl, by decide, by simp [ofRecord?, fields, h], by simp [fields, h]⟩

def Filler.floats (f : Filler) : List Float := f.flex.floats

theorem Filler.record {f : Filler} (h : AllExact f.floats) :
    FaithfulRecord names ofRecord? f.fields f := by
  simp only [floats] at h
  exact ⟨rfl, by decide, by simp [ofRecord?, fields, h], by simp [fields, h]⟩

def Icon.floats (i : Icon) : List Float :=
  i.geometry.floats ++ optionFloats Length.floats i.fontSize ++ [i.widthEm]

theorem Icon.record {i : Icon} (h : AllExact i.floats) :
    FaithfulRecord names ofRecord? i.fields i := by
  simp only [floats, allExact_append, allExact_cons] at h
  exact ⟨rfl, by decide, by simp [ofRecord?, fields, optionalLength, h],
    by simp [fields, optionalLength, h]⟩

def Image.floats (i : Image) : List Float :=
  i.geometry.floats ++ i.width.floats ++ [i.aspectPercent]

theorem Image.record {i : Image} (h : AllExact i.floats) :
    FaithfulRecord names ofRecord? i.fields i := by
  simp only [floats, allExact_append, allExact_cons] at h
  exact ⟨rfl, by decide, by simp [ofRecord?, fields, h], by simp [fields, h]⟩

def Separator.floats (s : Separator) : List Float :=
  optionFloats Margin.floats s.margin ++ s.thickness.floats

theorem Separator.record {s : Separator} (h : AllExact s.floats) :
    FaithfulRecord names ofRecord? s.fields s := by
  simp only [floats, allExact_append] at h
  exact ⟨rfl, by decide, by simp [ofRecord?, fields, h], by simp [fields, h]⟩

def Spacer.floats (s : Spacer) : List Float := s.height.floats

theorem Spacer.record {s : Spacer} (h : AllExact s.floats) :
    FaithfulRecord names ofRecord? s.fields s := by
  simp only [floats] at h
  exact ⟨rfl, by decide, by simp [ofRecord?, fields, h], by simp [fields, h]⟩

def Text.floats (t : Text) : List Float :=
  t.geometry.floats ++ t.spans.flatMap Span.floats ++ optionFloats Length.floats t.fontSize
    ++ t.lineHeight.floats

theorem faithful_uint32 (n : UInt32) : Faithful (fun n : UInt32 => .ofNat n.toNat)
    (fun v => (v.natBelow? UInt32.size).map Nat.toUInt32) n := by
  have hlt : n.toNat < UInt32.size := n.toNat_lt
  refine ⟨?_, by rintro ⟨⟩, Json.readable_ofNat (hlt.trans (by decide : UInt32.size < UInt64.size))⟩
  unfold Json.ofNat Json.natBelow?
  simp [hlt]

/-- The lines and the spans of a text, item by item. -/
theorem Text.record {t : Text} (h : AllExact t.floats) :
    FaithfulRecord names ofRecord? t.fields t := by
  simp only [floats, allExact_append, allExact_flatMap] at h
  obtain ⟨⟨⟨hgeometry, hspans⟩, hsize⟩, hheight⟩ := h
  have hlines : list? Json.text? (.array (t.lines.map .string)) = some t.lines :=
    mapM_write fun s _ => text?_string s
  have hread : list? Span.ofJson? (.array (t.spans.map fun s => .object s.fields)) =
      some t.spans := mapM_write fun s hs => (Span.faithful (hspans s hs)).read_write
  have hreadable : ∀ s ∈ t.spans, ∀ f ∈ s.fields, f.2.Readable := fun s hs =>
    (Span.record (hspans s hs)).readable
  have hmax := Faithful.nullable_ofOption (a := t.maxLines) fun n _ => faithful_uint32 n
  have hmaxReadable := Faithful.readable_ofOption (a := t.maxLines) fun n _ => faithful_uint32 n
  refine ⟨rfl, by decide, ?_, ?_⟩
  · simp [ofRecord?, fields, optionalLength, hgeometry, hsize, hheight, hlines, hread, hmax]
  · simpa [fields, optionalLength, hgeometry, hsize, hheight, hmaxReadable] using
      fun s hs k v hf => hreadable s hs (k, v) hf

def Box.floats (b : Box) : List Float :=
  b.geometry.floats ++ b.padding.floats ++ optionFloats Length.floats b.borderWidth
    ++ optionFloats Length.floats b.cornerRadius ++ optionFloats Length.floats b.width
    ++ optionFloats Length.floats b.maxWidth ++ optionFloats Length.floats b.height
    ++ optionFloats Length.floats b.maxHeight

/-- The children are left to the reader of nodes. -/
theorem Box.record {b : Box} {children : Json} (h : AllExact b.floats)
    (hchildren : children.Readable) : FaithfulRecord names ofRecord? (b.fields children) b := by
  simp only [floats, allExact_append] at h
  exact ⟨rfl, by decide, by simp [ofRecord?, fields, optionalLength, h],
    by simp [fields, optionalLength, h, hchildren]⟩

def Video.floats (v : Video) : List Float := [v.aspectPercent]

/-- The alternative content is left to the reader of nodes. -/
theorem Video.record {v : Video} {alt : Json} (h : AllExact v.floats) (halt : alt.Readable) :
    FaithfulRecord names ofRecord? (v.fields alt) v := by
  simp only [floats, allExact_cons] at h
  exact ⟨rfl, by decide, by simp [ofRecord?, fields, h], by simp [fields, h, halt]⟩

end Tree

end FlexLayout
