import FlexLayout.Proofs.Json.Double
import FlexLayout.Proofs.Json.Nesting
import FlexLayout.Proofs.Tree.RoundTrip

/-!
# Which written trees can be read

A double that is not finite is written as `null`, which no reader takes for a number, and a finite
double is read as a number, if not always as the same one. `Recovers` says so of every part of a
tree: with its numbers reread, the writing of the part can be read just if all of its doubles are
finite. Fields and items come one after another, so each part comes to the parts in it.
-/

namespace FlexLayout

/-! ## Reread values -/

namespace Json

@[simp] theorem rereadAll_string (s : String) : (string s).rereadAll = string s := rfl

@[simp] theorem rereadAll_bool (b : Bool) : (bool b).rereadAll = bool b := rfl

@[simp] theorem rereadAll_null : null.rereadAll = null := rfl

@[simp] theorem rereadAll_object (fs : List (String × Json)) :
    (object fs).rereadAll = object (rereadFields fs) := rfl

@[simp] theorem rereadFields_nil : rereadFields [] = [] := rfl

@[simp] theorem rereadFields_cons (k : String) (v : Json) (fs : List (String × Json)) :
    rereadFields ((k, v) :: fs) = (k, v.rereadAll) :: rereadFields fs := rfl

theorem rereadFields_eq_map (fs : List (String × Json)) :
    rereadFields fs = fs.map fun (k, v) => (k, v.rereadAll) := by
  induction fs with
  | nil => rfl
  | cons f rest ih => rw [rereadFields_cons, ih, List.map_cons]

theorem rereadItems_eq_map (items : List Json) : rereadItems items = items.map rereadAll := by
  induction items with
  | nil => rfl
  | cons v rest ih => rw [rereadItems, ih, List.map_cons]

@[simp] theorem rereadAll_array_map {α : Type} (write : α → Json) (as : List α) :
    (array (as.map write)).rereadAll = array (as.map fun a => (write a).rereadAll) := by
  rw [rereadAll, rereadItems_eq_map, List.map_map]
  rfl

/-- What is written of a double is legible: the text of a finite one is read as some number, and
any other leaves no number. -/
@[simp] theorem legible_ofFloat (x : Float) : (ofFloat x).Legible := by
  unfold ofFloat
  split
  · rename_i h
    intro n hn
    rw [List.mem_singleton.mp hn]
    exact isSome_reread?_float h
  · rintro n ⟨⟩

@[simp] theorem legible_string (s : String) : (string s).Legible := (readable_string s).legible

@[simp] theorem legible_bool (b : Bool) : (bool b).Legible := (readable_bool b).legible

@[simp] theorem legible_null : null.Legible := readable_null.legible

@[simp] theorem legible_object {fs : List (String × Json)} :
    (object fs).Legible ↔ ∀ f ∈ fs, f.2.Legible := forall_numbers_object

@[simp] theorem legible_array {items : List Json} :
    (array items).Legible ↔ ∀ v ∈ items, v.Legible := forall_numbers_array

/-- A double is read as a number just if it is finite. -/
@[simp] theorem isSome_float?_rereadAll (x : Float) :
    ((ofFloat x).rereadAll.float?).isSome = x.isFinite := by
  unfold ofFloat
  cases x.isFinite <;> rfl

end Json

/-! ## Readings that succeed -/

section Success

variable {α β : Type}

@[simp] theorem any_const (x : Option α) (b : Bool) :
    (x.any fun _ => b) = (x.isSome && b) := by
  rcases x with _ | a <;> simp

theorem isSome_mapM (f : α → Option β) (as : List α) :
    (as.mapM f).isSome = as.all fun a => (f a).isSome := by
  induction as with
  | nil => rfl
  | cons a rest ih =>
    rw [List.mapM_cons, List.all_cons, ← ih]
    rcases f a with _ | b
    · rfl
    · rcases rest.mapM f with _ | bs <;> rfl

end Success

/-- What is written of `a` is legible and not `null`, and with its numbers reread it can be read
just if the doubles of `a` are finite. -/
structure Recovers {α : Type} (write : α → Json) (read : Json → Option α) (floats : α → List Float)
    (a : α) : Prop where
  isSome_read : (read (write a).rereadAll).isSome = (floats a).all Float.isFinite
  ne_null : (write a).rereadAll ≠ .null
  legible : (write a).Legible

namespace Recovers

variable {α : Type} {write : α → Json} {read : Json → Option α} {floats : α → List Float}

theorem isSome_nullable {a : Option α} (h : ∀ b ∈ a, Recovers write read floats b) :
    (nullable read (Json.ofOption write a).rereadAll).isSome =
      (optionFloats floats a).all Float.isFinite := by
  rcases a with _ | b
  · rfl
  · have hb := h b rfl
    show (nullable read (write b).rereadAll).isSome = _
    rw [nullable_of_ne_null hb.ne_null, Option.isSome_map, hb.isSome_read]
    rfl

theorem legible_ofOption {a : Option α} (h : ∀ b ∈ a, Recovers write read floats b) :
    (Json.ofOption write a).Legible := by
  rcases a with _ | b
  · exact Json.legible_null
  · exact (h b rfl).legible

/-- Without doubles, what is written and read is read again. -/
theorem of_faithful {a : α} (h : Faithful write read a) (hfloats : floats a = []) :
    Recovers write read floats a := by
  have hreread := Json.Readable.rereadAll_eq (write a) h.readable
  refine ⟨?_, ?_, h.readable.legible⟩
  · rw [hreread, h.read_write, hfloats]
    rfl
  · rw [hreread]
    exact h.ne_null

/-- A case that carries a double. -/
theorem of_float {f : Float → α} {x : Float} {name : String} (hfloats : floats (f x) = [x])
    (hwrite : write (f x) = .object [(name, .ofFloat x)])
    (hread : ∀ v, read (.object [(name, v)]) = v.float?.map f) :
    Recovers write read floats (f x) where
  isSome_read := by
    rw [hwrite, Json.rereadAll_object, Json.rereadFields_cons, Json.rereadFields_nil, hread,
      hfloats]
    simp
  ne_null := by rw [hwrite]; rintro ⟨⟩
  legible := by rw [hwrite]; simp

end Recovers

theorem NamedFields.reread {names : List String} {fs : List (String × Json)}
    (h : NamedFields names fs) : NamedFields names (Json.rereadFields fs) := by
  refine ⟨?_, h.nodup⟩
  rw [Json.rereadFields_eq_map, List.map_map]
  exact h.names_eq

/-- Fields under the names that a reader of records asks for, which are read, with their numbers
reread, just if the doubles are finite. -/
structure RecoversRecord {α : Type} (names : List String) (read : Record Json → Option α)
    (fs : List (String × Json)) (xs : List Float) : Prop where
  names_eq : fs.map Prod.fst = names
  nodup : ("type" :: names).Nodup
  isSome_read : (read (given (Json.rereadFields fs))).isSome = xs.all Float.isFinite
  legible : ∀ f ∈ fs, f.2.Legible

namespace RecoversRecord

variable {α : Type} {names : List String} {read : Record Json → Option α}
  {fs : List (String × Json)} {xs : List Float}

theorem named (h : RecoversRecord names read fs xs) : NamedFields names fs :=
  ⟨h.names_eq, h.nodup⟩

theorem recovers {write : α → Json} {readJson : Json → Option α} {floats : α → List Float} {a : α}
    (h : RecoversRecord names read fs (floats a)) (hwrite : write a = .object fs)
    (hread : ∀ fs, readJson (.object fs) = ((Parts.fields fs).record? names).bind read) :
    Recovers write readJson floats a where
  isSome_read := by
    rw [hwrite, Json.rereadAll_object, hread, h.named.reread.record?_eq, Option.bind_some,
      h.isSome_read]
  ne_null := by rw [hwrite]; rintro ⟨⟩
  legible := by rw [hwrite]; exact Json.legible_object.mpr h.legible

end RecoversRecord

/-! ## Lengths and growth -/

theorem Length.recovers (l : Length) : Recovers toJson ofJson? floats l := by
  cases l with
  | literal s => exact .of_faithful (Length.faithful allExact_nil) rfl
  | px x => exact .of_float rfl rfl fun _ => rfl
  | percent x => exact .of_float rfl rfl fun _ => rfl

theorem Growth.recovers (g : Growth) : Recovers toJson ofJson? floats g := by
  cases g with
  | factor x => exact .of_float rfl rfl fun _ => rfl
  | _ => exact .of_faithful (Growth.faithful allExact_nil) rfl

theorem Edges.recovers (e : Edges) : Recovers toJson ofJson? floats e := by
  have hlength (l : Option Length) := Recovers.isSome_nullable (a := l) fun b _ => b.recovers
  have hlegible (l : Option Length) := Recovers.legible_ofOption (a := l) fun b _ => b.recovers
  have hrecord : RecoversRecord ["top", "bottom", "start", "end"]
      (fun r => do
        some ({
          top := ← r.optional "top" Length.ofJson?
          bottom := ← r.optional "bottom" Length.ofJson?
          start := ← r.optional "start" Length.ofJson?
          «end» := ← r.optional "end" Length.ofJson? } : Edges))
      [("top", .ofOption Length.toJson e.top), ("bottom", .ofOption Length.toJson e.bottom),
        ("start", .ofOption Length.toJson e.start), ("end", .ofOption Length.toJson e.end)]
      e.floats :=
    ⟨rfl, by decide, by simp [floats, hlength, Option.isSome_bind], by simp [hlegible]⟩
  exact hrecord.recovers rfl fun _ => rfl

namespace Tree

/-! ## Words, strings and actions -/

@[simp] theorem rereadAll_word {α : Type} [Keyword α] (a : α) :
    (Keyword.toJson a).rereadAll = Keyword.toJson a := rfl

@[simp] theorem rereadAll_optionalWord {α : Type} [Keyword α] [LawfulKeyword α] (a : Option α) :
    (optionalWord a).rereadAll = optionalWord a :=
  Json.Readable.rereadAll_eq _ (readable_optionalWord a)

@[simp] theorem rereadAll_optionalString (s : Option String) :
    (optionalString s).rereadAll = optionalString s :=
  Json.Readable.rereadAll_eq _ (readable_optionalString s)

@[simp] theorem rereadAll_optionalAction (a : Option Action) :
    (optionalAction a).rereadAll = optionalAction a :=
  Json.Readable.rereadAll_eq _ (readable_optionalAction a)

@[simp] theorem legible_word {α : Type} [Keyword α] (a : α) : (Keyword.toJson a).Legible :=
  (readable_word a).legible

@[simp] theorem legible_optionalWord {α : Type} [Keyword α] [LawfulKeyword α] (a : Option α) :
    (optionalWord a).Legible := (readable_optionalWord a).legible

@[simp] theorem legible_optionalString (s : Option String) : (optionalString s).Legible :=
  (readable_optionalString s).legible

@[simp] theorem legible_optionalAction (a : Option Action) : (optionalAction a).Legible :=
  (readable_optionalAction a).legible

/-! ## Geometry -/

@[simp] theorem legible_length (l : Length) : l.toJson.Legible := l.recovers.legible

@[simp] theorem legible_optionalLength (l : Option Length) : (optionalLength l).Legible :=
  Recovers.legible_ofOption fun b _ => b.recovers

@[simp] theorem legible_growth (g : Growth) : g.toJson.Legible := g.recovers.legible

@[simp] theorem legible_edges (e : Edges) : e.toJson.Legible := e.recovers.legible

@[simp] theorem isSome_length (l : Length) :
    (Length.ofJson? l.toJson.rereadAll).isSome = l.floats.all Float.isFinite :=
  l.recovers.isSome_read

@[simp] theorem isSome_optionalLength (l : Option Length) :
    (nullable Length.ofJson? (optionalLength l).rereadAll).isSome =
      (optionFloats Length.floats l).all Float.isFinite :=
  Recovers.isSome_nullable fun b _ => b.recovers

@[simp] theorem isSome_growth (g : Growth) :
    (Growth.ofJson? g.toJson.rereadAll).isSome = g.floats.all Float.isFinite :=
  g.recovers.isSome_read

@[simp] theorem isSome_edges (e : Edges) :
    (Edges.ofJson? e.toJson.rereadAll).isSome = e.floats.all Float.isFinite :=
  e.recovers.isSome_read

theorem Margin.recovers (m : Margin) : Recovers toJson ofJson? floats m := by
  have hrecord : RecoversRecord ["side", "amount"]
      (fun r => do some (Margin.mk (← r.required "side" word?)
        (← r.required "amount" Length.ofJson?)))
      [("side", Keyword.toJson m.side), ("amount", m.amount.toJson)] m.floats :=
    ⟨rfl, by decide, by simp [floats, Option.isSome_bind], by simp⟩
  exact hrecord.recovers rfl fun _ => rfl

@[simp] theorem isSome_optionalMargin (m : Option Margin) :
    (nullable Margin.ofJson? (optionalMargin m).rereadAll).isSome =
      (optionFloats Margin.floats m).all Float.isFinite :=
  Recovers.isSome_nullable fun b _ => b.recovers

@[simp] theorem legible_optionalMargin (m : Option Margin) : (optionalMargin m).Legible :=
  Recovers.legible_ofOption fun b _ => b.recovers

theorem Geometry.recovers (g : Geometry) : Recovers toJson ofJson? floats g := by
  have hrecord : RecoversRecord ["flex", "margin", "position", "offsets"]
      (fun r => do
        some ({
          flex := ← r.required "flex" Growth.ofJson?
          margin := ← r.optional "margin" Margin.ofJson?
          position := ← r.optional "position" word?
          offsets := ← r.required "offsets" Edges.ofJson? } : Geometry))
      [("flex", g.flex.toJson), ("margin", optionalMargin g.margin),
        ("position", optionalWord g.position), ("offsets", g.offsets.toJson)] g.floats :=
    ⟨rfl, by decide, by simp [floats, Option.isSome_bind], by simp⟩
  exact hrecord.recovers rfl fun _ => rfl

@[simp] theorem isSome_geometry (g : Geometry) :
    (Geometry.ofJson? g.toJson.rereadAll).isSome = g.floats.all Float.isFinite :=
  g.recovers.isSome_read

@[simp] theorem legible_geometry (g : Geometry) : g.toJson.Legible := g.recovers.legible

@[simp] theorem isSome_lineHeight (l : LineHeight) :
    (LineHeight.ofJson? l.toJson.rereadAll).isSome = l.floats.all Float.isFinite := by
  cases l with
  | px x => simp [LineHeight.toJson, LineHeight.ofJson?, LineHeight.floats]
  | multiplier x => simp [LineHeight.toJson, LineHeight.ofJson?, LineHeight.floats]

@[simp] theorem legible_lineHeight (l : LineHeight) : l.toJson.Legible := by
  cases l with
  | px x => simp [LineHeight.toJson]
  | multiplier x => simp [LineHeight.toJson]

/-! ## Fields of nodes -/

theorem Span.recovered (s : Span) : RecoversRecord names ofRecord? s.fields s.floats :=
  ⟨rfl, by decide, by simp [ofRecord?, fields, floats, Option.isSome_bind],
    by simp [fields]⟩

theorem Span.recovers (s : Span) :
    Recovers (fun s : Span => .object s.fields) ofJson? floats s :=
  s.recovered.recovers rfl fun _ => rfl

theorem Button.recovered (b : Button) : RecoversRecord names ofRecord? b.fields b.floats :=
  ⟨rfl, by decide, by simp [ofRecord?, fields, floats, Option.isSome_bind],
    by simp [fields]⟩

theorem Filler.recovered (f : Filler) : RecoversRecord names ofRecord? f.fields f.floats :=
  ⟨rfl, by decide, by simp [ofRecord?, fields, floats, Option.isSome_bind],
    by simp [fields]⟩

theorem Icon.recovered (i : Icon) : RecoversRecord names ofRecord? i.fields i.floats :=
  ⟨rfl, by decide, by simp [ofRecord?, fields, floats, Option.isSome_bind],
    by simp [fields]⟩

theorem Image.recovered (i : Image) : RecoversRecord names ofRecord? i.fields i.floats :=
  ⟨rfl, by decide, by simp [ofRecord?, fields, floats, Option.isSome_bind],
    by simp [fields]⟩

theorem Separator.recovered (s : Separator) : RecoversRecord names ofRecord? s.fields s.floats :=
  ⟨rfl, by decide, by simp [ofRecord?, fields, floats, Option.isSome_bind],
    by simp [fields]⟩

theorem Spacer.recovered (s : Spacer) : RecoversRecord names ofRecord? s.fields s.floats :=
  ⟨rfl, by decide, by simp [ofRecord?, fields, floats, Option.isSome_bind],
    by simp [fields]⟩

theorem Box.recovered (b : Box) {children : Json} (h : children.Legible) :
    RecoversRecord names ofRecord? (b.fields children) b.floats :=
  ⟨rfl, by decide, by simp [ofRecord?, fields, floats, Option.isSome_bind],
    by simp [fields, h]⟩

theorem Video.recovered (v : Video) {alt : Json} (h : alt.Legible) :
    RecoversRecord names ofRecord? (v.fields alt) v.floats :=
  ⟨rfl, by decide, by simp [ofRecord?, fields, floats, Option.isSome_bind],
    by simp [fields, h]⟩

theorem Text.recovered (t : Text) : RecoversRecord names ofRecord? t.fields t.floats := by
  have hlines : (list? Json.text? (.array (t.lines.map .string))) = some t.lines :=
    mapM_write fun s _ => text?_string s
  have hspans : (list? Span.ofJson?
      (.array (t.spans.map fun s => Json.object (Json.rereadFields s.fields)))).isSome =
        t.spans.all fun s => s.floats.all Float.isFinite := by
    show ((t.spans.map fun s => Json.object (Json.rereadFields s.fields)).mapM
      Span.ofJson?).isSome = _
    rw [isSome_mapM, List.all_map]
    exact congrArg t.spans.all (funext fun s => s.recovers.isSome_read)
  have hmax : (Json.ofOption (fun n : UInt32 => .ofNat n.toNat) t.maxLines).rereadAll =
      Json.ofOption (fun n : UInt32 => .ofNat n.toNat) t.maxLines :=
    Json.Readable.rereadAll_eq _ (Faithful.readable_ofOption fun n _ => faithful_uint32 n)
  have hread := Faithful.nullable_ofOption (a := t.maxLines) fun n _ => faithful_uint32 n
  have hlegible : (Json.ofOption (fun n : UInt32 => .ofNat n.toNat) t.maxLines).Legible :=
    (Faithful.readable_ofOption fun n _ => faithful_uint32 n).legible
  have hspan (s : Span) := s.recovered.legible
  refine ⟨rfl, by decide, ?_, ?_⟩
  · simp [ofRecord?, fields, floats, Option.isSome_bind, hlines, hspans, hmax, hread]
  · simpa [fields, hlegible] using fun s _ name v hv => hspan s (name, v) hv

/-! ## Nodes -/

theorem rereadAll_tagged (kind : String) (fs : List (String × Json)) :
    (tagged kind fs).rereadAll = tagged kind (Json.rereadFields fs) := rfl

theorem legible_tagged {kind : String} {fs : List (String × Json)}
    (h : ∀ f ∈ fs, f.2.Legible) : (tagged kind fs).Legible := by
  rw [tagged, Json.legible_object, List.forall_mem_cons]
  exact ⟨Json.legible_string kind, h⟩

/-- Reading annotated fields as a record, and something more from the same fields. -/
theorem Reading.isSome_bind_record {α β : Type} {names : List String}
    {read : Record Json → Option α} {fs : List (String × Json)} {xs : List Float}
    (h : RecoversRecord names read fs xs) (f : Record Reading → α → Option β) (more : Bool)
    (hmore : ∀ a, (f (given (ofFields (Json.rereadFields fs))) a).isSome = more) :
    (((Parts.fields (ofFields (Json.rereadFields fs))).record? names).bind fun r =>
      (read r.json).bind (f r)).isSome = (xs.all Float.isFinite && more) := by
  rw [(named_ofFields h.named.reread).record?_eq, Option.bind_some, json_given, Option.isSome_bind]
  simp only [hmore, any_const, h.isSome_read]

theorem Node.recovers_tagged {fs : List (String × Json)} {names : List String} {n : Node}
    (h : NamedFields names fs) (hlegible : ∀ f ∈ fs, f.2.Legible)
    (hwrite : n.toJson = tagged n.kind.word fs)
    (hread : (Reading.nodeOfKind? (.fields (Reading.ofFields (Json.rereadFields fs)))
      n.kind).isSome = n.floats.all Float.isFinite) :
    Recovers toJson ofJson? floats n where
  isSome_read := by
    unfold ofJson?
    rw [hwrite, rereadAll_tagged, Reading.node_tagged n.kind h.reread, hread]
  ne_null := by rw [hwrite]; rintro ⟨⟩
  legible := by rw [hwrite]; exact legible_tagged hlegible

/-- A node that is nothing but its record. -/
theorem Node.recovers_leaf {α : Type} {names : List String} {read : Record Json → Option α}
    {fs : List (String × Json)} {a : α} {f : α → Node}
    (h : RecoversRecord names read fs (f a).floats)
    (hwrite : (f a).toJson = tagged (f a).kind.word fs)
    (hread : ∀ parts, Reading.nodeOfKind? parts (f a).kind =
      (parts.record? names).bind fun r => (read r.json).bind fun a => some (f a)) :
    Recovers toJson ofJson? floats (f a) := by
  refine Node.recovers_tagged h.named h.legible hwrite ?_
  rw [hread, Reading.isSome_bind_record h _ true fun _ => rfl, Bool.and_true]

theorem child_recovered (m : Option Margin) {v : Json} (h : v.Legible) :
    RecoversRecord ["spacing", "node"] (fun r => r.optional "spacing" Margin.ofJson?)
      [("spacing", optionalMargin m), ("node", v)] (optionFloats Margin.floats m) :=
  ⟨rfl, by decide, by simp, by simp [h]⟩

/-- A child is read with its node. -/
theorem isSome_child {m : Option Margin} {n : Node}
    (h : Recovers Node.toJson Node.ofJson? Node.floats n) :
    (Reading.ofJson (Json.object
      [("spacing", optionalMargin m), ("node", n.toJson)]).rereadAll).child.isSome =
        ((optionFloats Margin.floats m).all Float.isFinite && n.floats.all Float.isFinite) := by
  have hnode : (Reading.ofJson n.toJson.rereadAll).node.isSome = n.floats.all Float.isFinite :=
    h.isSome_read
  exact Reading.isSome_bind_record (child_recovered m h.legible) (fun r spacing =>
    (r.required "node" Reading.node).bind fun node => some (Spaced.mk spacing node)) _
    fun spacing => by simp [Reading.ofFields, Option.isSome_bind, hnode]

mutual

theorem Node.recovers : ∀ n : Node, Recovers Node.toJson Node.ofJson? Node.floats n
  | .box b cs => by
    have h := Box.recovered b (Json.legible_array.mpr (legible_children cs))
    have hchildren : (Reading.ofJson (Json.array (Node.childrenToJson cs)).rereadAll).children =
        (Reading.ofItems (Json.rereadItems (Node.childrenToJson cs))).mapM Reading.child := rfl
    refine Node.recovers_tagged h.named h.legible rfl ?_
    rw [Node.floats, List.all_append, ← isSome_children cs, ← hchildren]
    exact Reading.isSome_bind_record h (fun r b =>
      (r.required "children" Reading.children).bind fun cs => some (Node.box b cs)) _
      fun b => by simp [Box.fields, Reading.ofFields, Option.isSome_bind]
  | .button b => Node.recovers_leaf b.recovered rfl fun _ => rfl
  | .filler f => Node.recovers_leaf f.recovered rfl fun _ => rfl
  | .icon i => Node.recovers_leaf i.recovered rfl fun _ => rfl
  | .image i => Node.recovers_leaf i.recovered rfl fun _ => rfl
  | .separator s => Node.recovers_leaf s.recovered rfl fun _ => rfl
  | .spacer s => Node.recovers_leaf s.recovered rfl fun _ => rfl
  | .text t => Node.recovers_leaf t.recovered rfl fun _ => rfl
  | .span s => Node.recovers_leaf s.recovered rfl fun _ => rfl
  | .video v none => by
    have h := Video.recovered v Json.legible_null
    refine Node.recovers_tagged h.named h.legible rfl ?_
    rw [Node.floats, ← Bool.and_true (v.floats.all _)]
    exact Reading.isSome_bind_record h (fun r v =>
      (r.optional "alt_content" Reading.node).bind fun alt => some (Node.video v alt)) _
      fun v => rfl
  | .video v (some n) => by
    have hn := Node.recovers n
    have h := Video.recovered v hn.legible
    have hne : (Reading.ofJson n.toJson.rereadAll).json ≠ .null := by
      rw [Reading.json_ofJson]
      exact hn.ne_null
    have hnode : (nullable Reading.node (Reading.ofJson n.toJson.rereadAll)).isSome =
        n.floats.all Float.isFinite := by
      rw [nullable_of_ne_null hne, Option.isSome_map]
      exact hn.isSome_read
    refine Node.recovers_tagged h.named h.legible rfl ?_
    rw [Node.floats, List.all_append]
    exact Reading.isSome_bind_record h (fun r v =>
      (r.optional "alt_content" Reading.node).bind fun alt => some (Node.video v alt)) _
      fun v => by simp [Video.fields, Reading.ofFields, Option.isSome_bind, hnode]
termination_by structural n => n

theorem isSome_children : ∀ cs : List (Spaced Node),
    ((Reading.ofItems (Json.rereadItems (Node.childrenToJson cs))).mapM Reading.child).isSome =
      (childFloats cs).all Float.isFinite
  | [] => rfl
  | ⟨m, n⟩ :: rest => by
    rw [Node.childrenToJson, Json.rereadItems, Reading.ofItems, isSome_mapM, List.all_cons,
      isSome_child (Node.recovers n), ← isSome_mapM, isSome_children rest, childFloats,
      List.all_append, List.all_append]
termination_by structural cs => cs

theorem legible_children : ∀ cs : List (Spaced Node), ∀ v ∈ Node.childrenToJson cs, v.Legible
  | [], _, hv => by cases hv
  | ⟨m, n⟩ :: rest, v, hv => by
    rw [Node.childrenToJson, List.mem_cons] at hv
    rcases hv with rfl | hv
    · exact Json.legible_object.mpr (child_recovered m (Node.recovers n).legible).legible
    · exact legible_children rest v hv
termination_by structural cs => cs

end

/-! ## Sections and bubbles -/

theorem Section.recovers (s : Section) : Recovers toJson ofJson? floats s := by
  have hcontent := s.content.recovers.isSome_read
  have hrecord : RecoversRecord ["background_color", "flex", "content"]
      (fun r => do
        some ({
          backgroundColor := ← r.optional "background_color" Json.text?
          flex := ← r.required "flex" Growth.ofJson?
          content := ← r.required "content" Node.ofJson? } : Section))
      [("background_color", optionalString s.backgroundColor), ("flex", s.flex.toJson),
        ("content", s.content.toJson)] s.floats :=
    ⟨rfl, by decide, by simp [floats, Option.isSome_bind, hcontent],
      by simp [s.content.recovers.legible]⟩
  exact hrecord.recovers rfl fun _ => rfl

@[simp] theorem isSome_optionalSection (s : Option Section) :
    (nullable Section.ofJson? (optionalSection s).rereadAll).isSome =
      (optionFloats Section.floats s).all Float.isFinite :=
  Recovers.isSome_nullable fun b _ => b.recovers

@[simp] theorem legible_optionalSection (s : Option Section) : (optionalSection s).Legible :=
  Recovers.legible_ofOption fun b _ => b.recovers

theorem Bubble.recovered (b : Bubble) : RecoversRecord names ofRecord? b.fields b.floats :=
  ⟨rfl, by decide, by simp [ofRecord?, fields, floats, Option.isSome_bind],
    by simp [fields]⟩

theorem Bubble.recovers (b : Bubble) :
    Recovers (fun b : Bubble => .object b.fields) ofJson? floats b :=
  b.recovered.recovers rfl fun _ => rfl

theorem Carousel.recovered (c : Carousel) : RecoversRecord names ofRecord? c.fields c.floats := by
  have hbubbles : (list? Bubble.ofJson?
      (.array (c.bubbles.map fun b => Json.object (Json.rereadFields b.fields)))).isSome =
        c.bubbles.all fun b => b.floats.all Float.isFinite := by
    show ((c.bubbles.map fun b => Json.object (Json.rereadFields b.fields)).mapM
      Bubble.ofJson?).isSome = _
    rw [isSome_mapM, List.all_map]
    exact congrArg c.bubbles.all (funext fun b => b.recovers.isSome_read)
  have hlegible (b : Bubble) := b.recovered.legible
  refine ⟨rfl, by decide, ?_, ?_⟩
  · simp [ofRecord?, fields, floats, Option.isSome_bind, hbubbles]
  · simpa [fields] using fun b _ name v hv => hlegible b (name, v) hv

/-! ## Messages -/

theorem Container.recovers (c : Container) : Recovers toJson ofJson? floats c := by
  cases c with
  | bubble b =>
    have h := b.recovered
    refine ⟨?_, by rintro ⟨⟩, legible_tagged h.legible⟩
    unfold ofJson? toJson
    rw [rereadAll_tagged]
    unfold tagged
    simp only [Json.parts?, Option.bind_eq_bind, Option.bind_some,
      tagged?_fields h.named.reread.not_mem_type, Json.text?, h.named.reread.record?_eq]
    rw [Option.isSome_bind, ← Bool.and_true (floats _ |>.all _)]
    exact (any_const _ true).trans (congrArg (· && true) h.isSome_read)
  | carousel c =>
    have h := c.recovered
    refine ⟨?_, by rintro ⟨⟩, legible_tagged h.legible⟩
    unfold ofJson? toJson
    rw [rereadAll_tagged]
    unfold tagged
    simp only [Json.parts?, Option.bind_eq_bind, Option.bind_some,
      tagged?_fields h.named.reread.not_mem_type, Json.text?, h.named.reread.record?_eq]
    rw [Option.isSome_bind, ← Bool.and_true (floats _ |>.all _)]
    exact (any_const _ true).trans (congrArg (· && true) h.isSome_read)

theorem Message.recovers (m : Message) : Recovers toJson ofJson? floats m := by
  have hcontents := m.contents.recovers.isSome_read
  have hrecord : RecoversRecord names
      (fun r => do
        some (Message.mk (← r.required "alt_text" Json.text?)
          (← r.required "contents" Container.ofJson?)))
      [("alt_text", .string m.altText), ("contents", m.contents.toJson)] m.floats :=
    ⟨rfl, by decide, by simp [floats, Option.isSome_bind, hcontents],
      by simp [m.contents.recovers.legible]⟩
  exact hrecord.recovers rfl fun _ => rfl

end Tree

end FlexLayout
