import FlexLayout.Action
import FlexLayout.Edges
import FlexLayout.Growth
import FlexLayout.Proofs.Json.Parsing
import FlexLayout.Style

/-!
# Values that are written and read

Structured data is written as a value and read from one. `Faithful` is what is proved of every
type: what is written is read as what it was, is never `null`, and holds only numbers that read
back. Records come to their fields: `FaithfulRecord` is the same for the fields of an object, which
are read by their names.
-/

namespace FlexLayout

/-! ## Doubles -/

/-- A double that is finite and whose text is read as the double. -/
def Exact (x : Float) : Prop := x.isFinite = true ∧ Json.Rereads (.float x)

def AllExact (xs : List Float) : Prop := ∀ x ∈ xs, Exact x

@[simp] theorem allExact_nil : AllExact [] := by rintro x ⟨⟩

@[simp] theorem allExact_cons {x : Float} {xs : List Float} :
    AllExact (x :: xs) ↔ Exact x ∧ AllExact xs := List.forall_mem_cons

@[simp] theorem allExact_append {xs ys : List Float} :
    AllExact (xs ++ ys) ↔ AllExact xs ∧ AllExact ys := List.forall_mem_append

@[simp] theorem allExact_flatMap {α : Type} {f : α → List Float} {as : List α} :
    AllExact (as.flatMap f) ↔ ∀ a ∈ as, AllExact (f a) := by
  simp only [AllExact, List.mem_flatMap]
  exact ⟨fun h a ha x hx => h x ⟨a, ha, hx⟩, fun h x ⟨a, ha, hx⟩ => h a ha x hx⟩

/-- The doubles of what may be absent. -/
def optionFloats {α : Type} (f : α → List Float) (a : Option α) : List Float := a.elim [] f

/-! ## Readable values -/

namespace Json

@[simp] theorem readable_null : null.Readable := by rintro n ⟨⟩

@[simp] theorem readable_bool (b : Bool) : (bool b).Readable := by rintro n ⟨⟩

@[simp] theorem readable_string (s : String) : (string s).Readable := by rintro n ⟨⟩

theorem readable_number {n : Number} (h : Rereads n) : (number n).Readable := by
  rintro m hm
  rw [List.mem_singleton.mp hm]
  exact h

theorem readable_ofNat {n : Nat} (h : n < UInt64.size) : (ofNat n).Readable :=
  readable_number (rereads_nat h)

@[simp] theorem readable_ofFloat {x : Float} (h : Exact x) : (ofFloat x).Readable := by
  unfold ofFloat
  rw [if_pos h.1]
  exact readable_number h.2

theorem forall_numbers_object {p : Number → Prop} {fs : List (String × Json)} :
    (∀ n ∈ (object fs).numbers, p n) ↔ ∀ f ∈ fs, ∀ n ∈ f.2.numbers, p n := by
  show (∀ n ∈ fieldNumbers fs, p n) ↔ _
  induction fs with
  | nil => simp [fieldNumbers]
  | cons f rest ih => rw [fieldNumbers, List.forall_mem_append, ih, List.forall_mem_cons]

theorem forall_numbers_array {p : Number → Prop} {items : List Json} :
    (∀ n ∈ (array items).numbers, p n) ↔ ∀ v ∈ items, ∀ n ∈ v.numbers, p n := by
  show (∀ n ∈ itemNumbers items, p n) ↔ _
  induction items with
  | nil => simp [itemNumbers]
  | cons v rest ih => rw [itemNumbers, List.forall_mem_append, ih, List.forall_mem_cons]

@[simp] theorem readable_object {fs : List (String × Json)} :
    (object fs).Readable ↔ ∀ f ∈ fs, f.2.Readable := forall_numbers_object

@[simp] theorem readable_array {items : List Json} :
    (array items).Readable ↔ ∀ v ∈ items, v.Readable := forall_numbers_array

@[simp] theorem float?_ofFloat {x : Float} (h : Exact x) : (ofFloat x).float? = some x := by
  unfold ofFloat
  rw [if_pos h.1]
  rfl

end Json

/-! ## Faithful values -/

/-- What a slot may hold: a value, or `null` for what is absent. -/
def nullable {α β : Type} [Annotated α] (read : α → Option β) (a : α) : Option (Option β) :=
  match Annotated.json a with
  | .null => some none
  | _ => (read a).map some

theorem nullable_of_ne_null {α β : Type} [Annotated α] {a : α} (h : Annotated.json a ≠ .null)
    (read : α → Option β) : nullable read a = (read a).map some := by
  unfold nullable
  split
  · rename_i hnull
    exact (h hnull).elim
  · rfl

/-- The writing of `a` is read as `a`, is not `null`, and holds only numbers that read back. -/
structure Faithful {α : Type} (write : α → Json) (read : Json → Option α) (a : α) : Prop where
  read_write : read (write a) = some a
  ne_null : write a ≠ .null
  readable : (write a).Readable

namespace Faithful

variable {α : Type} {write : α → Json} {read : Json → Option α}

/-- What may be absent is faithful if it is where it is there. -/
theorem nullable_ofOption {a : Option α} (h : ∀ b ∈ a, Faithful write read b) :
    nullable read (.ofOption write a) = some a := by
  rcases a with _ | b
  · rfl
  · have hb := h b rfl
    show nullable read (write b) = _
    rw [nullable_of_ne_null hb.ne_null, hb.read_write]
    rfl

theorem readable_ofOption {a : Option α} (h : ∀ b ∈ a, Faithful write read b) :
    (Json.ofOption write a).Readable := by
  rcases a with _ | b
  · exact Json.readable_null
  · exact (h b rfl).readable

/-- A case that carries a double, named by the only field of an object. -/
theorem of_float {f : Float → α} {x : Float} {name : String} (hx : Exact x)
    (hwrite : write (f x) = .object [(name, .ofFloat x)])
    (hread : ∀ v, read (.object [(name, v)]) = v.float?.map f) : Faithful write read (f x) where
  read_write := by rw [hwrite, hread, Json.float?_ofFloat hx, Option.map_some]
  ne_null := by rw [hwrite]; rintro ⟨⟩
  readable := by simp [hwrite, hx]

end Faithful

/-- A list of faithful values. -/
theorem mapM_write {α : Type} {write : α → Json} {read : Json → Option α} {as : List α}
    (h : ∀ a ∈ as, read (write a) = some a) : (as.map write).mapM read = some as := by
  induction as with
  | nil => rfl
  | cons a rest ih =>
    rw [List.map_cons, List.mapM_cons, h a List.mem_cons_self,
      ih fun b hb => h b (List.mem_cons_of_mem a hb)]
    rfl

/-! ## Records -/

/-- The record in which every field is given. -/
def given {α : Type} (fs : List (String × α)) : Record α := fs.map fun (k, a) => (k, .given a)

section Records

variable {α β : Type} {fs : List (String × α)} {k name : String} {a : α}

theorem slot?_of_mem (hnodup : (fs.map Prod.fst).Nodup) {f : String × α} (hf : f ∈ fs) :
    Parts.slot? f.1 fs = some (.given f.2) := by
  have hfilter : (fs.filter fun g => g.1 == f.1) = [f] := by
    induction fs with
    | nil => cases hf
    | cons g rest ih =>
      rw [List.map_cons, List.nodup_cons] at hnodup
      rcases List.mem_cons.mp hf with rfl | hf
      · rw [List.filter_cons_of_pos (by simp), List.filter_eq_nil_iff.mpr]
        intro x hx hkey
        rw [beq_iff_eq] at hkey
        exact hnodup.1 (hkey ▸ List.mem_map_of_mem hx)
      · rw [List.filter_cons_of_neg, ih hnodup.2 hf]
        rw [beq_iff_eq]
        intro hkey
        exact hnodup.1 (hkey ▸ List.mem_map_of_mem hf)
  unfold Parts.slot?
  rw [hfilter]

/-- Fields of different names, all asked for in their order, are all given. -/
theorem record?_fields (hnodup : (fs.map Prod.fst).Nodup) :
    (Parts.fields fs).record? (fs.map Prod.fst) = some (given fs) := by
  have hslots : ∀ gs : List (String × α), (∀ g ∈ gs, g ∈ fs) →
      ((gs.map Prod.fst).mapM fun name => (Parts.slot? name fs).map (name, ·)) =
        some (given gs) := by
    intro gs hgs
    induction gs with
    | nil => rfl
    | cons g rest ih =>
      rw [List.map_cons, List.mapM_cons, slot?_of_mem hnodup (hgs g List.mem_cons_self),
        ih fun x hx => hgs x (List.mem_cons_of_mem g hx)]
      rfl
  exact hslots fs fun _ hg => hg

/-- The fields of a case behind its name. -/
theorem tagged?_fields (h : "type" ∉ fs.map Prod.fst) :
    (Parts.fields (("type", a) :: fs)).tagged? = some (a, .fields fs) := by
  have hne : ∀ f ∈ fs, f.1 ≠ "type" := fun f hf hkey => h (hkey ▸ List.mem_map_of_mem hf)
  have hnone : (fs.filter fun f => f.1 == "type") = [] :=
    List.filter_eq_nil_iff.mpr fun f hf => by simpa using hne f hf
  have hall : (fs.filter fun f => f.1 != "type") = fs :=
    List.filter_eq_self.mpr fun f hf => by simpa using hne f hf
  rw [Parts.tagged?, List.filter_cons_of_pos (by rfl), List.filter_cons_of_neg (by simp), hnone,
    hall]

theorem slot_given_cons_self : Record.slot (given ((k, a) :: fs)) k = .given a := by
  simp [Record.slot, given]

theorem slot_given_cons_of_ne (h : name ≠ k) :
    Record.slot (given ((k, a) :: fs)) name = Record.slot (given fs) name := by
  simp [Record.slot, given, List.lookup_cons, beq_false_of_ne h]

@[simp] theorem required_given_cons_self (read : α → Option β) :
    Record.required (given ((k, a) :: fs)) k read = read a := by
  unfold Record.required
  rw [slot_given_cons_self]

@[simp] theorem required_given_cons_of_ne (h : name ≠ k) (read : α → Option β) :
    Record.required (given ((k, a) :: fs)) name read = Record.required (given fs) name read := by
  unfold Record.required
  rw [slot_given_cons_of_ne h]

variable [Annotated α]

@[simp] theorem optional_given_cons_self (read : α → Option β) :
    Record.optional (given ((k, a) :: fs)) k read = nullable read a := by
  unfold Record.optional
  rw [slot_given_cons_self]
  rfl

@[simp] theorem optional_given_cons_of_ne (h : name ≠ k) (read : α → Option β) :
    Record.optional (given ((k, a) :: fs)) name read = Record.optional (given fs) name read := by
  unfold Record.optional
  rw [slot_given_cons_of_ne h]

end Records

/-- Fields under the names that a reader of records asks for, in their order. No name is taken
twice, and none is that of the case of a record. -/
structure NamedFields {α : Type} (names : List String) (fs : List (String × α)) : Prop where
  names_eq : fs.map Prod.fst = names
  nodup : ("type" :: names).Nodup

namespace NamedFields

variable {α : Type} {names : List String} {fs : List (String × α)}

theorem record?_eq (h : NamedFields names fs) :
    (Parts.fields fs).record? names = some (given fs) := by
  have hnodup := (List.nodup_cons.mp h.nodup).2
  rw [← h.names_eq] at hnodup ⊢
  exact record?_fields hnodup

theorem not_mem_type (h : NamedFields names fs) : "type" ∉ fs.map Prod.fst := by
  rw [h.names_eq]
  exact (List.nodup_cons.mp h.nodup).1

end NamedFields

/-- The fields `fs`, under the names that a reader of records asks for, are read as `a`. -/
structure FaithfulRecord {α : Type} (names : List String) (read : Record Json → Option α)
    (fs : List (String × Json)) (a : α) : Prop where
  names_eq : fs.map Prod.fst = names
  nodup : ("type" :: names).Nodup
  read_given : read (given fs) = some a
  readable : ∀ f ∈ fs, f.2.Readable

namespace FaithfulRecord

variable {α β : Type} {names : List String} {read : Record Json → Option α}
  {fs : List (String × Json)} {a : α}

theorem named (h : FaithfulRecord names read fs a) : NamedFields names fs := ⟨h.names_eq, h.nodup⟩

theorem record?_eq (h : FaithfulRecord names read fs a) :
    (Parts.fields fs).record? names = some (given fs) := h.named.record?_eq

theorem not_mem_type (h : FaithfulRecord names read fs a) : "type" ∉ fs.map Prod.fst :=
  h.named.not_mem_type

/-- An object of faithful fields is faithful. -/
theorem faithful {write : α → Json} {readJson : Json → Option α}
    (h : FaithfulRecord names read fs a) (hwrite : write a = .object fs)
    (hread : readJson (.object fs) = ((Parts.fields fs).record? names).bind read) :
    Faithful write readJson a where
  read_write := by rw [hwrite, hread, h.record?_eq, Option.bind_some, h.read_given]
  ne_null := by rw [hwrite]; rintro ⟨⟩
  readable := by
    rw [hwrite, Json.readable_object]
    exact h.readable

end FaithfulRecord

/-! ## Words -/

/-- A vocabulary in which every word is read as what it stands for. -/
class LawfulKeyword (α : Type) [Keyword α] : Prop where
  ofWord?_word : ∀ a : α, Keyword.ofWord? (Keyword.word a) = some a

instance : LawfulKeyword Layout := ⟨fun a => by cases a <;> rfl⟩
instance : LawfulKeyword BubbleSize := ⟨fun a => by cases a <;> rfl⟩
instance : LawfulKeyword Direction := ⟨fun a => by cases a <;> rfl⟩
instance : LawfulKeyword Position := ⟨fun a => by cases a <;> rfl⟩
instance : LawfulKeyword Align := ⟨fun a => by cases a <;> rfl⟩
instance : LawfulKeyword Gravity := ⟨fun a => by cases a <;> rfl⟩
instance : LawfulKeyword Weight := ⟨fun a => by cases a <;> rfl⟩
instance : LawfulKeyword FontStyle := ⟨fun a => by cases a <;> rfl⟩
instance : LawfulKeyword Decoration := ⟨fun a => by cases a <;> rfl⟩
instance : LawfulKeyword AspectMode := ⟨fun a => by cases a <;> rfl⟩
instance : LawfulKeyword ButtonStyle := ⟨fun a => by cases a <;> rfl⟩
instance : LawfulKeyword JustifyContent := ⟨fun a => by cases a <;> rfl⟩
instance : LawfulKeyword AlignItems := ⟨fun a => by cases a <;> rfl⟩
instance : LawfulKeyword AdjustMode := ⟨fun .shrinkToFit => rfl⟩
instance : LawfulKeyword Side := ⟨fun a => by cases a <;> rfl⟩
instance : LawfulKeyword Orientation := ⟨fun a => by cases a <;> rfl⟩

/-- A word is read in either dialect. -/
theorem faithful_word {α : Type} [Keyword α] [LawfulKeyword α] (d : Dialect) (a : α) :
    Faithful Keyword.toJson (Keyword.ofJson? d) a :=
  ⟨LawfulKeyword.ofWord?_word a, by rintro ⟨⟩, Json.readable_string _⟩

theorem faithful_string (s : String) : Faithful .string Json.text? s :=
  ⟨rfl, by rintro ⟨⟩, Json.readable_string s⟩

/-! ## Lengths and growth -/

/-- The double in a length. -/
def Length.floats : Length → List Float
  | px x | percent x => [x]
  | literal _ => []

theorem Length.faithful {l : Length} (h : AllExact l.floats) : Faithful toJson ofJson? l := by
  cases l with
  | literal s => exact ⟨rfl, by rintro ⟨⟩, by simp [toJson]⟩
  | px x => exact .of_float (allExact_cons.mp h).1 rfl fun _ => rfl
  | percent x => exact .of_float (allExact_cons.mp h).1 rfl fun _ => rfl

/-- The double in a growth. -/
def Growth.floats : Growth → List Float
  | factor x => [x]
  | default | none | weight _ => []

theorem Growth.faithful {g : Growth} (h : AllExact g.floats) : Faithful toJson ofJson? g := by
  cases g with
  | default => exact ⟨rfl, by rintro ⟨⟩, by simp [toJson]⟩
  | none => exact ⟨rfl, by rintro ⟨⟩, by simp [toJson]⟩
  | weight w =>
    have hlt : w.toNat < UInt8.size := w.toNat_lt
    refine ⟨?_, by rintro ⟨⟩, ?_⟩
    · show ((Json.ofNat w.toNat).natBelow? UInt8.size).map (fun n => weight n.toUInt8) = _
      unfold Json.ofNat Json.natBelow?
      simp [hlt]
    · have hreadable := Json.readable_ofNat (hlt.trans (by decide : UInt8.size < UInt64.size))
      simp [toJson, hreadable]
  | factor x => exact .of_float (allExact_cons.mp h).1 rfl fun _ => rfl

/-! ## Actions -/

/-- An action is read as it was in either dialect, whichever of its options are left out. -/
theorem Action.faithful (d : Dialect) (a : Action) : Faithful toJson (ofJson? d) a := by
  cases a with
  | uri label address altUri =>
    refine ⟨?_, by rintro ⟨⟩, ?_⟩
    · rcases label with _ | label <;> rcases altUri with _ | ⟨_ | desktop⟩ <;> rfl
    · rcases label with _ | label <;> rcases altUri with _ | ⟨_ | desktop⟩ <;>
        simp [toJson, optionalField, AltUri.toJson]
  | message label text =>
    refine ⟨?_, by rintro ⟨⟩, ?_⟩
    · rcases label with _ | label <;> rfl
    · rcases label with _ | label <;> simp [toJson, optionalField]
  | postback label data displayText =>
    refine ⟨?_, by rintro ⟨⟩, ?_⟩
    · rcases label with _ | label <;> rcases displayText with _ | displayText <;> rfl
    · rcases label with _ | label <;> rcases displayText with _ | displayText <;>
        simp [toJson, optionalField]

end FlexLayout
