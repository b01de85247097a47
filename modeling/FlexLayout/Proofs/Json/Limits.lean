import FlexLayout.Proofs.Decimal.Quotient
import FlexLayout.Proofs.Json.Codec
import FlexLayout.Proofs.Json.Nesting

/-!
# What is read keeps the limits

A numeral whose value overflows is refused, and so is a container without room on the stack. So
every number that is read is a finite double, and nothing is nested too deeply, except in the fields
of the outermost object that are skipped. `Reader.Sound` says so of a stack of open containers, one
step of the reader keeps it, and a text that is read as a whole comes to `readFields?_asked`.
-/

namespace FlexLayout.Json

/-! ## Numbers -/

namespace Numeral

theorem gather_lt {cs : List Char} {n : Nat} (h : n < UInt64.size) :
    (gather n cs).1 < UInt64.size := by
  induction cs generalizing n with
  | nil => exact h
  | cons c cs ih =>
    unfold gather
    dsimp only
    split_ifs with hnext
    · exact ih hnext
    · exact h

theorem scaled_lt (n : Numeral) : n.scaled.1 < UInt64.size := gather_lt (gather_lt (by decide))

/-- A natural number of 64 bits is a finite double, though not always an exact one. -/
theorem isFinite_ofNat {n : Nat} (h : n < UInt64.size) : (Float.ofNat n).isFinite = true := by
  have hup : Rounding.UpTo ((2 ^ 52 : Nat) * 2 ^ (12 : Int)) (Float.ofNat n).toModel.unpack := by
    refine Rounding.upTo_ofScientific (e := 0) (by decide) (by decide) (by decide) ?_
    rw [pow_zero, mul_one]
    exact_mod_cast h.le
  exact hup.isFinite

/-- Scaling a finite double leaves a finite double, or none. -/
theorem isFinite_of_scale {x y : Float} {e : Int} (hx : x.isFinite = true)
    (h : scale x e = some y) : y.isFinite = true := by
  have hdiv {x : Float} (hx : x.isFinite = true) {k : Nat} (hk : k ≤ 308) :
      (x / powerOfTen k).isFinite = true :=
    Rounding.isFinite_div hx (Rounding.atLeastOne_powerOfTen hk)
  unfold scale at h
  dsimp only at h
  split_ifs at h with hlarge hzero hpos hfinite hsmall hsmaller
  · cases h
    exact hx
  · cases h
    exact hfinite
  · cases h
    exact hdiv hx (by omega)
  · cases h
    exact hdiv (hdiv hx le_rfl) (by omega)
  · cases h
    decide

theorem isFinite_withSign {x : Float} (negative : Bool) (h : x.isFinite = true) :
    (Decimal.withSign negative x).isFinite = true := by
  cases negative with
  | false => exact h
  | true => exact Rounding.isFinite_neg h

/-- An integer that a numeral writes has 64 bits, with or without a sign. -/
theorem natAbs_of_integer? {n : Numeral} {i : Int} (h : n.integer? = some i) :
    i.natAbs < UInt64.size := by
  unfold integer? at h
  dsimp only at h
  split_ifs at h with hplain hnegative hrange hrange
  · cases h
    rw [Int.natAbs_neg, Int.natAbs_natCast]
    exact hrange.2.trans_lt (by decide)
  · cases h
    exact hrange

theorem isFinite_ofInt {i : Int} (h : i.natAbs < UInt64.size) :
    (Float.ofInt i).isFinite = true := by
  cases i with
  | ofNat n => exact isFinite_ofNat h
  | negSucc n => exact Rounding.isFinite_neg (isFinite_ofNat h)

/-- Every number that a numeral is read as is a finite double. -/
theorem isFinite_of_value? {n : Numeral} {x : Number} (h : n.value? = some x) :
    x.toFloat.isFinite = true := by
  unfold value? at h
  rcases hinteger : n.integer? with _ | i
  · rw [hinteger] at h
    obtain ⟨y, hy, rfl⟩ := Option.map_eq_some_iff.mp h
    have hsignificand := isFinite_ofNat n.scaled_lt
    exact isFinite_withSign _ (isFinite_of_scale hsignificand hy)
  · rw [hinteger] at h
    cases h
    exact isFinite_ofInt (natAbs_of_integer? hinteger)

end Numeral

/-! ## Values within limits -/

/-- A value nested at most `d` deep in which every number is a finite double. -/
structure Tame (d : Nat) (v : Json) : Prop where
  depth_le : v.depth ≤ d
  finite : ∀ n ∈ v.numbers, n.toFloat.isFinite = true

theorem Tame.mono {d d' : Nat} {v : Json} (h : v.Tame d) (hle : d ≤ d') : v.Tame d' :=
  ⟨h.depth_le.trans hle, h.finite⟩

theorem tame_array {d : Nat} {items : List Json} :
    (array items).Tame (d + 1) ↔ ∀ v ∈ items, v.Tame d := by
  constructor
  · intro h v hv
    have hdepth : itemDepth items ≤ d := Nat.le_of_succ_le_succ h.depth_le
    exact ⟨itemDepth_le.mp hdepth v hv, forall_numbers_array.mp h.finite v hv⟩
  · intro h
    refine ⟨Nat.succ_le_succ (itemDepth_le.mpr fun v hv => (h v hv).depth_le), ?_⟩
    exact forall_numbers_array.mpr fun v hv => (h v hv).finite

theorem tame_object {d : Nat} {fs : List (String × Json)} :
    (object fs).Tame (d + 1) ↔ ∀ f ∈ fs, f.2.Tame d := by
  constructor
  · intro h f hf
    have hdepth : fieldDepth fs ≤ d := Nat.le_of_succ_le_succ h.depth_le
    exact ⟨fieldDepth_le.mp hdepth f hf, forall_numbers_object.mp h.finite f hf⟩
  · intro h
    refine ⟨Nat.succ_le_succ (fieldDepth_le.mpr fun f hf => (h f hf).depth_le), ?_⟩
    exact forall_numbers_object.mpr fun f hf => (h f hf).finite

/-- All items of an array are nested at most `d` deep and hold finite doubles only, and so are the
fields of an object that are asked for. -/
def Asked (keep : String → Bool) (d : Nat) : Json → Prop
  | array items => ∀ v ∈ items, v.Tame d
  | object fs => ∀ f ∈ fs, keep f.1 = true → f.2.Tame d
  | _ => True

/-- What stands in a value is nested less deeply than the value. -/
theorem Asked.lt_depth {keep : String → Bool} {d : Nat} {v : Json} (h : v.Asked keep d) :
    v.Asked keep (min d (v.depth - 1)) := by
  cases v with
  | array items =>
    intro v hv
    exact ⟨le_min (h v hv).depth_le (itemDepth_le.mp le_rfl v hv), (h v hv).finite⟩
  | object fs =>
    intro f hf hkeep
    exact ⟨le_min (h f hf hkeep).depth_le (fieldDepth_le.mp le_rfl f hf), (h f hf hkeep).finite⟩
  | _ => trivial

namespace Reader

variable {keep : String → Bool} {below stack : List Frame}

/-! ## Stacks within limits -/

/-- What stands in a container that is open on top of others is within the limits, except in the
skipped fields of the outermost object. -/
def Holds (keep : String → Bool) (below : List Frame) : Frame → Prop
  | .array items => ∀ v ∈ items, v.Tame (maxNesting - (below.length + 1))
  | .object fs _ => ∀ f ∈ fs, (below = [] → keep f.1 = true) →
      f.2.Tame (maxNesting - (below.length + 1))

/-- All open containers are within the limits. Nothing is said of those in a skipped field. -/
def Sound (keep : String → Bool) : List Frame → Prop
  | [] => True
  | f :: below =>
    (Strict keep below → below.length < maxNesting ∧ Holds keep below f) ∧ Sound keep below

/-- A finished value may be put on a stack. -/
def Fits (keep : String → Bool) (stack : List Frame) (v : Json) : Prop :=
  if stack = [] then v.Asked keep (maxNesting - 1) else Strict keep stack → v.Tame (maxNesting - stack.length)

/-- What holds of the reader after every step. -/
structure Inv (keep : String → Bool) (r : Reader) : Prop where
  sound : Sound keep r.stack
  asked : ∀ v, r.next = .nothing v → v.Asked keep (maxNesting - 1)

theorem strict_nil : Strict keep [] := fun _ => rfl

theorem strict_array (items : List Json) (h : Strict keep below) :
    Strict keep (.array items :: below) := by
  rcases below with _ | ⟨g, rest⟩
  · exact fun _ => rfl
  · exact h.cons (List.cons_ne_nil g rest) _

theorem strict_object {name : String} (fs : List (String × Json)) (h : Strict keep below)
    (hkeep : below = [] → keep name = true) : Strict keep (.object fs (some name) :: below) := by
  rcases below with _ | ⟨g, rest⟩
  · exact strict_field (hkeep rfl) fs
  · exact h.cons (List.cons_ne_nil g rest) _

/-- What is neither an array nor an object fits everywhere. -/
theorem fits_leaf {v : Json} (htame : v.Tame 0) (hasked : v.Asked keep (maxNesting - 1)) :
    Fits keep stack v := by
  unfold Fits
  split_ifs
  · exact hasked
  · exact fun _ => htame.mono (Nat.zero_le _)

/-- A container that is closed fits on the containers below it. -/
theorem fits_array {items : List Json} (h : Sound keep (.array items :: below)) :
    Fits keep below (.array items.reverse) := by
  unfold Fits
  split_ifs with hnil
  · subst hnil
    exact fun v hv => (h.1 strict_nil).2 v (List.mem_reverse.mp hv)
  · intro hstrict
    obtain ⟨hroom, hitems⟩ := h.1 hstrict
    rw [show maxNesting - below.length = maxNesting - (below.length + 1) + 1 by omega, tame_array]
    exact fun v hv => hitems v (List.mem_reverse.mp hv)

theorem fits_object {fs : List (String × Json)} {name : Option String}
    (h : Sound keep (.object fs name :: below)) : Fits keep below (.object fs.reverse) := by
  unfold Fits
  split_ifs with hnil
  · subst hnil
    exact fun f hf hkeep => (h.1 strict_nil).2 f (List.mem_reverse.mp hf) fun _ => hkeep
  · intro hstrict
    obtain ⟨hroom, hfields⟩ := h.1 hstrict
    rw [show maxNesting - below.length = maxNesting - (below.length + 1) + 1 by omega, tame_object]
    exact fun f hf => hfields f (List.mem_reverse.mp hf) fun hnil' => (hnil hnil').elim

/-! ## Steps -/

theorem Inv.of_sound {e : Expected} (h : Sound keep stack) (he : ∀ v, e ≠ .nothing v) :
    Inv keep ⟨stack, e⟩ :=
  ⟨h, fun v hv => (he v hv).elim⟩

theorem inv_put {v : Json} {r : Reader} (hs : Sound keep stack) (hv : Fits keep stack v)
    (h : put v stack = some r) : Inv keep r := by
  rcases stack with _ | ⟨_ | ⟨fs, _ | name⟩, below⟩
  · cases h
    refine ⟨trivial, fun w hw => ?_⟩
    cases hw
    exact hv
  · cases h
    refine .of_sound ⟨fun hstrict => ?_, hs.2⟩ (by rintro v ⟨⟩)
    obtain ⟨hroom, hitems⟩ := hs.1 hstrict
    exact ⟨hroom, List.forall_mem_cons.mpr ⟨hv (strict_array _ hstrict), hitems⟩⟩
  · cases h
  · cases h
    refine .of_sound ⟨fun hstrict => ?_, hs.2⟩ (by rintro v ⟨⟩)
    obtain ⟨hroom, hfields⟩ := hs.1 hstrict
    exact ⟨hroom, List.forall_mem_cons.mpr
      ⟨fun hkeep => hv (strict_object fs hstrict hkeep), hfields⟩⟩

theorem inv_close {bracket : Token} {r : Reader} (hs : Sound keep stack)
    (h : close bracket stack = some r) : Inv keep r := by
  rcases stack with _ | ⟨items | ⟨fs, name⟩, below⟩
  · cases h
  · rw [close] at h
    split_ifs at h
    exact inv_put hs.2 (fits_array hs) h
  · rw [close] at h
    split_ifs at h
    exact inv_put hs.2 (fits_object hs) h

/-- A container that opens has room on the stack, unless it stands in a skipped field. -/
theorem inv_open {f : Frame} {e : Expected} {lax : Bool} (hs : Sound keep stack)
    (hlax : Strict keep stack → lax = false) (hroom : (lax || stack.length < maxNesting) = true)
    (hf : Holds keep stack f) (he : ∀ v, e ≠ .nothing v) : Inv keep ⟨f :: stack, e⟩ := by
  refine .of_sound ⟨fun hstrict => ⟨?_, hf⟩, hs⟩ he
  rw [hlax hstrict] at hroom
  simpa using hroom

theorem inv_value {lax : Bool} {t : Token} {r : Reader} (hs : Sound keep stack)
    (hlax : Strict keep stack → lax = false) (h : value lax stack t = some r) : Inv keep r := by
  have hnull : Fits keep stack .null := fits_leaf ⟨le_rfl, by rintro n ⟨⟩⟩ trivial
  cases t with
  | null => exact inv_put hs hnull h
  | bool b =>
    have hbool : Fits keep stack (.bool b) := fits_leaf ⟨le_rfl, by rintro n ⟨⟩⟩ trivial
    exact inv_put hs hbool h
  | numeral n =>
    rw [value] at h
    rcases hvalue : n.value? with _ | x
    · rw [hvalue] at h
      dsimp only at h
      split_ifs at h
      exact inv_put hs hnull h
    · rw [hvalue] at h
      have hnumber : Fits keep stack (.number x) := by
        refine fits_leaf ⟨le_rfl, fun m hm => ?_⟩ trivial
        rw [List.mem_singleton.mp hm]
        exact Numeral.isFinite_of_value? hvalue
      exact inv_put hs hnumber h
  | string s =>
    rcases s with _ | s
    · rw [value] at h
      split_ifs at h
      exact inv_put hs hnull h
    · have hstring : Fits keep stack (.string s) := fits_leaf ⟨le_rfl, by rintro n ⟨⟩⟩ trivial
      exact inv_put hs hstring h
  | openArray =>
    rw [value] at h
    split_ifs at h with hroom
    cases h
    exact inv_open hs hlax hroom (by rintro v ⟨⟩) (by rintro v ⟨⟩)
  | openObject =>
    rw [value] at h
    split_ifs at h with hroom
    cases h
    exact inv_open hs hlax hroom (by rintro f ⟨⟩) (by rintro v ⟨⟩)
  | closeObject => cases h
  | closeArray => cases h
  | colon => cases h
  | comma => cases h

/-- The name of the field being read is not part of what an object holds. -/
theorem inv_name {lax : Bool} {t : Token} {r : Reader} (hs : Sound keep stack)
    (h : name lax stack t = some r) : Inv keep r := by
  unfold name at h
  split at h
  · cases h
    exact .of_sound hs (by rintro v ⟨⟩)
  · split_ifs at h
    cases h
    exact .of_sound hs (by rintro v ⟨⟩)
  · cases h

theorem inv_another {r : Reader} (hs : Sound keep stack) (h : another stack = some r) :
    Inv keep r := by
  rcases stack with _ | ⟨items | ⟨fs, name⟩, below⟩
  · cases h
  · cases h
    exact .of_sound hs (by rintro v ⟨⟩)
  · cases h
    exact .of_sound hs (by rintro v ⟨⟩)

/-- One token keeps the limits. -/
theorem Inv.step {r r' : Reader} {t : Token} (hr : Inv keep r) (h : step keep r t = some r') :
    Inv keep r' := by
  obtain ⟨stack, e⟩ := r
  have hlax (hstrict : Strict keep stack) : skips keep ⟨stack, e⟩ = false := hstrict e
  unfold Reader.step at h
  cases e with
  | value => exact inv_value hr.sound hlax h
  | valueOrEnd =>
    dsimp only at h
    split_ifs at h
    · exact inv_close hr.sound h
    · exact inv_value hr.sound hlax h
  | name => exact inv_name hr.sound h
  | nameOrEnd =>
    dsimp only at h
    split_ifs at h
    · exact inv_close hr.sound h
    · exact inv_name hr.sound h
  | colon =>
    dsimp only at h
    split_ifs at h
    cases h
    exact .of_sound hr.sound (by rintro v ⟨⟩)
  | commaOrEnd =>
    dsimp only at h
    split_ifs at h
    · exact inv_another hr.sound h
    · exact inv_close hr.sound h
  | nothing v => cases h

/-- All tokens keep the limits. -/
theorem Inv.run {r r' : Reader} {ts : List Token} (hr : Inv keep r)
    (h : ts.foldlM (Reader.step keep) r = some r') : Inv keep r' := by
  induction ts generalizing r with
  | nil =>
    cases h
    exact hr
  | cons t ts ih =>
    rw [List.foldlM_cons] at h
    obtain ⟨r'', hstep, hrun⟩ := Option.bind_eq_some_iff.mp h
    exact ih (hr.step hstep) hrun

end Reader

/-- **Limits.** Of a text that is read, the fields that are asked for are nested less deeply than
the text may be, and hold finite doubles only. -/
theorem readFields?_asked {names : List String} {s : String} {v : Json}
    (h : readFields? names s = some v) : v.Asked names.contains (maxNesting - 1) := by
  unfold readFields? ofTokens? at h
  obtain ⟨ts, -, htokens⟩ := Option.bind_eq_some_iff.mp h
  obtain ⟨r, hrun, hfinish⟩ := Option.bind_eq_some_iff.mp htokens
  have hr := (Reader.Inv.of_sound (e := .value) (by trivial) (by rintro v ⟨⟩)).run hrun
  refine hr.asked v ?_
  unfold Reader.finish at hfinish
  split at hfinish
  · rename_i hnext
    cases hfinish
    exact hnext
  · cases hfinish

end FlexLayout.Json
