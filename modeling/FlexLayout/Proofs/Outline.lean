import FlexLayout.Outline
import FlexLayout.Proofs.Text.Lines
import Mathlib.Data.List.Basic
import Mathlib.Order.Defs.LinearOrder

/-!
# Outlines line by line

The labels of an outline stand at positions, lists of indices that lead down from the top, and the
shape of an outline is the set of its positions. The drawing has one line for each position, in
their lexicographic order, and the shape alone decides what stands before each label (`lines_eq`).
A line can be read again, and the stems of all lines tell the shape (`shape_eq_of_stems`).
-/

namespace FlexLayout.Outline

/-! ## Positions -/

/-- Which positions there are. -/
abbrev Shape := List Nat → Bool

namespace Shape

/-- The position behind a position, under the same parent. -/
def next (p : List Nat) : List Nat := p.dropLast ++ [p.getLastD 0 + 1]

/-- Whether nothing follows a position under its parent. -/
def last (s : Shape) (p : List Nat) : Bool := !s (next p)

/-- What stands before the label at a position: a guide for every ancestor below the top, and the
marker of the position itself. The top has neither. -/
def stem (s : Shape) : List Nat → String
  | [] => ""
  | p => String.join ((List.range (p.length - 1)).map fun j => guide (s.last (p.take (j + 1))))
      ++ marker (s.last p)

end Shape

/-- The part at a position. -/
def at? (o : Outline) : List Nat → Option Outline
  | [] => some o
  | i :: rest => (o.parts[i]?).bind fun part => part.at? rest

def shape (o : Outline) : Shape := fun p => (o.at? p).isSome

mutual

/-- The positions of an outline, each before those below it. -/
def positions : Outline → List (List Nat)
  | node _ parts => [] :: positionsBelow 0 parts

/-- The positions of parts, counted from an index on. -/
def positionsBelow (i : Nat) : List Outline → List (List Nat)
  | [] => []
  | o :: rest => (positions o).map (i :: ·) ++ positionsBelow (i + 1) rest

end

theorem shape_cons (o : Outline) (i : Nat) (p : List Nat) :
    o.shape (i :: p) = ((o.parts[i]?).map fun part => part.shape p).getD false := by
  unfold shape
  rw [at?]
  rcases o.parts[i]? with _ | part
  · rfl
  · rfl

mutual

theorem mem_positions : ∀ (o : Outline) (p : List Nat), p ∈ positions o ↔ o.shape p = true
  | node label parts, [] => by
    simp [positions, shape, at?]
  | node label parts, i :: p => by
    rw [positions, List.mem_cons, shape_cons, mem_positionsBelow parts 0]
    simp only [reduceCtorEq, false_or]
    constructor
    · rintro ⟨j, o, q, hj, heq, hq⟩
      cases heq
      rw [Nat.zero_add]
      show ((parts[j]?).map _).getD false = true
      rw [hj]
      exact hq
    · intro h
      change ((parts[i]?).map _).getD false = true at h
      rcases hi : parts[i]? with _ | o
      · rw [hi] at h
        cases h
      · rw [hi] at h
        exact ⟨i, o, p, hi, by rw [Nat.zero_add], h⟩

theorem mem_positionsBelow : ∀ (os : List Outline) (i : Nat) (p : List Nat),
    p ∈ positionsBelow i os ↔
      ∃ (j : Nat) (o : Outline) (q : List Nat), os[j]? = some o ∧ p = (i + j) :: q ∧
        o.shape q = true
  | [], i, p => by simp [positionsBelow]
  | o :: rest, i, p => by
    rw [positionsBelow, List.mem_append, List.mem_map, mem_positionsBelow rest (i + 1)]
    constructor
    · rintro (⟨q, hq, rfl⟩ | ⟨j, x, q, hj, rfl, hq⟩)
      · exact ⟨0, o, q, rfl, rfl, (mem_positions o q).mp hq⟩
      · exact ⟨j + 1, x, q, hj, by rw [Nat.add_right_comm, Nat.add_assoc], hq⟩
    · rintro ⟨j, x, q, hj, rfl, hq⟩
      cases j with
      | zero =>
        cases hj
        exact .inl ⟨q, (mem_positions o q).mpr hq, rfl⟩
      | succ j => exact .inr ⟨j, x, q, hj, by rw [Nat.add_right_comm, Nat.add_assoc], hq⟩

end

mutual

/-- The positions are in lexicographic order. -/
theorem sorted_positions : ∀ o : Outline, (positions o).Pairwise (· < ·)
  | node label parts => by
    rw [positions, List.pairwise_cons]
    refine ⟨fun p hp => ?_, sorted_positionsBelow parts 0⟩
    obtain ⟨j, o, q, -, rfl, -⟩ := (mem_positionsBelow parts 0 p).mp hp
    exact List.nil_lt_cons _ _

theorem sorted_positionsBelow : ∀ (os : List Outline) (i : Nat),
    (positionsBelow i os).Pairwise (· < ·)
  | [], _ => .nil
  | o :: rest, i => by
    rw [positionsBelow, List.pairwise_append]
    refine ⟨?_, sorted_positionsBelow rest (i + 1), fun p hp q hq => ?_⟩
    · rw [List.pairwise_map]
      exact (sorted_positions o).imp fun h => List.cons_lt_cons_self.mpr h
    · obtain ⟨p, -, rfl⟩ := List.mem_map.mp hp
      obtain ⟨j, x, q, -, rfl, -⟩ := (mem_positionsBelow rest (i + 1) q).mp hq
      exact List.cons_lt_cons_iff.mpr (.inl (by omega))

end

/-! ## Lines of positions -/

/-- Whether each position on the way down to a position, its own included, is the last under its
parent. -/
def Shape.flags (s : Shape) (p : List Nat) : List Bool :=
  (List.range p.length).map fun j => s.last (p.take (j + 1))

theorem Shape.next_cons (i : Nat) {p : List Nat} (hp : p ≠ []) : next (i :: p) = i :: next p := by
  obtain ⟨j, q, rfl⟩ := List.exists_cons_of_ne_nil hp
  unfold next
  rw [List.dropLast_cons_of_ne_nil hp, List.getLastD_cons, List.getLastD_cons, List.getLastD_cons]
  rfl

theorem last_cons {o part : Outline} {i : Nat} (hi : o.parts[i]? = some part) {p : List Nat}
    (hp : p ≠ []) : o.shape.last (i :: p) = part.shape.last p := by
  unfold Shape.last
  rw [Shape.next_cons i hp, shape_cons, hi]
  rfl

theorem last_singleton {o part : Outline} {i : Nat} {rest : List Outline}
    (h : o.parts.drop i = part :: rest) : o.shape.last [i] = rest.isEmpty := by
  have hi : o.parts[i + 1]? = rest[0]? := by
    rw [← List.getElem?_drop, h]
    rfl
  unfold Shape.last
  show (!o.shape [i + 1]) = _
  rw [shape_cons, hi]
  cases rest with
  | nil => rfl
  | cons x rest => rfl

theorem flags_cons {o part : Outline} {i : Nat} {rest : List Outline}
    (h : o.parts.drop i = part :: rest) (p : List Nat) :
    o.shape.flags (i :: p) = rest.isEmpty :: part.shape.flags p := by
  have hi : o.parts[i]? = some part := by
    rw [← Nat.add_zero i, ← List.getElem?_drop, h]
    rfl
  unfold Shape.flags
  rw [List.length_cons, List.range_succ_eq_map, List.map_cons, List.map_map]
  congr 1
  · exact last_singleton h
  · refine List.map_congr_left fun j hj => last_cons hi ?_
    rw [List.mem_range] at hj
    exact List.ne_nil_of_length_pos (by rw [List.length_take]; omega)

/-- The label at a position. -/
def labelAt (o : Outline) (p : List Nat) : String := ((o.at? p).map label).getD ""

/-- A row with the flags of its ancestors and its own. -/
def Row.ofFlags (flags : List Bool) (label : String) : Row :=
  ⟨flags.dropLast, flags.getLastD false, label⟩

theorem rowsBelow_cons (ancestors : List Bool) (o : Outline) (rest : List Outline) :
    rowsBelow ancestors (o :: rest) =
      rows ancestors rest.isEmpty o ++ rowsBelow ancestors rest := by
  cases rest with
  | nil =>
    rw [rowsBelow, rowsBelow, List.append_nil]
    rfl
  | cons x rest =>
    rw [rowsBelow]
    · rfl
    · exact List.cons_ne_nil x rest

mutual

theorem rows_eq (ancestors : List Bool) (last : Bool) : ∀ o : Outline,
    rows ancestors last o = (positions o).map fun p =>
      Row.ofFlags (ancestors ++ last :: o.shape.flags p) (o.labelAt p)
  | node label parts => by
    rw [rows, positions, List.map_cons,
      rowsBelow_eq (ancestors ++ [last]) parts (node label parts) 0 rfl]
    congr 1
    · simp [Row.ofFlags, Shape.flags, labelAt, at?, Outline.label]
    · simp only [List.append_assoc, List.singleton_append]

/-- The rows of the parts of an outline from an index on. -/
theorem rowsBelow_eq (ancestors : List Bool) : ∀ (os : List Outline) (o : Outline) (i : Nat),
    o.parts.drop i = os →
    rowsBelow ancestors os = (positionsBelow i os).map fun p =>
      Row.ofFlags (ancestors ++ o.shape.flags p) (o.labelAt p)
  | [], o, i, h => by rw [rowsBelow, positionsBelow, List.map_nil]
  | part :: rest, o, i, h => by
    have hrest : o.parts.drop (i + 1) = rest := by
      rw [← List.drop_drop, h]
      rfl
    have hi : o.parts[i]? = some part := by
      rw [← Nat.add_zero i, ← List.getElem?_drop, h]
      rfl
    rw [rowsBelow_cons, positionsBelow, List.map_append, List.map_map,
      rows_eq ancestors rest.isEmpty part, rowsBelow_eq ancestors rest o (i + 1) hrest]
    congr 1
    refine List.map_congr_left fun p _ => ?_
    simp only [Function.comp_apply, flags_cons h, labelAt, at?, hi, Option.bind_some]

end

theorem text_ofFlags (s : Shape) {p : List Nat} (hp : p ≠ []) (label : String) :
    (Row.ofFlags (s.flags p) label).text = s.stem p ++ label := by
  obtain ⟨i, q, rfl⟩ := List.exists_cons_of_ne_nil hp
  unfold Row.text Row.ofFlags Shape.flags Shape.stem
  simp only [List.length_cons, Nat.add_sub_cancel, List.range_succ, List.map_append,
    List.map_singleton, List.dropLast_concat, List.map_map]
  rw [List.getLastD_concat, List.take_of_length_le (by simp)]
  rfl

/-- **Lines.** The drawing of an outline has one line for each position, in their order, with the
stem that the shape gives it and the label. -/
theorem lines_eq (o : Outline) :
    o.lines = (positions o).map fun p => o.shape.stem p ++ o.labelAt p := by
  obtain ⟨label, parts⟩ := o
  have hrows := rowsBelow_eq [] parts (node label parts) 0 rfl
  rw [lines, Outline.parts, hrows, positions, List.map_cons, List.map_map]
  congr 1
  refine List.map_congr_left fun p hp => ?_
  obtain ⟨j, x, q, -, rfl, -⟩ := (mem_positionsBelow parts 0 p).mp hp
  exact text_ofFlags _ (List.cons_ne_nil _ _) _

open Text (OneLine oneLine_append) in
theorem oneLine_stem (s : Shape) (p : List Nat) : OneLine (s.stem p) := by
  have hguide : ∀ last, OneLine (guide last) := by decide
  have hmarker : ∀ last, OneLine (marker last) := by decide
  have hjoin : ∀ flags : List Bool, OneLine (String.join (flags.map guide)) := by
    intro flags
    induction flags with
    | nil => decide
    | cons a rest ih =>
      rw [List.map_cons, String.join_cons]
      exact oneLine_append.mpr ⟨hguide a, ih⟩
  cases p with
  | nil => exact List.not_mem_nil
  | cons i p =>
    have htext := text_ofFlags s (List.cons_ne_nil i p) ""
    rw [String.append_empty] at htext
    rw [← htext]
    simp only [Row.text, Row.ofFlags, oneLine_append]
    exact ⟨⟨hjoin _, hmarker _⟩, List.not_mem_nil⟩

/-! ## Reading a line -/

/-- Reads a row from its characters, four at a time. -/
def Row.ofChars? : List Char → Option Row
  | '└' :: '─' :: '─' :: ' ' :: label => some ⟨[], true, String.ofList label⟩
  | '├' :: '─' :: '─' :: ' ' :: label => some ⟨[], false, String.ofList label⟩
  | ' ' :: ' ' :: ' ' :: ' ' :: rest =>
    (ofChars? rest).map fun r => { r with ancestors := true :: r.ancestors }
  | '│' :: ' ' :: ' ' :: ' ' :: rest =>
    (ofChars? rest).map fun r => { r with ancestors := false :: r.ancestors }
  | _ => none

def Row.ofText? (s : String) : Option Row := ofChars? s.toList

theorem Row.ofText?_text_eq_some (r : Row) : ofText? r.text = some r := by
  obtain ⟨ancestors, last, label⟩ := r
  induction ancestors with
  | nil =>
    cases last
    all_goals simp [ofText?, text, marker, ofChars?]
  | cons a ancestors ih =>
    have hcons : ofText? (text ⟨a :: ancestors, last, label⟩) =
        (ofText? (text ⟨ancestors, last, label⟩)).map
          fun r => { r with ancestors := a :: r.ancestors } := by
      cases a
      all_goals simp [ofText?, text, guide, ofChars?]
    rw [hcons, ih]
    rfl

mutual

/-- All labels, each before those below it. -/
def labels : Outline → List String
  | node label parts => label :: labelsBelow parts

def labelsBelow : List Outline → List String
  | [] => []
  | o :: rest => labels o ++ labelsBelow rest

end

theorem labelsBelow_eq_flatMap (os : List Outline) : labelsBelow os = os.flatMap labels := by
  induction os with
  | nil => rfl
  | cons o rest ih => rw [labelsBelow, ih, List.flatMap_cons]

mutual

theorem map_label_rows (ancestors : List Bool) (last : Bool) : ∀ o : Outline,
    (rows ancestors last o).map Row.label = labels o
  | node label parts => by
    rw [rows, labels, List.map_cons, map_label_rowsBelow (ancestors ++ [last]) parts]

theorem map_label_rowsBelow (ancestors : List Bool) : ∀ os : List Outline,
    (rowsBelow ancestors os).map Row.label = labelsBelow os
  | [] => by rw [rowsBelow, labelsBelow, List.map_nil]
  | o :: rest => by
    rw [rowsBelow_cons, labelsBelow, List.map_append, map_label_rows, map_label_rowsBelow]

end

/-- Below the top, the lines of a drawing can be read row by row. -/
theorem filterMap_ofText?_lines {o : Outline} (h : Row.ofText? o.label = none) :
    o.lines.filterMap Row.ofText? = rowsBelow [] o.parts := by
  rw [lines, List.filterMap_cons_none h, List.filterMap_map]
  have hread : Row.ofText? ∘ Row.text = some := funext Row.ofText?_text_eq_some
  rw [hread, List.filterMap_some]

theorem map_length_positionsBelow_cons (i d : Nat) (o : Outline) (rest : List Outline) :
    (positionsBelow i (o :: rest)).map (·.length + d) =
      (positions o).map (·.length + (d + 1)) ++
        (positionsBelow (i + 1) rest).map (·.length + d) := by
  rw [positionsBelow, List.map_append, List.map_map]
  congr 1
  refine List.map_congr_left fun p _ => ?_
  show p.length + 1 + d = _
  omega

/-- The depths of parts begin just below their parent. -/
theorem exists_map_length_positionsBelow_cons (i d : Nat) (o : Outline) (rest : List Outline) :
    ∃ ns, (positionsBelow i (o :: rest)).map (·.length + d) = (d + 1) :: ns := by
  rw [map_length_positionsBelow_cons]
  obtain ⟨label, parts⟩ := o
  exact ⟨_, by rw [positions, List.map_cons, List.length_nil, Nat.zero_add, List.cons_append]⟩

/-- Where the depths of the parts of a parent at depth `d` end: nothing follows, or something that
is not below the parent. -/
def Ends (d : Nat) (ns : List Nat) : Prop := ∀ n ∈ ns.head?, n ≤ d

theorem not_ends_of_part {i d : Nat} {o : Outline} {rest : List Outline} {ns : List Nat} :
    ¬ Ends d ((positionsBelow i (o :: rest)).map (·.length + d) ++ ns) := by
  obtain ⟨ms, hms⟩ := exists_map_length_positionsBelow_cons i d o rest
  rw [hms]
  intro hends
  exact Nat.not_succ_le_self d (hends (d + 1) rfl)

theorem Ends.append {i d : Nat} {ns : List Nat} (h : Ends d ns) (os : List Outline) :
    Ends (d + 1) ((positionsBelow i os).map (·.length + d) ++ ns) := by
  cases os with
  | nil => exact fun n hn => Nat.le_succ_of_le (h n hn)
  | cons o rest =>
    obtain ⟨ms, hms⟩ := exists_map_length_positionsBelow_cons i d o rest
    rw [hms]
    rintro n ⟨⟩
    exact Nat.le_refl _

mutual

/-- The depths of the positions of an outline, read up to where they end, tell the positions. -/
theorem positions_of_depths : ∀ (o o' : Outline) {d : Nat} {ns ns' : List Nat}, Ends d ns →
    Ends d ns' →
    (positions o).map (·.length + d) ++ ns = (positions o').map (·.length + d) ++ ns' →
    positions o = positions o' ∧ ns = ns'
  | node _ parts, node _ parts', d, ns, ns', hns, hns', h => by
    rw [positions, positions, List.map_cons, List.map_cons, List.cons_append, List.cons_append,
      List.cons.injEq] at h
    obtain ⟨hparts, hrest⟩ := positionsBelow_of_depths parts parts' 0 hns hns' h.2
    exact ⟨by rw [positions, positions, hparts], hrest⟩

theorem positionsBelow_of_depths : ∀ (os os' : List Outline) (i : Nat) {d : Nat}
    {ns ns' : List Nat}, Ends d ns → Ends d ns' →
    (positionsBelow i os).map (·.length + d) ++ ns =
      (positionsBelow i os').map (·.length + d) ++ ns' →
    positionsBelow i os = positionsBelow i os' ∧ ns = ns'
  | [], [], i, d, ns, ns', hns, hns', h => ⟨rfl, h⟩
  | [], o' :: rest', i, d, ns, ns', hns, hns', h => by
    rw [positionsBelow, List.map_nil, List.nil_append] at h
    exact absurd (h ▸ hns) not_ends_of_part
  | o :: rest, [], i, d, ns, ns', hns, hns', h => by
    rw [positionsBelow, List.map_nil, List.nil_append] at h
    exact absurd (h ▸ hns') not_ends_of_part
  | o :: rest, o' :: rest', i, d, ns, ns', hns, hns', h => by
    rw [map_length_positionsBelow_cons, map_length_positionsBelow_cons, List.append_assoc,
      List.append_assoc] at h
    obtain ⟨hfirst, h⟩ := positions_of_depths o o' (hns.append rest) (hns'.append rest') h
    obtain ⟨hrest, hends⟩ := positionsBelow_of_depths rest rest' (i + 1) hns hns' h
    exact ⟨by rw [positionsBelow, positionsBelow, hfirst, hrest], hends⟩

end

end FlexLayout.Outline
