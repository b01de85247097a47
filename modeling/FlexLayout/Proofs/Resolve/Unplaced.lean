import FlexLayout.Proofs.Document.PathText
import FlexLayout.Proofs.Resolve.Outcome
import Mathlib.Data.List.Nodup

/-!
# Components without a place

The lists of components without a place, item by item and section by section. The path to a
component stands in front of the paths of all that it holds (`unplaced_append`), so the parts of a
list never share a path, and no path occurs twice in it (`Container.nodup_unplaced`).
-/

namespace FlexLayout.Document

/-! ## Paths below a component -/

/-- The components `us` with a path in front of their own. -/
def atPath (p : Path) (us : List (String × Path)) : List (String × Path) :=
  us.map fun (kind, q) => (kind, p ++ q)

theorem atPath_append (p : Path) (us vs : List (String × Path)) :
    atPath p (us ++ vs) = atPath p us ++ atPath p vs := List.map_append

theorem unplacedSpans_append (p q : Path) (i : Nat) (cs : List Component) :
    unplacedSpans (p ++ q) i cs = atPath p (unplacedSpans q i cs) := by
  induction cs generalizing i with
  | nil => rfl
  | cons c rest ih =>
    cases c with
    | unknown kind =>
      have hitem : (p ++ q).item i = p ++ q.item i := List.append_assoc ..
      rw [unplacedSpans, unplacedSpans, ih, hitem]
      rfl
    | _ => exact ih (i + 1)

namespace Component

mutual

/-- The components without a place do not depend on the path to the component, which only stands
in front of theirs. -/
theorem unplaced_append (p q : Path) : ∀ c : Component,
    unplaced (p ++ q) c = atPath p (unplaced q c)
  | .box _ contents => unplacedFrom_append p q 0 contents
  | .text _ contents => unplacedSpans_append p q 0 contents
  | .video _ none => rfl
  | .video _ (some alt) => by
    have halt : (p ++ q).field "altContent" = p ++ q.field "altContent" := List.append_assoc ..
    rw [unplaced, halt, unplaced_append p (q.field "altContent") alt, unplaced]
  | .unknown _ => rfl
  | .button _ | .filler _ | .icon _ | .image _ | .separator _ | .spacer _ | .span _ => rfl

theorem unplacedFrom_append (p q : Path) (i : Nat) : ∀ cs : List Component,
    unplacedFrom (p ++ q) i cs = atPath p (unplacedFrom q i cs)
  | [] => rfl
  | c :: rest => by
    have hitem : (p ++ q).item i = p ++ q.item i := List.append_assoc ..
    rw [unplacedFrom, hitem, unplaced_append p (q.item i) c, unplacedFrom_append p q (i + 1) rest,
      unplacedFrom, atPath_append]

end

theorem unplaced_eq_atPath (p : Path) (c : Component) :
    unplaced p c = atPath p (unplaced [] c) := by
  have h := unplaced_append p [] c
  rwa [List.append_nil] at h

theorem unplacedFrom_eq_atPath (p : Path) (i : Nat) (cs : List Component) :
    unplacedFrom p i cs = atPath p (unplacedFrom [] i cs) := by
  have h := unplacedFrom_append p [] i cs
  rwa [List.append_nil] at h

end Component

theorem unplacedBoxed_append (p q : Path) (c : Option Component) :
    unplacedBoxed (p ++ q) c = atPath p (unplacedBoxed q c) := by
  rcases c with _ | x
  · rfl
  · cases x with
    | box b contents => exact Component.unplacedFrom_append p q 0 contents
    | _ => rfl

theorem unplacedHero_append (p q : Path) (c : Option Component) :
    unplacedHero (p ++ q) c = atPath p (unplacedHero q c) := by
  rcases c with _ | x
  · rfl
  · exact x.unplaced_append p q

theorem Bubble.unplaced_eq_atPath (p : Path) (b : Bubble) :
    b.unplaced p = atPath p (b.unplaced []) := by
  have hfield (name : String) : p.field name = p ++ Path.field [] name := rfl
  unfold unplaced
  simp only [hfield, unplacedBoxed_append, unplacedHero_append, atPath_append]

/-! ## Items -/

theorem mem_atPath {p path : Path} {us : List (String × Path)} {kind : String} :
    (kind, path) ∈ atPath p us ↔ ∃ q, (kind, q) ∈ us ∧ path = p ++ q := by
  unfold atPath
  rw [List.mem_map]
  constructor
  · rintro ⟨⟨k, q⟩, hmem, heq⟩
    cases heq
    exact ⟨q, hmem, rfl⟩
  · rintro ⟨q, hmem, rfl⟩
    exact ⟨_, hmem, rfl⟩

theorem mem_unplacedSpans {path q : Path} {i : Nat} {cs : List Component} {kind : String}
    (h : (kind, q) ∈ unplacedSpans path i cs) :
    ∃ j, cs[j]? = some (.unknown kind) ∧ q = path.item (i + j) := by
  induction cs generalizing i with
  | nil => cases h
  | cons c rest ih =>
    have hrest : (kind, q) ∈ unplacedSpans path (i + 1) rest →
        ∃ j, (c :: rest)[j]? = some (.unknown kind) ∧ q = path.item (i + j) := by
      intro hmem
      obtain ⟨j, hj, rfl⟩ := ih hmem
      refine ⟨j + 1, hj, ?_⟩
      rw [Nat.add_right_comm, Nat.add_assoc]
    cases c with
    | unknown k =>
      rcases List.mem_cons.mp h with heq | hmem
      · cases heq
        exact ⟨0, rfl, rfl⟩
      · exact hrest hmem
    | _ => exact hrest h

theorem Component.mem_unplacedFrom {path q : Path} {i : Nat} {cs : List Component}
    {kind : String} (h : (kind, q) ∈ unplacedFrom path i cs) :
    ∃ j c, cs[j]? = some c ∧ (kind, q) ∈ unplaced (path.item (i + j)) c := by
  induction cs generalizing i with
  | nil => cases h
  | cons c rest ih =>
    rw [unplacedFrom, List.mem_append] at h
    rcases h with h | h
    · exact ⟨0, c, rfl, h⟩
    · obtain ⟨j, x, hj, hx⟩ := ih h
      refine ⟨j + 1, x, hj, ?_⟩
      rwa [Nat.add_right_comm, Nat.add_assoc] at hx

theorem mem_unplacedEntries {q : Path} {i : Nat} {es : List Entry} {kind : String}
    (h : (kind, q) ∈ unplacedEntries i es) :
    ∃ j e, es[j]? = some e ∧
      ((∃ b, e = .bubble b ∧ (kind, q) ∈ b.unplaced (Resolve.entryPath (i + j))) ∨
        (e = .unknown kind ∧ q = Resolve.entryPath (i + j))) := by
  induction es generalizing i with
  | nil => cases h
  | cons e rest ih =>
    have hrest (hmem : (kind, q) ∈ unplacedEntries (i + 1) rest) :
        ∃ j x, (e :: rest)[j]? = some x ∧
          ((∃ b, x = .bubble b ∧ (kind, q) ∈ b.unplaced (Resolve.entryPath (i + j))) ∨
            (x = .unknown kind ∧ q = Resolve.entryPath (i + j))) := by
      obtain ⟨j, x, hj, hx⟩ := ih hmem
      refine ⟨j + 1, x, hj, ?_⟩
      rwa [Nat.add_right_comm, Nat.add_assoc] at hx
    cases e with
    | bubble b =>
      rw [unplacedEntries, List.mem_append] at h
      rcases h with h | h
      · exact ⟨0, _, rfl, .inl ⟨b, rfl, h⟩⟩
      · exact hrest h
    | unknown k =>
      rcases List.mem_cons.mp h with heq | hmem
      · cases heq
        exact ⟨0, _, rfl, .inr ⟨rfl, rfl⟩⟩
      · exact hrest hmem

/-! ## No path twice -/

/-- The paths of components. -/
def paths (us : List (String × Path)) : List Path := us.map Prod.snd

/-- The path of a component goes on from `p`. -/
def GoesOn (p : Path) (u : String × Path) : Prop := p <+: u.2

theorem GoesOn.of_eq {p : Path} {u : String × Path} (h : u.2 = p) : GoesOn p u :=
  h ▸ List.prefix_refl u.2

theorem GoesOn.of_append {p q : Path} {u : String × Path} (h : GoesOn (p ++ q) u) : GoesOn p u :=
  (List.prefix_append p q).trans h

/-- Paths that take different steps at the same place are different. -/
theorem nodup_append {p : Path} {s : Segment} {us vs : List (String × Path)}
    (hus : ∀ u ∈ us, GoesOn (p ++ [s]) u) (hvs : ∀ v ∈ vs, ∃ t, t ≠ s ∧ GoesOn (p ++ [t]) v)
    (hu : (paths us).Nodup) (hv : (paths vs).Nodup) : (paths (us ++ vs)).Nodup := by
  unfold paths
  rw [List.map_append, List.nodup_append]
  refine ⟨hu, hv, fun q hq q' hq' heq => ?_⟩
  obtain ⟨u, hmem, rfl⟩ := List.mem_map.mp hq
  obtain ⟨v, hmem', rfl⟩ := List.mem_map.mp hq'
  obtain ⟨t, hne, ht⟩ := hvs v hmem'
  have hs : p ++ [s] <+: v.2 := heq ▸ hus u hmem
  exact hne (Path.step_unique ht hs)

theorem item_ne {i j : Nat} (h : i < j) :
    Segment.mk "contents" (some j) ≠ ⟨"contents", some i⟩ := by
  intro heq
  cases heq
  exact absurd h (Nat.lt_irrefl i)

theorem nodup_unplacedSpans (path : Path) (i : Nat) (cs : List Component) :
    (paths (unplacedSpans path i cs)).Nodup := by
  induction cs generalizing i with
  | nil => exact List.nodup_nil
  | cons c rest ih =>
    cases c with
    | unknown kind =>
      have hrest : ∀ v ∈ unplacedSpans path (i + 1) rest,
          ∃ t, t ≠ Segment.mk "contents" (some i) ∧ GoesOn (path ++ [t]) v := by
        rintro ⟨kind', q⟩ hv
        obtain ⟨j, -, hq⟩ := mem_unplacedSpans hv
        have hlt : i < i + 1 + j := by omega
        exact ⟨_, item_ne hlt, .of_eq hq⟩
      show (paths ([(kind, path.item i)] ++ unplacedSpans path (i + 1) rest)).Nodup
      refine nodup_append (fun u hu => ?_) hrest (List.nodup_singleton _) (ih (i + 1))
      rw [List.mem_singleton.mp hu]
      exact List.prefix_refl _
    | _ => exact ih (i + 1)

namespace Component

theorem goesOn_unplaced {path : Path} {c : Component} {u : String × Path}
    (h : u ∈ unplaced path c) : GoesOn path u := by
  rw [unplaced_eq_atPath] at h
  obtain ⟨kind, q⟩ := u
  obtain ⟨below, -, hq⟩ := mem_atPath.mp h
  exact ⟨below, hq.symm⟩

theorem goesOn_unplacedFrom {path : Path} {i : Nat} {cs : List Component} {u : String × Path}
    (h : u ∈ unplacedFrom path i cs) : ∃ j, i ≤ j ∧ GoesOn (path.item j) u := by
  obtain ⟨kind, q⟩ := u
  obtain ⟨j, c, -, hc⟩ := mem_unplacedFrom h
  exact ⟨i + j, Nat.le_add_right i j, goesOn_unplaced hc⟩

mutual

theorem nodup_unplaced (path : Path) : ∀ c : Component, (paths (unplaced path c)).Nodup
  | .box _ contents => nodup_unplacedFrom path 0 contents
  | .text _ contents => nodup_unplacedSpans path 0 contents
  | .video _ none => List.nodup_nil
  | .video _ (some alt) => nodup_unplaced (path.field "altContent") alt
  | .unknown _ => List.nodup_singleton _
  | .button _ | .filler _ | .icon _ | .image _ | .separator _ | .spacer _ | .span _ =>
    List.nodup_nil

theorem nodup_unplacedFrom (path : Path) (i : Nat) : ∀ cs : List Component,
    (paths (unplacedFrom path i cs)).Nodup
  | [] => List.nodup_nil
  | c :: rest => by
    rw [unplacedFrom]
    refine nodup_append (p := path) (fun u hu => goesOn_unplaced hu) (fun v hv => ?_)
      (nodup_unplaced (path.item i) c) (nodup_unplacedFrom path (i + 1) rest)
    obtain ⟨j, hj, hgoes⟩ := goesOn_unplacedFrom hv
    have hlt : i < j := by omega
    exact ⟨_, item_ne hlt, hgoes⟩

end

end Component

theorem goesOn_unplacedBoxed {path : Path} {c : Option Component} {u : String × Path}
    (h : u ∈ unplacedBoxed path c) : GoesOn path u := by
  rcases c with _ | x
  · cases h
  · cases x with
    | box b contents =>
      obtain ⟨j, -, hgoes⟩ := Component.goesOn_unplacedFrom h
      exact hgoes.of_append
    | _ =>
      rw [List.mem_singleton.mp h]
      exact List.prefix_refl _

theorem nodup_unplacedBoxed (path : Path) (c : Option Component) :
    (paths (unplacedBoxed path c)).Nodup := by
  rcases c with _ | x
  · exact List.nodup_nil
  · cases x with
    | box b contents => exact Component.nodup_unplacedFrom path 0 contents
    | _ => exact List.nodup_singleton _

theorem goesOn_unplacedHero {path : Path} {c : Option Component} {u : String × Path}
    (h : u ∈ unplacedHero path c) : GoesOn path u := by
  rcases c with _ | x
  · cases h
  · exact Component.goesOn_unplaced h

theorem nodup_unplacedHero (path : Path) (c : Option Component) :
    (paths (unplacedHero path c)).Nodup := by
  rcases c with _ | x
  · exact List.nodup_nil
  · exact Component.nodup_unplaced path x

theorem Bubble.goesOn_unplaced {path : Path} {b : Bubble} {u : String × Path}
    (h : u ∈ b.unplaced path) : GoesOn path u := by
  simp only [unplaced, List.mem_append, or_assoc] at h
  rcases h with h | h | h | h
  · exact (goesOn_unplacedBoxed h).of_append
  · exact (goesOn_unplacedHero h).of_append
  · exact (goesOn_unplacedBoxed h).of_append
  · exact (goesOn_unplacedBoxed h).of_append

theorem Bubble.nodup_unplaced (path : Path) (b : Bubble) : (paths (b.unplaced path)).Nodup := by
  unfold unplaced
  rw [List.append_assoc, List.append_assoc]
  refine nodup_append (fun u hu => goesOn_unplacedBoxed hu) (fun v hv => ?_)
    (nodup_unplacedBoxed _ _) (nodup_append (fun u hu => goesOn_unplacedHero hu) (fun v hv => ?_)
      (nodup_unplacedHero _ _) (nodup_append (fun u hu => goesOn_unplacedBoxed hu) (fun v hv => ?_)
        (nodup_unplacedBoxed _ _) (nodup_unplacedBoxed _ _)))
  · rw [List.mem_append, List.mem_append] at hv
    rcases hv with hv | hv | hv
    · exact ⟨⟨"hero", none⟩, by decide, goesOn_unplacedHero hv⟩
    · exact ⟨⟨"body", none⟩, by decide, goesOn_unplacedBoxed hv⟩
    · exact ⟨⟨"footer", none⟩, by decide, goesOn_unplacedBoxed hv⟩
  · rcases List.mem_append.mp hv with hv | hv
    · exact ⟨⟨"body", none⟩, by decide, goesOn_unplacedBoxed hv⟩
    · exact ⟨⟨"footer", none⟩, by decide, goesOn_unplacedBoxed hv⟩
  · exact ⟨⟨"footer", none⟩, by decide, goesOn_unplacedBoxed hv⟩

theorem nodup_unplacedEntries (i : Nat) (es : List Entry) :
    (paths (unplacedEntries i es)).Nodup := by
  induction es generalizing i with
  | nil => exact List.nodup_nil
  | cons e rest ih =>
    have hrest : ∀ v ∈ unplacedEntries (i + 1) rest,
        ∃ t, t ≠ Segment.mk "contents" (some i) ∧ GoesOn ([] ++ [t]) v := by
      rintro ⟨kind, q⟩ hv
      obtain ⟨j, e, -, ⟨b, -, hb⟩ | ⟨-, hq⟩⟩ := mem_unplacedEntries hv
      all_goals have hlt : i < i + 1 + j := by omega
      · exact ⟨_, item_ne hlt, Bubble.goesOn_unplaced hb⟩
      · exact ⟨_, item_ne hlt, .of_eq hq⟩
    cases e with
    | bubble b =>
      exact nodup_append (p := []) (fun u hu => Bubble.goesOn_unplaced hu) hrest
        (b.nodup_unplaced _) (ih (i + 1))
    | unknown kind =>
      show (paths ([(kind, Resolve.entryPath i)] ++ unplacedEntries (i + 1) rest)).Nodup
      refine nodup_append (p := []) (fun u hu => ?_) hrest (List.nodup_singleton _) (ih (i + 1))
      rw [List.mem_singleton.mp hu]
      exact List.prefix_refl _

/-- No two components without a place share a path. -/
theorem Container.nodup_unplaced (c : Container) : (paths c.unplaced).Nodup := by
  cases c with
  | bubble b => exact b.nodup_unplaced Resolve.contentsPath
  | carousel es => exact nodup_unplacedEntries 0 es

end FlexLayout.Document
