import FlexLayout.Resolve.Run
import Mathlib.Data.List.TakeWhile

/-!
# Runs under the two policies

Rejecting is skipping, stopped at the first component that has no place. `Run.strict` stops a run
there, and it commutes with sequencing. `Yields` is what is proved of every part of the resolver:
the value that skipping comes to, the components that it leaves out on the way, and that rejecting
is the run stopped at the first of them.
-/

namespace FlexLayout.Resolve

/-- The kind and the path of a component that an entry of the log reports as left out. -/
def Event.skipped? : Event → Option (String × Path)
  | skipped kind path => some (kind, path)
  | _ => none

namespace Run

variable {α β : Type}

/-- The components that a run left out, in the order of its log. -/
def skipped (r : Run α) : List (String × Path) := r.log.filterMap Event.skipped?

/-- The run that fails at the first component that is left out. -/
def strict (r : Run α) : Run α :=
  match r.skipped with
  | [] => r
  | (kind, path) :: _ =>
    ⟨r.log.takeWhile fun e => e.skipped?.isNone, .error (.unknownComponent kind path)⟩

/-! ## Sequencing -/

theorem bind_of_ok {r : Run α} {a : α} (h : r.result = .ok a) (f : α → Run β) :
    r >>= f = ⟨r.log ++ (f a).log, (f a).result⟩ := by
  show Run.bind r f = _
  unfold Run.bind
  rw [h]

theorem skipped_bind {r : Run α} {a : α} (h : r.result = .ok a) (f : α → Run β) :
    (r >>= f).skipped = r.skipped ++ (f a).skipped := by
  rw [bind_of_ok h]
  exact List.filterMap_append

/-! ## Stopping -/

theorem strict_of_nil {r : Run α} (h : r.skipped = []) : r.strict = r := by
  unfold strict
  rw [h]

theorem strict_of_cons {r : Run α} {kind : String} {path : Path} {rest : List (String × Path)}
    (h : r.skipped = (kind, path) :: rest) :
    r.strict =
      ⟨r.log.takeWhile fun e => e.skipped?.isNone, .error (.unknownComponent kind path)⟩ := by
  unfold strict
  rw [h]

/-- A log without a component left out is kept whole. -/
theorem takeWhile_log_append {r : Run α} (h : r.skipped = []) (more : List Event) :
    (r.log ++ more).takeWhile (fun e => e.skipped?.isNone) =
      r.log ++ more.takeWhile fun e => e.skipped?.isNone := by
  refine List.takeWhile_append_of_pos fun e he => ?_
  rw [List.filterMap_eq_nil_iff.mp h e he]
  rfl

/-- A log with a component left out stops before anything that is added to it. -/
theorem takeWhile_log_append_of_ne_nil {r : Run α} (h : r.skipped ≠ []) (more : List Event) :
    (r.log ++ more).takeWhile (fun e => e.skipped?.isNone) =
      r.log.takeWhile fun e => e.skipped?.isNone := by
  rw [List.takeWhile_append, if_neg]
  intro hlen
  have hall := (List.takeWhile_prefix _).eq_of_length hlen
  refine h (List.filterMap_eq_nil_iff.mpr fun e he => ?_)
  exact Option.isNone_iff_eq_none.mp (List.takeWhile_eq_self_iff.mp hall e he)

/-- Stopping commutes with sequencing, if the first part comes to a value. -/
theorem strict_bind {r : Run α} {a : α} (h : r.result = .ok a) {f g : α → Run β}
    (hg : g a = (f a).strict) : (r >>= f).strict = r.strict >>= g := by
  have happ := skipped_bind h f
  -- either the first part stops, or all of it is kept and the second part decides
  rcases hr : r.skipped with _ | ⟨⟨kind, path⟩, rest⟩
  · rw [strict_of_nil hr, bind_of_ok h g, hg]
    rw [hr, List.nil_append] at happ
    rcases hf : (f a).skipped with _ | ⟨⟨kind, path⟩, rest⟩
    · rw [strict_of_nil (happ.trans hf), strict_of_nil hf, bind_of_ok h]
    · rw [strict_of_cons (happ.trans hf), strict_of_cons hf, bind_of_ok h]
      simp only [takeWhile_log_append hr]
  · rw [hr, List.cons_append] at happ
    rw [strict_of_cons happ, strict_of_cons hr, bind_of_ok h]
    simp only [takeWhile_log_append_of_ne_nil (r := r) (by rw [hr]; simp)]
    rfl

end Run

/-! ## What a part of the resolver yields -/

/-- The result of a run that comes to `a` and meets the components `us` without a place. -/
def Policy.outcome {α : Type} (p : Policy) (us : List (String × Path)) (a : α) :
    Except Failure α :=
  match p, us with
  | reject, (kind, path) :: _ => .error (.unknownComponent kind path)
  | _, _ => .ok a

/-- A run for each policy that comes to `a` and meets the components `us` without a place:
skipping leaves them out, and rejecting stops at the first. -/
structure Yields {α : Type} (run : Policy → Run α) (us : List (String × Path)) (a : α) : Prop where
  skip_result : (run .skip).result = .ok a
  skip_skipped : (run .skip).skipped = us
  reject_eq : run .reject = (run .skip).strict

namespace Yields

variable {α β : Type} {us vs : List (String × Path)} {a : α} {b : β}

/-- A run that is the same under both policies and leaves nothing out. -/
theorem of_plain {r : Run α} (hr : r.result = .ok a) (hs : r.skipped = []) :
    Yields (fun _ => r) [] a :=
  ⟨hr, hs, (Run.strict_of_nil hs).symm⟩

theorem pure (a : α) : Yields (fun _ => Pure.pure a) [] a := of_plain rfl rfl

theorem emit {e : Event} (h : e.skipped? = none) : Yields (fun _ => Run.emit e) [] () :=
  of_plain rfl (by simp [Run.emit, Run.skipped, h])

/-- Meeting a component without a place. -/
theorem unknown (kind : String) (path : Path) :
    Yields (fun p => p.unknown kind path) [(kind, path)] () :=
  ⟨rfl, rfl, rfl⟩

theorem bind {r : Policy → Run α} {f : Policy → α → Run β} (hr : Yields r us a)
    (hf : Yields (fun p => f p a) vs b) : Yields (fun p => r p >>= f p) (us ++ vs) b where
  skip_result := by
    rw [Run.bind_of_ok hr.skip_result]
    exact hf.skip_result
  skip_skipped := by rw [Run.skipped_bind hr.skip_result, hr.skip_skipped, hf.skip_skipped]
  reject_eq := by
    rw [Run.strict_bind hr.skip_result hf.reject_eq, hr.reject_eq]

/-- A last step that leaves nothing out. -/
theorem bind_plain {r : Policy → Run α} {f : Policy → α → Run β} (hr : Yields r us a)
    (hf : Yields (fun p => f p a) [] b) : Yields (fun p => r p >>= f p) us b := by
  have h := hr.bind hf
  rwa [List.append_nil] at h

/-- A first step that leaves nothing out. -/
theorem plain_bind {r : Policy → Run α} {f : Policy → α → Run β} (hr : Yields r [] a)
    (hf : Yields (fun p => f p a) vs b) : Yields (fun p => r p >>= f p) vs b :=
  hr.bind hf

/-- The result under either policy. -/
theorem result_eq {run : Policy → Run α} (h : Yields run us a) (p : Policy) :
    (run p).result = p.outcome us a := by
  cases p with
  | skip => exact h.skip_result
  | reject =>
    rw [h.reject_eq]
    rcases us with _ | ⟨⟨kind, path⟩, rest⟩
    · rw [Run.strict_of_nil h.skip_skipped]
      exact h.skip_result
    · rw [Run.strict_of_cons h.skip_skipped]
      rfl

/-- A run that succeeds comes to `a`, and under rejection it met nothing without a place. -/
theorem of_result {run : Policy → Run α} (h : Yields run us a) {p : Policy} {a' : α}
    (hp : (run p).result = .ok a') : a' = a ∧ (p = .reject → us = []) := by
  rw [h.result_eq p] at hp
  unfold Policy.outcome at hp
  split at hp
  · cases hp
  · rename_i hne
    cases hp
    refine ⟨rfl, fun hreject => ?_⟩
    rcases us with _ | ⟨⟨kind, path⟩, rest⟩
    · rfl
    · exact (hne kind path rest hreject rfl).elim

/-- A run that fails does so under rejection, at the first component without a place. -/
theorem of_failure {run : Policy → Run α} (h : Yields run us a) {p : Policy} {e : Failure}
    (hp : (run p).result = .error e) :
    p = .reject ∧ ∃ kind path rest, us = (kind, path) :: rest ∧
      e = .unknownComponent kind path := by
  rw [h.result_eq p] at hp
  unfold Policy.outcome at hp
  split at hp
  · rename_i kind path rest
    cases hp
    exact ⟨rfl, kind, path, rest, rfl, rfl⟩
  · cases hp

end Yields

end FlexLayout.Resolve
