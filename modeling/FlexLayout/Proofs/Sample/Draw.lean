import FlexLayout.Sample.Dice

/-!
# What a draw comes to

A statement about all samples is a statement about all dice. `Always` says it of one draw, and it
passes through sequencing: what is drawn first is known only by its own statement, so a generator
is taken apart draw by draw, without ever looking at a number.
-/

namespace FlexLayout.Sample

/-- However the dice fall, the draw comes to a value of which `P` holds. -/
def Always {α : Type} (d : Draw α) (P : α → Prop) : Prop := ∀ dice, P (d dice).1

namespace Always

open Draw

variable {α β : Type} {P Q : α → Prop} {R : β → Prop}

/-! ## Sequencing -/

theorem pure {a : α} (h : P a) : Always (Pure.pure a) P := fun _ => h

theorem bind {d : Draw α} {f : α → Draw β} (hd : Always d P)
    (hf : ∀ a, P a → Always (f a) R) : Always (d >>= f) R := fun dice =>
  hf _ (hd dice) (d dice).2

/-- What is drawn first does not matter. -/
theorem after {d : Draw α} {f : α → Draw β} (hf : ∀ a, Always (f a) R) : Always (d >>= f) R :=
  fun dice => hf _ (d dice).2

theorem imp {d : Draw α} (hd : Always d P) (h : ∀ a, P a → Q a) : Always d Q := fun dice =>
  h _ (hd dice)

/-! ## Choices -/

theorem below {n : Nat} (h : 0 < n) : Always (Draw.below n) (· < n) := fun _ => Nat.mod_lt _ h

theorem between {low high : Nat} (h : low ≤ high) :
    Always (Draw.between low high) fun n => low ≤ n ∧ n ≤ high := by
  have hroom : 0 < high + 1 - low := by omega
  refine bind (below hroom) fun n hn => pure ?_
  omega

/-- As many values as were asked for, each drawn in the same way. -/
theorem many {d : Draw α} (hd : Always d P) (n : Nat) :
    Always (Draw.many n d) fun as => as.length = n ∧ ∀ a ∈ as, P a := by
  induction n with
  | zero => exact pure ⟨rfl, List.forall_mem_nil P⟩
  | succ n ih =>
    refine bind hd fun a ha => bind ih fun as has => pure ⟨?_, ?_⟩
    · rw [List.length_cons, has.1]
    · exact List.forall_mem_cons.mpr ⟨ha, has.2⟩

theorem maybe {d : Draw α} (hd : Always d P) (percent : Nat) :
    Always (Draw.maybe percent d) fun a => ∀ x ∈ a, P x := by
  refine after fun drawn => ?_
  split
  · refine bind hd fun a ha => pure fun x hx => ?_
    cases hx
    exact ha
  · exact pure fun x hx => by cases hx

end Always

end FlexLayout.Sample
