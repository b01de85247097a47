import FlexLayout.Proofs.Json.Parsing

/-!
# Values nested too deeply

A container opens only while there is room for it on the stack. So a value that does not fit is
refused at the first container without room, unless it stands in a field that is skipped:
`readFields?_pretty_deep` is the counterpart of reading a value that fits.
-/

namespace FlexLayout.Json

namespace Reader

variable {keep : String → Bool} {stack : List Frame}

/-- No container below is a field that is skipped. -/
def Strict (keep : String → Bool) (stack : List Frame) : Prop :=
  ∀ e, skips keep ⟨stack, e⟩ = false

/-- Whether fields are skipped is settled by the outermost container. -/
theorem Strict.cons (h : Strict keep stack) (hne : stack ≠ []) (f : Frame) :
    Strict keep (f :: stack) := by
  intro e
  have hlast : (f :: stack).getLast? = stack.getLast? := by
    obtain ⟨g, rest, rfl⟩ := List.exists_cons_of_ne_nil hne
    rw [List.getLast?_cons_cons]
  unfold skips
  rw [hlast]
  exact h e

theorem strict_field {name : String} (h : keep name = true) (fs : List (String × Json)) :
    Strict keep [.object fs (some name)] := by
  intro e
  show (!keep name) = false
  rw [h]
  rfl

/-- Without room for one more container no array opens. -/
theorem step_openArray_of_full {e : Expected} (he : TakesValue e) (hs : Strict keep stack)
    (h : maxNesting ≤ stack.length) : step keep ⟨stack, e⟩ .openArray = none := by
  rw [step_value he (by decide), hs e, value, if_neg (by simp [h])]

theorem step_openObject_of_full {e : Expected} (he : TakesValue e) (hs : Strict keep stack)
    (h : maxNesting ≤ stack.length) : step keep ⟨stack, e⟩ .openObject = none := by
  rw [step_value he (by decide), hs e, value, if_neg (by simp [h])]

end Reader

open Reader (TakesValue TakesName Strict)

theorem exists_intercalate_cons (ts : List Token) (tss : List (List Token)) :
    ∃ rest, [Token.comma].intercalate (ts :: tss) = ts ++ rest := by
  by_cases hne : tss = []
  · subst hne
    exact ⟨[], by rw [List.intercalate_singleton, List.append_nil]⟩
  · exact ⟨_, by rw [List.intercalate_cons_of_ne_nil hne, List.append_assoc]⟩

mutual

/-- Where a value is expected that there is no room for, the tokens of the value are refused. -/
theorem foldlM_tokens_deep (keep : String → Bool) : ∀ (v : Json) (stack : List Frame)
    (e : Expected), TakesValue e → v.Legible → Strict keep stack → stack ≠ [] →
    stack.length ≤ maxNesting → maxNesting < stack.length + v.depth →
    v.tokens.foldlM (Reader.step keep) ⟨stack, e⟩ = none
  | .null, stack, _, _, _, _, _, hle, hlt | .bool _, stack, _, _, _, _, _, hle, hlt
  | .number _, stack, _, _, _, _, _, hle, hlt | .string _, stack, _, _, _, _, _, hle, hlt =>
    absurd hlt (Nat.not_lt.mpr hle)
  | .array items, stack, e, he, h, hs, hne, hle, hlt => by
    rw [depth] at hlt
    rw [tokens, List.cons_append, List.foldlM_cons]
    by_cases hroom : stack.length < maxNesting
    · rw [Reader.step_openArray he hroom, Option.bind_eq_bind, Option.bind_some]
      exact foldlM_items_deep keep items [] stack .valueOrEnd (.inr rfl) h hs hne hroom (by omega)
    · rw [Reader.step_openArray_of_full he hs (by omega)]
      rfl
  | .object fs, stack, e, he, h, hs, hne, hle, hlt => by
    rw [depth] at hlt
    rw [tokens, List.cons_append, List.foldlM_cons]
    by_cases hroom : stack.length < maxNesting
    · rw [Reader.step_openObject he hroom, Option.bind_eq_bind, Option.bind_some]
      exact foldlM_fields_deep keep fs [] stack .nameOrEnd (.inr rfl) h
        (fun f _ acc => hs.cons hne _) hroom (by omega)
    · rw [Reader.step_openObject_of_full he hs (by omega)]
      rfl
termination_by structural v => v

/-- The first item that does not fit is refused. -/
theorem foldlM_items_deep (keep : String → Bool) : ∀ (items acc : List Json)
    (stack : List Frame) (e : Expected), TakesValue e →
    (∀ n ∈ itemNumbers items, (reread? n).isSome = true) → Strict keep stack → stack ≠ [] →
    stack.length < maxNesting → maxNesting < stack.length + 1 + itemDepth items →
    ([Token.comma].intercalate (itemTokens items) ++ [Token.closeArray]).foldlM
      (Reader.step keep) ⟨.array acc :: stack, e⟩ = none
  | [], _, stack, _, _, _, _, _, hroom, hlt => absurd hlt (Nat.not_lt.mpr hroom)
  | v :: rest, acc, stack, e, he, h, hs, hne, hroom, hlt => by
    have hv : v.Legible := fun n hn => h n (List.mem_append_left _ hn)
    rw [itemDepth] at hlt
    by_cases hdeep : maxNesting < stack.length + 1 + v.depth
    · obtain ⟨ts, hts⟩ := exists_intercalate_cons v.tokens (itemTokens rest)
      have hnone := foldlM_tokens_deep keep v (.array acc :: stack) e he hv (hs.cons hne _)
        (List.cons_ne_nil _ _) (by rw [List.length_cons]; omega) (by rw [List.length_cons]; omega)
      rw [itemTokens, hts, List.append_assoc, List.foldlM_append, hnone]
      rfl
    · have hput := foldlM_tokens keep v (.array acc :: stack) e he hv
        (by rw [List.length_cons]; omega)
      have hrest : rest ≠ [] := by
        rintro rfl
        rw [itemDepth] at hlt
        omega
      have hnone := foldlM_items_deep keep rest (v.rereadAll :: acc) stack .value (.inl rfl)
        (fun n hn => h n (List.mem_append_right _ hn)) hs hne hroom (by omega)
      rw [itemTokens, List.intercalate_cons_of_ne_nil (itemTokens_ne_nil hrest),
        List.append_assoc, List.append_assoc, List.foldlM_append, hput]
      exact hnone
termination_by structural items => items

/-- The first field whose value does not fit is refused, if none is skipped. -/
theorem foldlM_fields_deep (keep : String → Bool) : ∀ (fs acc : List (String × Json))
    (stack : List Frame) (e : Expected), TakesName e →
    (∀ n ∈ fieldNumbers fs, (reread? n).isSome = true) →
    (∀ f ∈ fs, ∀ acc, Strict keep (.object acc (some f.1) :: stack)) →
    stack.length < maxNesting → maxNesting < stack.length + 1 + fieldDepth fs →
    ([Token.comma].intercalate (fieldTokens fs) ++ [Token.closeObject]).foldlM
      (Reader.step keep) ⟨.object acc none :: stack, e⟩ = none
  | [], _, stack, _, _, _, _, hroom, hlt => absurd hlt (Nat.not_lt.mpr hroom)
  | (k, v) :: rest, acc, stack, e, he, h, hs, hroom, hlt => by
    have hv : v.Legible := fun n hn => h n (List.mem_append_left _ hn)
    rw [fieldDepth] at hlt
    have hname : ∀ ts, (Token.string (some k) :: .colon :: ts).foldlM (Reader.step keep)
        ⟨.object acc none :: stack, e⟩ =
          ts.foldlM (Reader.step keep) ⟨.object acc (some k) :: stack, .value⟩ := by
      intro ts
      rw [List.foldlM_cons, Reader.step_name he]
      rfl
    by_cases hdeep : maxNesting < stack.length + 1 + v.depth
    · obtain ⟨ts, hts⟩ :=
        exists_intercalate_cons (.string (some k) :: .colon :: v.tokens) (fieldTokens rest)
      have hnone := foldlM_tokens_deep keep v (.object acc (some k) :: stack) .value (.inl rfl) hv
        (hs (k, v) List.mem_cons_self acc) (List.cons_ne_nil _ _)
        (by rw [List.length_cons]; omega) (by rw [List.length_cons]; omega)
      rw [fieldTokens, hts, List.append_assoc, List.foldlM_append, hname, hnone]
      rfl
    · have hput := foldlM_tokens keep v (.object acc (some k) :: stack) .value (.inl rfl) hv
        (by rw [List.length_cons]; omega)
      have hrest : rest ≠ [] := by
        rintro rfl
        rw [fieldDepth] at hlt
        omega
      have hnone := foldlM_fields_deep keep rest ((k, v.rereadAll) :: acc) stack .name (.inl rfl)
        (fun n hn => h n (List.mem_append_right _ hn))
        (fun f hf => hs f (List.mem_cons_of_mem _ hf)) hroom (by omega)
      rw [fieldTokens, List.intercalate_cons_of_ne_nil (fieldTokens_ne_nil hrest),
        List.append_assoc, List.append_assoc, List.foldlM_append, hname, hput]
      exact hnone
termination_by structural fs => fs

end

/-- **Depth.** The text of a legible object that is nested too deeply is not read when all of its
fields are asked for. -/
theorem readFields?_pretty_deep {names : List String} {fs : List (String × Json)}
    (h : (object fs).Legible) (hnames : ∀ f ∈ fs, f.1 ∈ names)
    (hdepth : maxNesting < (object fs).depth) : readFields? names (object fs).pretty = none := by
  have hkeep : ∀ f ∈ fs, ∀ acc, Strict names.contains [.object acc (some f.1)] := fun f hf acc =>
    Reader.strict_field (List.contains_iff_mem.mpr (hnames f hf)) acc
  rw [depth] at hdepth
  unfold readFields?
  rw [scan_pretty h, Option.bind_some]
  unfold ofTokens? Reader.start
  rw [tokens, List.cons_append, List.foldlM_cons, Reader.step_openObject (.inl rfl) (by decide),
    Option.bind_eq_bind, Option.bind_some,
    foldlM_fields_deep _ fs [] [] .nameOrEnd (.inr rfl) h hkeep (by decide)
    (by rw [List.length_nil]; omega)]
  rfl

end FlexLayout.Json
