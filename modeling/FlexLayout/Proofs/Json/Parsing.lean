import FlexLayout.Proofs.Json.Scanning

/-!
# Reading a value back

The tokens of a value, read where a value is expected, put the value in its place, with every
number reread: `foldlM_tokens` says so for every stack of open containers that leaves room for the
value. With the scanning of written text this gives `readFields?_pretty`: whatever fields are asked
for, a text that was written from a value whose numbers read back is read as that value.
-/

namespace FlexLayout.Json

mutual

/-- The number of arrays and objects that stand in each other. -/
def depth : Json → Nat
  | array items => itemDepth items + 1
  | object fs => fieldDepth fs + 1
  | _ => 0

def itemDepth : List Json → Nat
  | [] => 0
  | v :: rest => max (depth v) (itemDepth rest)

def fieldDepth : List (String × Json) → Nat
  | [] => 0
  | (_, v) :: rest => max (depth v) (fieldDepth rest)

end

theorem itemDepth_le {items : List Json} {d : Nat} :
    itemDepth items ≤ d ↔ ∀ v ∈ items, v.depth ≤ d := by
  induction items with
  | nil => simp [itemDepth]
  | cons v rest ih => rw [itemDepth, Nat.max_le, ih, List.forall_mem_cons]

theorem fieldDepth_le {fs : List (String × Json)} {d : Nat} :
    fieldDepth fs ≤ d ↔ ∀ f ∈ fs, f.2.depth ≤ d := by
  induction fs with
  | nil => simp [fieldDepth]
  | cons f rest ih => rw [fieldDepth, Nat.max_le, ih, List.forall_mem_cons]

/-- The number that stands for a number in a text that was written and read. -/
def reread (n : Number) : Number := (reread? n).getD n

mutual

/-- The value with every number reread. -/
def rereadAll : Json → Json
  | number n => number (reread n)
  | array items => array (rereadItems items)
  | object fs => object (rereadFields fs)
  | v => v

def rereadItems : List Json → List Json
  | [] => []
  | v :: rest => rereadAll v :: rereadItems rest

def rereadFields : List (String × Json) → List (String × Json)
  | [] => []
  | (k, v) :: rest => (k, rereadAll v) :: rereadFields rest

end

namespace Reader

variable {keep : String → Bool} {stack : List Frame}

/-- A value may come next. -/
def TakesValue (e : Expected) : Prop := e = .value ∨ e = .valueOrEnd

/-- The name of a field may come next. -/
def TakesName (e : Expected) : Prop := e = .name ∨ e = .nameOrEnd

theorem step_value {e : Expected} (he : TakesValue e) {t : Token} (ht : t ≠ .closeArray) :
    step keep ⟨stack, e⟩ t = value (skips keep ⟨stack, e⟩) stack t := by
  rcases he with rfl | rfl
  · rfl
  · exact if_neg ht

theorem step_name {e : Expected} (he : TakesName e) (fs : List (String × Json)) (k : String) :
    step keep ⟨.object fs none :: stack, e⟩ (.string (some k)) =
      some ⟨.object fs (some k) :: stack, .colon⟩ := by
  rcases he with rfl | rfl
  · rfl
  · rfl

/-- An array opens while there is room for one more container. -/
theorem step_openArray {e : Expected} (he : TakesValue e) (h : stack.length < maxNesting) :
    step keep ⟨stack, e⟩ .openArray = some ⟨.array [] :: stack, .valueOrEnd⟩ := by
  rw [step_value he (by decide), value, if_pos (by simp [h])]

theorem step_openObject {e : Expected} (he : TakesValue e) (h : stack.length < maxNesting) :
    step keep ⟨stack, e⟩ .openObject = some ⟨.object [] none :: stack, .nameOrEnd⟩ := by
  rw [step_value he (by decide), value, if_pos (by simp [h])]

theorem step_number {e : Expected} (he : TakesValue e) {n : Number}
    (h : (reread? n).isSome = true) :
    step keep ⟨stack, e⟩ (numberToken n) = put (.number (reread n)) stack := by
  obtain ⟨x, hx⟩ := Option.isSome_iff_exists.mp h
  obtain ⟨m, hm, hvalue⟩ := numberToken_eq hx
  unfold reread
  rw [hm, step_value he (by rintro ⟨⟩), value, hvalue, hx, Option.getD_some]

end Reader

open Reader (TakesValue TakesName)

theorem itemTokens_ne_nil {items : List Json} (h : items ≠ []) : itemTokens items ≠ [] := by
  obtain ⟨v, rest, rfl⟩ := List.exists_cons_of_ne_nil h
  rintro ⟨⟩

theorem fieldTokens_ne_nil {fs : List (String × Json)} (h : fs ≠ []) : fieldTokens fs ≠ [] := by
  obtain ⟨f, rest, rfl⟩ := List.exists_cons_of_ne_nil h
  rintro ⟨⟩

mutual

/-- Where a value is expected, the tokens of a value put it in its place, reread. -/
theorem foldlM_tokens (keep : String → Bool) : ∀ (v : Json) (stack : List Frame) (e : Expected),
    TakesValue e → v.Legible → stack.length + v.depth ≤ maxNesting →
    v.tokens.foldlM (Reader.step keep) ⟨stack, e⟩ = Reader.put v.rereadAll stack
  | .null, stack, e, he, _, _ => by
    rw [tokens, List.foldlM_cons, Reader.step_value he (by decide)]
    exact bind_pure _
  | .bool b, stack, e, he, _, _ => by
    rw [tokens, List.foldlM_cons, Reader.step_value he (by rintro ⟨⟩)]
    exact bind_pure _
  | .number n, stack, e, he, h, _ => by
    rw [tokens, List.foldlM_cons, Reader.step_number he (h n List.mem_cons_self)]
    exact bind_pure _
  | .string s, stack, e, he, _, _ => by
    rw [tokens, List.foldlM_cons, Reader.step_value he (by rintro ⟨⟩)]
    exact bind_pure _
  | .array items, stack, e, he, h, hdepth => by
    rw [depth] at hdepth
    rw [tokens, List.cons_append, List.foldlM_cons, Reader.step_openArray he (by omega),
      Option.bind_eq_bind, Option.bind_some]
    by_cases hne : items = []
    · subst hne
      exact bind_pure _
    · exact foldlM_items keep items [] stack .valueOrEnd (.inr rfl) hne h (by omega)
  | .object fs, stack, e, he, h, hdepth => by
    rw [depth] at hdepth
    rw [tokens, List.cons_append, List.foldlM_cons, Reader.step_openObject he (by omega),
      Option.bind_eq_bind, Option.bind_some]
    by_cases hne : fs = []
    · subst hne
      exact bind_pure _
    · exact foldlM_fields keep fs [] stack .nameOrEnd (.inr rfl) hne h (by omega)
termination_by structural v => v

/-- The items of an array, up to its end. -/
theorem foldlM_items (keep : String → Bool) : ∀ (items acc : List Json) (stack : List Frame)
    (e : Expected), TakesValue e → items ≠ [] →
    (∀ n ∈ itemNumbers items, (reread? n).isSome = true) →
    stack.length + 1 + itemDepth items ≤ maxNesting →
    ([Token.comma].intercalate (itemTokens items) ++ [Token.closeArray]).foldlM
      (Reader.step keep) ⟨.array acc :: stack, e⟩ =
        Reader.put (.array (acc.reverse ++ rereadItems items)) stack
  | [], _, _, _, _, hne, _, _ => (hne rfl).elim
  | v :: rest, acc, stack, e, he, _, h, hdepth => by
    rw [itemDepth] at hdepth
    have hv := foldlM_tokens keep v (.array acc :: stack) e he
      (fun n hn => h n (List.mem_append_left _ hn)) (by rw [List.length_cons]; omega)
    by_cases hne : rest = []
    · subst hne
      rw [itemTokens, itemTokens, List.intercalate_singleton, List.foldlM_append, hv,
        rereadItems, rereadItems, ← List.reverse_cons]
      exact bind_pure (Reader.put (.array (v.rereadAll :: acc).reverse) stack)
    · have hrest := foldlM_items keep rest (v.rereadAll :: acc) stack .value (.inl rfl) hne
        (fun n hn => h n (List.mem_append_right _ hn)) (by omega)
      rw [List.reverse_cons, List.append_assoc] at hrest
      rw [itemTokens, List.intercalate_cons_of_ne_nil (itemTokens_ne_nil hne), List.append_assoc,
        List.append_assoc, List.foldlM_append, hv]
      exact hrest
termination_by structural items => items

/-- The fields of an object, up to its end. -/
theorem foldlM_fields (keep : String → Bool) : ∀ (fs acc : List (String × Json))
    (stack : List Frame) (e : Expected), TakesName e → fs ≠ [] →
    (∀ n ∈ fieldNumbers fs, (reread? n).isSome = true) →
    stack.length + 1 + fieldDepth fs ≤ maxNesting →
    ([Token.comma].intercalate (fieldTokens fs) ++ [Token.closeObject]).foldlM
      (Reader.step keep) ⟨.object acc none :: stack, e⟩ =
        Reader.put (.object (acc.reverse ++ rereadFields fs)) stack
  | [], _, _, _, _, hne, _, _ => (hne rfl).elim
  | (k, v) :: rest, acc, stack, e, he, _, h, hdepth => by
    rw [fieldDepth] at hdepth
    have hv := foldlM_tokens keep v (.object acc (some k) :: stack) .value (.inl rfl)
      (fun n hn => h n (List.mem_append_left _ hn)) (by rw [List.length_cons]; omega)
    have hfield : (Token.string (some k) :: .colon :: v.tokens).foldlM (Reader.step keep)
        ⟨.object acc none :: stack, e⟩ =
          some ⟨.object ((k, v.rereadAll) :: acc) none :: stack, .commaOrEnd⟩ := by
      rw [List.foldlM_cons, Reader.step_name he]
      exact hv
    by_cases hne : rest = []
    · subst hne
      rw [fieldTokens, fieldTokens, List.intercalate_singleton, List.foldlM_append, hfield,
        rereadFields, rereadFields, ← List.reverse_cons]
      exact bind_pure (Reader.put (.object ((k, v.rereadAll) :: acc).reverse) stack)
    · have hrest := foldlM_fields keep rest ((k, v.rereadAll) :: acc) stack .name (.inl rfl) hne
        (fun n hn => h n (List.mem_append_right _ hn)) (by omega)
      rw [List.reverse_cons, List.append_assoc] at hrest
      rw [fieldTokens, List.intercalate_cons_of_ne_nil (fieldTokens_ne_nil hne),
        List.append_assoc, List.append_assoc, List.foldlM_append, hfield]
      exact hrest
termination_by structural fs => fs

end

/-- The tokens of a value are read as the value with its numbers reread. -/
theorem ofTokens?_tokens (keep : String → Bool) {v : Json} (h : v.Legible)
    (hdepth : v.depth ≤ maxNesting) : ofTokens? keep v.tokens = some v.rereadAll := by
  unfold ofTokens? Reader.start
  rw [foldlM_tokens keep v [] .value (.inl rfl) h (by simpa using hdepth)]
  rfl

/-- The text of a legible value that is not nested too deeply is read as the value with its numbers
reread. -/
theorem readFields?_pretty_of_legible (names : List String) {v : Json} (h : v.Legible)
    (hdepth : v.depth ≤ maxNesting) : readFields? names v.pretty = some v.rereadAll := by
  unfold readFields?
  rw [scan_pretty h, Option.bind_some]
  exact ofTokens?_tokens _ h hdepth

/-! ## Numbers that read back -/

/-- Every number in the value reads back. -/
def Readable (v : Json) : Prop := ∀ n ∈ v.numbers, Rereads n

theorem Readable.legible {v : Json} (h : v.Readable) : v.Legible := fun n hn => by
  rw [(h n hn).reread?_eq]
  rfl

mutual

theorem Readable.rereadAll_eq : ∀ v : Json, v.Readable → v.rereadAll = v
  | .null, _ | .bool _, _ | .string _, _ => rfl
  | .number n, h => by
    rw [rereadAll, reread, (h n List.mem_cons_self).reread?_eq, Option.getD_some]
  | .array items, h => by rw [rereadAll, rereadItems_eq items h]
  | .object fs, h => by rw [rereadAll, rereadFields_eq fs h]

theorem rereadItems_eq : ∀ items : List Json, (∀ n ∈ itemNumbers items, Rereads n) →
    rereadItems items = items
  | [], _ => rfl
  | v :: rest, h => by
    rw [rereadItems, Readable.rereadAll_eq v fun n hn => h n (List.mem_append_left _ hn),
      rereadItems_eq rest fun n hn => h n (List.mem_append_right _ hn)]

theorem rereadFields_eq : ∀ fs : List (String × Json), (∀ n ∈ fieldNumbers fs, Rereads n) →
    rereadFields fs = fs
  | [], _ => rfl
  | (k, v) :: rest, h => by
    rw [rereadFields, Readable.rereadAll_eq v fun n hn => h n (List.mem_append_left _ hn),
      rereadFields_eq rest fun n hn => h n (List.mem_append_right _ hn)]

end

/-- **Reading back.** The text of a value is read as the value, whatever fields are asked for, if
its numbers read back and it is not nested too deeply. -/
theorem readFields?_pretty (names : List String) {v : Json} (h : v.Readable)
    (hdepth : v.depth ≤ maxNesting) : readFields? names v.pretty = some v := by
  rw [readFields?_pretty_of_legible names h.legible hdepth, Readable.rereadAll_eq v h]

/-- A text is read as a whole with its fields sorted. -/
theorem read?_pretty {v : Json} (h : v.Readable) (hdepth : v.depth ≤ maxNesting) :
    read? v.pretty = some (canonical v) := by
  unfold read?
  rw [scan_pretty h.legible, Option.bind_some, ofTokens?_tokens _ h.legible hdepth,
    Readable.rereadAll_eq v h, Option.map_some]

end FlexLayout.Json
