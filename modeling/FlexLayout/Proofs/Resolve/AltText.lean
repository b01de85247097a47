import FlexLayout.Proofs.Document.Edit
import FlexLayout.Proofs.Resolve.Envelope

/-!
# Failures of parsing

A failure is reported as one of parsing if its message says so. A text that is no JSON fails in this
way, and so does one document that is: a document whose alternative text is there but is no string.
It fails before anything else is looked at. No other part of a document is ever held to its shape
(`parsing_failure`).
-/

namespace FlexLayout.Resolve

open FlexLayout.Document (AltTextIsText IsFlex HoldsContainer)

/-! ## What is reported -/

/-- What the message of a failure of parsing starts with. -/
def parsingNotice : String := "Failed to parse flex message JSON"

/-- The failures whose message says that the document could not be parsed. -/
def Failure.IsParsing (e : Failure) : Prop := parsingNotice.toList <+: e.message.toList

theorem prefix_toList_append {cs : List Char} {a : String} (h : cs <+: a.toList) (b : String) :
    cs <+: (a ++ b).toList := by
  rw [String.toList_append]
  exact h.trans (List.prefix_append _ _)

theorem isParsing_altText (found : Json) : Failure.IsParsing (.envelope (.altText found)) :=
  prefix_toList_append (prefix_toList_append (by decide) _) _

/-- A message that starts with another letter says something else. -/
theorem not_isParsing_of_head {e : Failure} {c : Char} (h : [c] <+: e.message.toList)
    (hc : c ≠ 'F') : ¬ e.IsParsing := by
  intro hparsing
  have hletter : ['F'] <+: e.message.toList := List.IsPrefix.trans (by decide) hparsing
  have hsame := (List.prefix_of_prefix_length_le h hletter (le_refl 1)).eq_of_length rfl
  exact hc (List.cons.inj hsame).1

/-- Besides texts that are no JSON only alternative texts are reported in this way. -/
theorem isParsing_iff (e : Failure) :
    e.IsParsing ↔ e = .malformed ∨ ∃ found, e = .envelope (.altText found) := by
  constructor
  · intro h
    cases e with
    | malformed => exact .inl rfl
    | envelope fault =>
      cases fault with
      | altText found => exact .inr ⟨found, rfl⟩
      | messageType found =>
        have hhead : ['I'] <+: (Failure.envelope (.messageType found)).message.toList :=
          prefix_toList_append (prefix_toList_append (by decide) _) _
        exact absurd h (not_isParsing_of_head hhead (by decide))
      | contentsType found =>
        have hhead : ['I'] <+: (Failure.envelope (.contentsType found)).message.toList :=
          prefix_toList_append (prefix_toList_append (by decide) _) _
        exact absurd h (not_isParsing_of_head hhead (by decide))
    | unknownComponent kind path =>
      have hhead : ['C'] <+: (Failure.unknownComponent kind path).message.toList :=
        prefix_toList_append (prefix_toList_append (prefix_toList_append
          (prefix_toList_append (by decide) _) _) _) _
      exact absurd h (not_isParsing_of_head hhead (by decide))
  · rintro (rfl | ⟨found, rfl⟩)
    · exact List.prefix_refl _
    · exact isParsing_altText found

/-! ## Documents that are reported -/

/-- A run fails as one that could not be parsed. -/
def Unparsed {α : Type} (r : Run α) : Prop := ∃ e, r.result = .error e ∧ e.IsParsing

/-- An alternative text that is no string is found before anything else. -/
theorem json_of_altText {v a : Json} (ha : v.field? "altText" = some a)
    (hs : ∀ s, a ≠ .string s) (p : Policy) :
    (json p v).result = .error (.envelope (.altText a)) := by
  have hv : v.isObject = true := Document.isObject_of_field ha
  have halt : Document.Message.altTextOf v = .error (.altText a) := by
    unfold Document.Message.altTextOf
    rw [ha]
    cases a with
    | string s => exact absurd rfl (hs s)
    | _ => rfl
  apply json_of_error
  unfold Document.Message.ofJson
  rw [if_pos hv, halt]
  rfl

/-- With an alternative text that is left out or a string, only the gates can fail. -/
theorem fault_of_altTextIsText {v : Json} (ha : AltTextIsText v) {fault : Document.Fault}
    (h : Document.Message.ofJson v = .error fault) : ∀ found, fault ≠ .altText found := by
  rintro found rfl
  by_cases hf : IsFlex v
  · by_cases hc : HoldsContainer v
    · obtain ⟨m, hm⟩ := Document.Message.exists_ofJson ha hf hc
      rw [hm] at h
      cases h
    · rw [Document.Message.ofJson_of_not_holdsContainer ha hf hc] at h
      cases h
  · rw [Document.Message.ofJson_of_not_isFlex ha hf] at h
    cases h

theorem not_unparsed_json {v : Json} (ha : AltTextIsText v) (p : Policy) :
    ¬ Unparsed (json p v) := by
  rintro ⟨e, he, hparsing⟩
  rw [isParsing_iff] at hparsing
  rcases hm : Document.Message.ofJson v with fault | m
  · rw [json_of_error hm] at he
    cases he
    rcases hparsing with hmalformed | ⟨found, hfound⟩
    · cases hmalformed
    · exact fault_of_altTextIsText ha hm found (Failure.envelope.inj hfound)
  · rw [json_of_ok hm] at he
    obtain ⟨-, kind, path, rest, -, rfl⟩ := (yields_message m).of_failure he
    rcases hparsing with hmalformed | ⟨found, hfound⟩
    · cases hmalformed
    · cases hfound

theorem unparsed_json_iff (p : Policy) (v : Json) : Unparsed (json p v) ↔ ¬ AltTextIsText v := by
  constructor
  · intro h ha
    exact not_unparsed_json ha p h
  · intro h
    obtain ⟨a, ha⟩ := not_forall.mp h
    obtain ⟨ha, hs⟩ := Classical.not_imp.mp ha
    exact ⟨_, json_of_altText ha (fun s heq => hs ⟨s, heq⟩) p, isParsing_altText a⟩

theorem altTextIsText_withoutField (v : Json) : AltTextIsText (v.withoutField "altText") := by
  intro a ha
  rw [Json.field?_withoutField, if_pos rfl] at ha
  cases ha

/-- **Failures of parsing.** A text fails as one that cannot be parsed exactly if it is no JSON, or
is a document whose alternative text is there but is no string. Such a document fails under either
policy with what was found, whatever else it holds; without its alternative text it is never
reported in this way. -/
theorem parsing_failure (p : Policy) :
    (∀ s, Unparsed (text? p s) ↔
      Json.read? s = none ∨ ∃ v, Json.read? s = some v ∧ ¬ AltTextIsText v) ∧
    (∀ v, Unparsed (json p v) ↔ ¬ AltTextIsText v) ∧
    (∀ v a, v.field? "altText" = some a → (∀ s, a ≠ .string s) →
      (json p v).result = .error (.envelope (.altText a))) ∧
    ∀ v : Json, ¬ Unparsed (json p (v.withoutField "altText")) := by
  refine ⟨fun s => ?_, unparsed_json_iff p, fun v a ha hs => json_of_altText ha hs p, fun v => ?_⟩
  · unfold text?
    rcases Json.read? s with _ | v
    · have hmalformed : Unparsed (Run.fail .malformed : Run Tree.Message) :=
        ⟨_, rfl, (isParsing_iff _).mpr (.inl rfl)⟩
      exact ⟨fun _ => .inl rfl, fun _ => hmalformed⟩
    · rw [unparsed_json_iff]
      constructor
      · intro h
        exact .inr ⟨v, rfl, h⟩
      · rintro (h | ⟨w, hw, h⟩)
        · cases h
        · cases hw
          exact h
  · exact not_unparsed_json (altTextIsText_withoutField v) p

/-- A bubble whose alternative text is a number. -/
def numbered : Json :=
  .object [("type", .string "flex"), ("altText", .number (.int 5)),
    ("contents", .object [("type", .string "bubble")])]

/-- It is reported as a document that cannot be parsed, though it is resolved without its
alternative text. -/
theorem numbered_unparsed :
    (∃ e, (json .skip numbered).result = .error e ∧ e.IsParsing) ∧
      ∃ t, (json .skip (numbered.withoutField "altText")).result = .ok t := by
  have ha : numbered.field? "altText" = some (.number (.int 5)) := rfl
  obtain ⟨m, hm⟩ : ∃ m, Document.Message.ofJson (numbered.withoutField "altText") = .ok m :=
    ⟨_, rfl⟩
  have herror := json_of_altText ha (fun s hs => nomatch hs) .skip
  exact ⟨⟨_, herror, isParsing_altText _⟩, treeOf m, json_skip_result hm⟩

end FlexLayout.Resolve
