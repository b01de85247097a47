import FlexLayout.Proofs.Json.Number
import FlexLayout.Proofs.Resolve.Outcome

/-!
# The envelope of a document

Two gates stand before a document: its type has to be `flex`, and its contents have to be a bubble
or a carousel. `json_result` says that there is nothing else. A document that passes both is always
resolved when components without a place are left out, whatever stands below the type of its
contents; any other document fails at the first gate that it does not pass.
-/

namespace FlexLayout

open NumberFormat (Plain)

/-! ## Discriminants -/

namespace Json

/-- A word that no JSON value but a string has as its discriminant. -/
def IsWord (w : String) : Prop :=
  ¬ Plain w ∧ w ∉ ["true", "false", Document.missingKind] ∧
    w.toList.head? ≠ some '[' ∧ w.toList.head? ≠ some '\x7b'

theorem isWord_flex : IsWord "flex" := by unfold IsWord; decide

theorem isWord_bubble : IsWord "bubble" := by unfold IsWord; decide

theorem isWord_carousel : IsWord "carousel" := by unfold IsWord; decide

theorem discriminant_string (s : String) : discriminant (some (.string s)) = s := rfl

/-- Only the string itself has a word as its discriminant. -/
theorem discriminant_eq_iff {w : String} (hw : IsWord w) {v : Option Json} :
    discriminant v = w ↔ v = some (.string w) := by
  obtain ⟨hplain, hmem, harray, hobject⟩ := hw
  refine ⟨fun h => ?_, fun h => by rw [h, discriminant_string]⟩
  subst h
  rcases v with _ | v
  · exact (hmem (by simp [discriminant])).elim
  · cases v with
    | null => exact (hmem (by simp [discriminant])).elim
    | bool b => cases b <;> exact (hmem (by decide)).elim
    | number n => exact (hplain (plain_writeNumber n)).elim
    | string s => rfl
    | array items => exact (harray (by simp [discriminant, canonical, compact])).elim
    | object fs => exact (hobject (by simp [discriminant, canonical, compact])).elim

end Json

/-! ## The two gates -/

namespace Document

/-- The alternative text is left out or a string. -/
def AltTextIsText (v : Json) : Prop :=
  ∀ a, v.field? "altText" = some a → ∃ s, a = .string s

/-- The first gate: an object of type `flex`. -/
def IsFlex (v : Json) : Prop :=
  v.isObject = true ∧ v.field? "type" = some (.string "flex")

/-- A value that can stand as the contents of a message. -/
def IsContainer (v : Json) : Prop :=
  v.isObject = true ∧
    (v.field? "type" = some (.string "bubble") ∨ v.field? "type" = some (.string "carousel"))

/-- The second gate: contents that are a bubble or a carousel. -/
def HoldsContainer (v : Json) : Prop := ∃ c, v.field? "contents" = some c ∧ IsContainer c

theorem isObject_of_field {v w : Json} {name : String} (h : v.field? name = some w) :
    v.isObject = true := by
  cases v with
  | object fs => rfl
  | _ => simp [Json.field?, Json.fields] at h

theorem field_of_not_isObject {v : Json} (h : v.isObject = false) (name : String) :
    v.field? name = none := by
  rcases hf : v.field? name with _ | w
  · rfl
  · rw [isObject_of_field hf] at h
    cases h

theorem Container.ofJson_bubble {v : Json} (h : v.field? "type" = some (.string "bubble")) :
    Container.ofJson v = .ok (.bubble (.ofFields v.fields)) := by
  unfold Container.ofJson
  rw [h, Json.discriminant_string]
  rfl

theorem Container.ofJson_carousel {v : Json} (h : v.field? "type" = some (.string "carousel")) :
    Container.ofJson v =
      .ok (.carousel ((((v.field? "contents").bind Json.items?).getD []).map Entry.ofJson)) := by
  unfold Container.ofJson
  rw [h, Json.discriminant_string]
  rfl

theorem Container.ofJson_of_not {v : Json} (h : ¬ IsContainer v) :
    Container.ofJson v = .error (.contentsType (Json.discriminant (v.field? "type"))) := by
  unfold Container.ofJson
  split
  · rename_i hd
    have hf := (Json.discriminant_eq_iff Json.isWord_bubble).mp hd
    exact (h ⟨isObject_of_field hf, .inl hf⟩).elim
  · rename_i hd
    have hf := (Json.discriminant_eq_iff Json.isWord_carousel).mp hd
    exact (h ⟨isObject_of_field hf, .inr hf⟩).elim
  · rfl

theorem Container.exists_ofJson {v : Json} (h : IsContainer v) :
    ∃ c, Container.ofJson v = .ok c := by
  rcases h.2 with hf | hf
  · exact ⟨_, Container.ofJson_bubble hf⟩
  · exact ⟨_, Container.ofJson_carousel hf⟩

theorem Message.exists_altTextOf {v : Json} (h : AltTextIsText v) :
    ∃ s, Message.altTextOf v = .ok s := by
  unfold Message.altTextOf
  rcases hf : v.field? "altText" with _ | a
  · exact ⟨"", rfl⟩
  · obtain ⟨s, rfl⟩ := h a hf
    exact ⟨s, rfl⟩

/-- A document that does not pass the first gate is refused for its type. -/
theorem Message.ofJson_of_not_isFlex {v : Json} (ha : AltTextIsText v) (h : ¬ IsFlex v) :
    Message.ofJson v = .error (.messageType (Json.discriminant (v.field? "type"))) := by
  unfold Message.ofJson
  by_cases hv : v.isObject = true
  · obtain ⟨s, hs⟩ := Message.exists_altTextOf ha
    rw [if_pos hv, hs]
    dsimp only [Bind.bind, Except.bind]
    split
    · rename_i hd
      exact (h ⟨hv, (Json.discriminant_eq_iff Json.isWord_flex).mp hd⟩).elim
    · rfl
  · rw [if_neg hv, field_of_not_isObject (by simpa using hv)]
    rfl

/-- Past the first gate only the contents are looked at. -/
theorem Message.ofJson_of_altTextOf {v : Json} {s : String} (hs : Message.altTextOf v = .ok s)
    (h : IsFlex v) : Message.ofJson v =
      (Container.ofJson ((v.field? "contents").getD .null)).map (Message.mk s) := by
  unfold Message.ofJson
  rw [if_pos h.1, hs, h.2, Json.discriminant_string]
  cases Container.ofJson ((v.field? "contents").getD .null) <;> rfl

theorem Message.ofJson_of_isFlex {v : Json} (ha : AltTextIsText v) (h : IsFlex v) :
    ∃ s, Message.ofJson v =
      (Container.ofJson ((v.field? "contents").getD .null)).map (Message.mk s) := by
  obtain ⟨s, hs⟩ := Message.exists_altTextOf ha
  exact ⟨s, Message.ofJson_of_altTextOf hs h⟩

/-- A document that passes the first gate only is refused for the type of its contents. -/
theorem Message.ofJson_of_not_holdsContainer {v : Json} (ha : AltTextIsText v) (hf : IsFlex v)
    (h : ¬ HoldsContainer v) :
    Message.ofJson v = .error
      (.contentsType (Json.discriminant ((v.field? "contents").bind (·.field? "type")))) := by
  obtain ⟨s, hs⟩ := Message.ofJson_of_isFlex ha hf
  rw [hs]
  rcases hc : v.field? "contents" with _ | c
  · rfl
  · rw [Option.getD_some, Container.ofJson_of_not fun hi => h ⟨c, hc, hi⟩]
    rfl

/-- A document that passes both gates is a message. -/
theorem Message.exists_ofJson {v : Json} (ha : AltTextIsText v) (hf : IsFlex v)
    (h : HoldsContainer v) : ∃ m, Message.ofJson v = .ok m := by
  obtain ⟨s, hs⟩ := Message.ofJson_of_isFlex ha hf
  obtain ⟨c, hc, hi⟩ := h
  obtain ⟨container, hcontainer⟩ := Container.exists_ofJson hi
  rw [hs, hc, Option.getD_some, hcontainer]
  exact ⟨_, rfl⟩

/-- A carousel with parts of unknown kinds and of wrong shapes. -/
def mixed : Json :=
  let typed (kind : String) (fs : Fields) : Json := .object (("type", .string kind) :: fs)
  typed "flex" [("contents", typed "carousel" [("contents", .array [
    typed "bubble" [
      ("size", .bool true),
      ("hero", .object [("type", .number (.int 7))]),
      ("body", typed "box" [("contents", .array [
        typed "text" [("maxLines", .string "two"),
          ("contents", .array [.null, typed "span" []])],
        typed "table" [],
        typed "video" [("altContent", typed "box" [("contents", .array [typed "filler" []])])]])])],
    typed "panel" []])])]

theorem mixed_altText : AltTextIsText mixed := by
  have hnone : mixed.field? "altText" = none := rfl
  intro a ha
  rw [hnone] at ha
  cases ha

theorem mixed_isFlex : IsFlex mixed := ⟨rfl, rfl⟩

theorem mixed_holdsContainer : HoldsContainer mixed := ⟨_, rfl, rfl, .inr rfl⟩

end Document

/-! ## Documents -/

namespace Resolve

open FlexLayout.Document (AltTextIsText IsFlex HoldsContainer)

theorem json_of_ok {v : Json} {m : Document.Message} (h : Document.Message.ofJson v = .ok m)
    (p : Policy) : json p v = message p m := by
  unfold json
  rw [h]

theorem json_of_error {v : Json} {fault : Document.Fault}
    (h : Document.Message.ofJson v = .error fault) (p : Policy) :
    (json p v).result = .error (.envelope fault) := by
  unfold json
  rw [h]
  rfl

/-- While components without a place are skipped, every document that can be read is resolved. -/
theorem json_skip_result {v : Json} {m : Document.Message} (h : Document.Message.ofJson v = .ok m) :
    (json .skip v).result = .ok (treeOf m) := by
  rw [json_of_ok h]
  exact (yields_message m).skip_result

/-- **The envelope.** With an alternative text that is left out or a string, a document is resolved
under skipping exactly if it passes both gates. A document that does not pass the first fails with
the discriminant of its type, and one that passes the first only with the discriminant of the type
of its contents, under either policy. A document that passes both can fail under rejection only,
and only for a component without a place. -/
theorem json_result (v : Json) (ha : AltTextIsText v) :
    ((∃ t, (json .skip v).result = .ok t) ↔ IsFlex v ∧ HoldsContainer v) ∧
      (¬ IsFlex v → ∀ p, (json p v).result =
        .error (.envelope (.messageType (Json.discriminant (v.field? "type"))))) ∧
      (v.isObject = false ∨ v.field? "type" = none ∨ v.field? "type" = some .null →
        Json.discriminant (v.field? "type") = "<missing>") ∧
      (IsFlex v → ¬ HoldsContainer v → ∀ p, (json p v).result =
        .error (.envelope (.contentsType
          (Json.discriminant ((v.field? "contents").bind (·.field? "type")))))) ∧
      (IsFlex v → HoldsContainer v → ∀ p e, (json p v).result = .error e →
        p = .reject ∧ ∃ kind path, e = .unknownComponent kind path) := by
  have htype : ¬ IsFlex v → ∀ p, (json p v).result =
      .error (.envelope (.messageType (Json.discriminant (v.field? "type")))) := fun hf p =>
    json_of_error (Document.Message.ofJson_of_not_isFlex ha hf) p
  have hcontents : IsFlex v → ¬ HoldsContainer v → ∀ p, (json p v).result =
      .error (.envelope (.contentsType
        (Json.discriminant ((v.field? "contents").bind (·.field? "type"))))) := fun hf hc p =>
    json_of_error (Document.Message.ofJson_of_not_holdsContainer ha hf hc) p
  refine ⟨⟨?_, ?_⟩, htype, ?_, hcontents, ?_⟩
  · rintro ⟨t, ht⟩
    by_cases hf : IsFlex v
    · by_cases hc : HoldsContainer v
      · exact ⟨hf, hc⟩
      · rw [hcontents hf hc] at ht
        cases ht
    · rw [htype hf] at ht
      cases ht
  · rintro ⟨hf, hc⟩
    obtain ⟨m, hm⟩ := Document.Message.exists_ofJson ha hf hc
    exact ⟨_, json_skip_result hm⟩
  · rintro (hv | hv | hv)
    · rw [Document.field_of_not_isObject hv]
      rfl
    · rw [hv]
      rfl
    · rw [hv]
      rfl
  · intro hf hc p e he
    obtain ⟨m, hm⟩ := Document.Message.exists_ofJson ha hf hc
    rw [json_of_ok hm] at he
    obtain ⟨hp, kind, path, rest, -, rfl⟩ := (yields_message m).of_failure he
    exact ⟨hp, kind, path, rfl⟩

/-- A sample whose parts have unknown kinds and wrong shapes. -/
theorem json_result_mixed :
    AltTextIsText Document.mixed ∧ ∃ t, (json .skip Document.mixed).result = .ok t := by
  have ha := Document.mixed_altText
  have hgates := And.intro Document.mixed_isFlex Document.mixed_holdsContainer
  exact ⟨ha, (json_result Document.mixed ha).1.mpr hgates⟩

end Resolve

end FlexLayout
