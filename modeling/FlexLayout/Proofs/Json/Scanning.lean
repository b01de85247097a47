import FlexLayout.Proofs.Json.Numeral
import Mathlib.Data.List.Forall2

/-!
# Scanning written text

The text of a value scans to the tokens of the value. Two notions carry the proof, both about
reading a text between tokens: a text that `Closes` leaves the reader between tokens again, and a
text that `Writes` may leave it in a word, which ends as soon as a character that belongs to no
word follows. Strings, blanks and punctuation close; literals and numbers only write.
-/

namespace FlexLayout.Json

/-! ## Tokens of values -/

mutual

/-- The tokens that a value is written with. -/
def tokens : Json → List Token
  | null => [.null]
  | bool b => [.bool b]
  | number n => [numberToken n]
  | string s => [.string (some s)]
  | array items => .openArray :: [Token.comma].intercalate (itemTokens items) ++ [.closeArray]
  | object fs => .openObject :: [Token.comma].intercalate (fieldTokens fs) ++ [.closeObject]

def itemTokens : List Json → List (List Token)
  | [] => []
  | v :: rest => tokens v :: itemTokens rest

def fieldTokens : List (String × Json) → List (List Token)
  | [] => []
  | (k, v) :: rest => (.string (some k) :: .colon :: tokens v) :: fieldTokens rest

end

mutual

/-- The numbers in a value. -/
def numbers : Json → List Number
  | number n => [n]
  | array items => itemNumbers items
  | object fs => fieldNumbers fs
  | _ => []

def itemNumbers : List Json → List Number
  | [] => []
  | v :: rest => numbers v ++ itemNumbers rest

def fieldNumbers : List (String × Json) → List Number
  | [] => []
  | (_, v) :: rest => numbers v ++ fieldNumbers rest

end

/-- Every number in the value is written in a way that can be read. -/
def Legible (v : Json) : Prop := ∀ n ∈ v.numbers, (reread? n).isSome = true

namespace Token

/-! ## Between tokens -/

/-- The tokens read, last first, at a place where a token may end. -/
def settle : State → Option (List Token)
  | (.between, read) => some read
  | (.word letters, read) => (ofWord? letters.reverse).map (· :: read)
  | _ => none

theorem finish_of_settle {s : State} {read : List Token} (h : settle s = some read) :
    finish s = some read.reverse := by
  obtain ⟨mode, ts⟩ := s
  cases mode with
  | between =>
    cases h
    rfl
  | word letters =>
    obtain ⟨t, ht, rfl⟩ := Option.map_eq_some_iff.mp h
    rw [finish, ht, Option.map_some]
  | _ => cases h

/-- A character that belongs to no word is read as between tokens. -/
theorem step_of_settle {s : State} {read : List Token} (h : settle s = some read) {c : Char}
    (hc : isWordChar c = false) : step s c = step (.between, read) c := by
  obtain ⟨mode, ts⟩ := s
  cases mode with
  | between =>
    cases h
    rfl
  | word letters =>
    obtain ⟨t, ht, rfl⟩ := Option.map_eq_some_iff.mp h
    show (if isWordChar c then _ else (ofWord? letters.reverse).bind fun t => begin (t :: ts) c) =
      begin (t :: ts) c
    rw [hc, if_neg Bool.false_ne_true, ht, Option.bind_some]
  | _ => cases h

/-- Read between tokens, the text comes to the tokens `ts` and may end in the last of them. -/
def Writes (cs : List Char) (ts : List Token) : Prop :=
  ∀ read, ∃ s, cs.foldlM step (.between, read) = some s ∧ settle s = some (ts.reverse ++ read)

/-- Read between tokens, the text comes to the tokens `ts` and ends between tokens. -/
def Closes (cs : List Char) (ts : List Token) : Prop :=
  ∀ read, cs.foldlM step (.between, read) = some (.between, ts.reverse ++ read)

variable {cs cs' : List Char} {ts ts' : List Token}

theorem Closes.writes (h : Closes cs ts) : Writes cs ts := fun read => ⟨_, h read, rfl⟩

theorem Writes.scan (h : Writes cs ts) : scan cs = some ts := by
  obtain ⟨s, hs, hsettle⟩ := h []
  unfold Token.scan start
  rw [hs, Option.bind_some, finish_of_settle hsettle, List.append_nil, List.reverse_reverse]

theorem Closes.append_writes (h : Closes cs ts) (h' : Writes cs' ts') :
    Writes (cs ++ cs') (ts ++ ts') := by
  intro read
  obtain ⟨s, hs, hsettle⟩ := h' (ts.reverse ++ read)
  refine ⟨s, ?_, by rw [hsettle, List.reverse_append, List.append_assoc]⟩
  rw [List.foldlM_append, h read]
  exact hs

theorem Closes.append (h : Closes cs ts) (h' : Closes cs' ts') :
    Closes (cs ++ cs') (ts ++ ts') := by
  intro read
  rw [List.foldlM_append, h read, List.reverse_append, List.append_assoc]
  exact h' (ts.reverse ++ read)

/-- A token ends where a text follows that no word starts with. -/
theorem Writes.append_closes {c : Char} (h : Writes cs ts) (h' : Closes (c :: cs') ts')
    (hc : isWordChar c = false) : Closes (cs ++ c :: cs') (ts ++ ts') := by
  intro read
  obtain ⟨s, hs, hsettle⟩ := h read
  have hnext := h' (ts.reverse ++ read)
  rw [List.foldlM_cons, ← step_of_settle hsettle hc, ← List.foldlM_cons] at hnext
  rw [List.foldlM_append, hs, List.reverse_append, List.append_assoc]
  exact hnext

/-! ## Blanks and punctuation -/

theorem closes_punctuation {c : Char} {t : Token} (hspace : isSpace c = false) (hquote : c ≠ '"')
    (hword : isWordChar c = false) (h : ofPunctuation? c = some t) : Closes [c] [t] := by
  intro read
  show (begin read c).bind _ = _
  unfold begin
  rw [hspace, hword, if_neg Bool.false_ne_true, if_neg hquote, if_neg Bool.false_ne_true, h]
  rfl

theorem closes_space {c : Char} (h : isSpace c = true) : Closes [c] [] := by
  intro read
  show (begin read c).bind _ = _
  unfold begin
  rw [if_pos h]
  rfl

theorem closes_spaces (k : Nat) : Closes (List.replicate k ' ') [] := by
  induction k with
  | zero => exact fun read => rfl
  | succ k ih => exact (closes_space (c := ' ') rfl).append ih

theorem toList_newLine (level : Nat) :
    (newLine level).toList = '\n' :: List.replicate (2 * level) ' ' := by
  simp [newLine]

theorem closes_newLine (level : Nat) : Closes (newLine level).toList [] := by
  rw [toList_newLine]
  exact (closes_space (c := '\n') rfl).append (closes_spaces _)

theorem closes_comma_newLine (level : Nat) : Closes ("," ++ newLine level).toList [.comma] := by
  rw [String.toList_append]
  exact (closes_punctuation (c := ',') rfl (by decide) rfl rfl).append (closes_newLine level)

theorem closes_openArray : Closes "[".toList [.openArray] :=
  closes_punctuation rfl (by decide) rfl rfl

theorem closes_closeArray : Closes "]".toList [.closeArray] :=
  closes_punctuation rfl (by decide) rfl rfl

theorem closes_openObject : Closes "\x7b".toList [.openObject] :=
  closes_punctuation rfl (by decide) rfl rfl

theorem closes_closeObject : Closes "\x7d".toList [.closeObject] :=
  closes_punctuation rfl (by decide) rfl rfl

theorem closes_colon : Closes ": ".toList [.colon] :=
  (closes_punctuation (c := ':') rfl (by decide) rfl rfl).append (closes_space (c := ' ') rfl)

/-! ## Strings -/

theorem hexDigit?_digitChar : ∀ d < 16, hexDigit? d.digitChar = some d := by decide

theorem unitEscape_eq {c : Char} (h : c.toNat < 32) :
    unitEscape c =
      ['\\', 'u', '0', '0', (c.toNat / 16).digitChar, (c.toNat % 16).digitChar] := by
  have hall : ∀ n < 32, List.replicate (4 - (Nat.toDigits 16 n).length) '0' ++ Nat.toDigits 16 n =
      ['0', '0', (n / 16).digitChar, (n % 16).digitChar] := by decide
  unfold unitEscape
  rw [List.append_assoc, hall _ h]
  rfl

/-- A unit that is no surrogate stands for itself. -/
theorem joinPieces_unit {n : Nat} (h : n < 32) (rest : List Piece) :
    joinPieces (.unit n :: rest) = (joinPieces rest).map (Char.ofNat n :: ·) := by
  have hhigh : isHighSurrogate n = false := by
    rw [isHighSurrogate, decide_eq_false (by omega), Bool.false_and]
  have hlow : isLowSurrogate n = false := by
    rw [isLowSurrogate, decide_eq_false (by omega), Bool.false_and]
  rcases rest with _ | ⟨p, rest⟩
  · simp [joinPieces, hhigh, hlow]
  · cases p <;> simp [joinPieces, hhigh, hlow]

/-- A character is escaped as one piece that stands for it. -/
theorem exists_piece (c : Char) : ∃ p,
    (∀ pieces read, (escape c).foldlM step (.text pieces, read) =
      some (.text (p :: pieces), read)) ∧
    ∀ rest, joinPieces (p :: rest) = (joinPieces rest).map (c :: ·) := by
  unfold escape
  split
  all_goals try exact ⟨.char _, fun _ _ => rfl, fun _ => rfl⟩
  -- left are the characters without a letter of their own: control characters and plain ones
  rename_i hquote hbackslash _ _ _ _ _
  split
  · rename_i hlt
    have hc : c.toNat < 32 := hlt
    refine ⟨.unit c.toNat, fun pieces read => ?_, fun rest => ?_⟩
    · have hfirst := hexDigit?_digitChar (c.toNat / 16) (by omega)
      have hsecond := hexDigit?_digitChar (c.toNat % 16) (by omega)
      have hvalue : 16 * (c.toNat / 16) + c.toNat % 16 = c.toNat := by omega
      have hzero : hexDigit? '0' = some 0 := rfl
      rw [unitEscape_eq hc]
      simp [step, hzero, hfirst, hsecond, hvalue]
    · rw [joinPieces_unit hc, Char.ofNat_toNat]
  · rename_i hlt
    refine ⟨.char c, fun pieces read => ?_, fun _ => rfl⟩
    rw [List.foldlM_cons, step, if_neg hquote, if_neg hbackslash, if_neg hlt]
    rfl

/-- The pieces of an escaped text stand for the text. -/
theorem exists_pieces (cs : List Char) : ∃ ps, joinPieces ps = some cs ∧
    ∀ pieces read, (cs.flatMap escape).foldlM step (.text pieces, read) =
      some (.text (ps.reverse ++ pieces), read) := by
  induction cs with
  | nil => exact ⟨[], rfl, fun _ _ => rfl⟩
  | cons c rest ih =>
    obtain ⟨p, hp, hjoin⟩ := exists_piece c
    obtain ⟨ps, hps, hrest⟩ := ih
    refine ⟨p :: ps, by rw [hjoin, hps, Option.map_some], fun pieces read => ?_⟩
    rw [List.flatMap_cons, List.foldlM_append, hp, Option.bind_eq_bind, Option.bind_some, hrest,
      List.reverse_cons, List.append_assoc]
    rfl

/-- A string is read as its text. -/
theorem closes_string (s : String) : Closes (writeString s).toList [.string (some s)] := by
  obtain ⟨ps, hps, hfold⟩ := exists_pieces s.toList
  intro read
  unfold writeString
  rw [String.toList_ofList, List.cons_append, List.foldlM_cons]
  show ((s.toList.flatMap escape ++ ['"']).foldlM step (.text [], read)) = _
  rw [List.foldlM_append, hfold, Option.bind_eq_bind, Option.bind_some, List.append_nil,
    List.foldlM_cons]
  show some (Mode.between, string ((joinPieces ps.reverse.reverse).map String.ofList) :: read) = _
  rw [List.reverse_reverse, hps, Option.map_some, String.ofList_toList]
  rfl

/-! ## Brackets -/

/-- Written parts with commas between them. -/
theorem writes_intercalate (level : Nat) {parts : List String} {tss : List (List Token)}
    (h : List.Forall₂ (fun p ts => Writes p.toList ts) parts tss) (hne : parts ≠ []) :
    Writes (String.intercalate ("," ++ newLine level) parts).toList
      ([Token.comma].intercalate tss) := by
  rw [String.toList_intercalate]
  induction h with
  | nil => exact (hne rfl).elim
  | cons hp hrest ih =>
    cases hrest with
    | nil => simpa using hp
    | cons hq hrest =>
      have hcomma := closes_comma_newLine level
      rw [String.toList_append] at hcomma
      have hrest := ih (by simp)
      rw [List.map_cons, String.toList_append] at hrest
      rw [List.map_cons, List.map_cons, List.intercalate_cons_cons, List.intercalate_cons_cons,
        String.toList_append]
      exact (hp.append_closes hcomma rfl).append_writes hrest

/-- Parts between brackets, each on a line of its own. -/
theorem closes_block {level : Nat} {opening closing : String} {o c : Token}
    (ho : Closes opening.toList [o]) (hc : Closes closing.toList [c]) {parts : List String}
    {tss : List (List Token)} (h : List.Forall₂ (fun p ts => Writes p.toList ts) parts tss) :
    Closes (block level opening closing parts).toList
      (o :: [Token.comma].intercalate tss ++ [c]) := by
  unfold block
  by_cases hne : parts = []
  · subst hne
    cases h
    rw [List.isEmpty_nil, if_pos rfl, String.toList_append]
    exact ho.append hc
  · have hparts := writes_intercalate (level + 1) h hne
    have hend := (closes_newLine level).append hc
    rw [toList_newLine] at hend
    have hopen := ho.append (closes_newLine (level + 1))
    rw [if_neg (by simpa using hne)]
    simp only [String.toList_append, toList_newLine level, List.append_assoc]
    have hall := hopen.append (hparts.append_closes hend rfl)
    rw [List.append_assoc] at hall
    exact hall

theorem writes_word {s : String} {t : Token} (hne : s.toList ≠ [])
    (hword : s.toList.all isWordChar = true) (h : ofWord? s.toList = some t) :
    Writes s.toList [t] := by
  refine fun read => ⟨_, foldlM_begin_word hne (List.all_eq_true.mp hword) read, ?_⟩
  rw [settle, List.reverse_reverse, h]
  rfl

theorem writes_number {n : Number} (h : (reread? n).isSome = true) :
    Writes (writeNumber n).toList [numberToken n] := by
  obtain ⟨x, hx⟩ := Option.isSome_iff_exists.mp h
  refine writes_word (fun hnil => ?_)
    (List.all_eq_true.mpr fun _ hc => isWordChar_of_plain (plain_writeNumber n) hc)
    (ofWord?_numberToken hx)
  have hword := ofWord?_numberToken hx
  rw [hnil] at hword
  cases hword

end Token

/-! ## Values -/

mutual

/-- The text of a value comes to its tokens. -/
theorem writes_indented (level : Nat) : ∀ v : Json, v.Legible →
    Token.Writes (indented level v).toList v.tokens
  | .null, _ => Token.writes_word (s := "null") (by decide) (by decide) rfl
  | .bool true, _ => Token.writes_word (s := "true") (by decide) (by decide) rfl
  | .bool false, _ => Token.writes_word (s := "false") (by decide) (by decide) rfl
  | .number n, h => Token.writes_number (h n List.mem_cons_self)
  | .string s, _ => (Token.closes_string s).writes
  | .array items, h =>
    (Token.closes_block Token.closes_openArray Token.closes_closeArray
      (writes_indentedItems (level + 1) items h)).writes
  | .object fs, h =>
    (Token.closes_block Token.closes_openObject Token.closes_closeObject
      (writes_indentedFields (level + 1) fs h)).writes

theorem writes_indentedItems (level : Nat) : ∀ items : List Json,
    (∀ n ∈ itemNumbers items, (reread? n).isSome = true) →
    List.Forall₂ (fun p ts => Token.Writes p.toList ts) (indentedItems level items)
      (itemTokens items)
  | [], _ => .nil
  | v :: rest, h =>
    .cons (writes_indented level v fun n hn => h n (List.mem_append_left _ hn))
      (writes_indentedItems level rest fun n hn => h n (List.mem_append_right _ hn))

theorem writes_indentedFields (level : Nat) : ∀ fs : List (String × Json),
    (∀ n ∈ fieldNumbers fs, (reread? n).isSome = true) →
    List.Forall₂ (fun p ts => Token.Writes p.toList ts) (indentedFields level fs)
      (fieldTokens fs)
  | [], _ => .nil
  | (k, v) :: rest, h => by
    have hv := writes_indented level v fun n hn => h n (List.mem_append_left _ hn)
    refine .cons ?_
      (writes_indentedFields level rest fun n hn => h n (List.mem_append_right _ hn))
    rw [String.toList_append, String.toList_append]
    exact ((Token.closes_string k).append Token.closes_colon).append_writes hv

end

/-- **Scanning.** The text of a legible value scans to the tokens of the value. -/
theorem scan_pretty {v : Json} (h : v.Legible) : Token.scan v.pretty.toList = some v.tokens :=
  (writes_indented 0 v h).scan

end FlexLayout.Json
