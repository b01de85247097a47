import FlexLayout.Proofs.Tree.Elements
import Mathlib.Algebra.BigOperators.Group.List.Basic
import Mathlib.Algebra.GroupWithZero.Nat
import Mathlib.Data.List.Count

/-!
# Counting kinds in a drawing

The line of a node starts with the word of its kind, and no other line does. So the counts of the
kinds in a message can be taken from its drawing, and the other way round (`kindCounts_lines`).
-/

namespace FlexLayout.Tree

open FlexLayout.Text (firstWord firstWord_of_isPrefix)
open FlexLayout.Outline (labels labelsBelow)

/-- The first word behind the marker of a line. -/
def markedWord? (line : String) : Option String :=
  (Outline.Row.ofText? line).map fun r => firstWord r.label

/-! ## Nodes -/

theorem not_mem_word (k : Kind) : ' ' ∉ k.word.toList := by
  cases k <;> decide

theorem Node.prefix_heading (n : Node) : n.kind.word.toList ++ [' '] <+: n.heading.toList := by
  cases n <;> simp [heading, kind, Kind.word, Keyword.word]

/-- The line of a node starts with its kind. -/
theorem Node.firstWord_label (spacing : Option Margin) (n : Node) :
    firstWord (n.label spacing) = n.kind.word := by
  refine firstWord_of_isPrefix (n.prefix_heading.trans ?_) (not_mem_word n.kind)
  unfold label
  rw [String.append_assoc, String.toList_append]
  exact List.prefix_append _ _

theorem Node.words_leaf (spacing : Option Margin) (n : Node) :
    [n.label spacing].map firstWord = [n.kind].map Kind.word :=
  congrArg (fun word => [word]) (firstWord_label spacing n)

theorem firstWord_span (s : Span) : firstWord ("span " ++ Text.quote s.text) = Kind.span.word := by
  refine firstWord_of_isPrefix ?_ (not_mem_word .span)
  rw [String.toList_append]
  exact List.prefix_append _ _

mutual

/-- The words in front of a node and all below it are its kinds. -/
theorem Node.words_outline : ∀ (spacing : Option Margin) (n : Node),
    (labels (n.outline spacing)).map firstWord = n.kinds.map Kind.word
  | spacing, .box b children => by
    rw [Node.outline, labels, Node.kinds, List.map_cons, List.map_cons, firstWord_label,
      words_outlines children]
    rfl
  | spacing, .text t => by
    rw [Node.outline, labels, Node.kinds, List.map_cons, List.map_cons, firstWord_label,
      Outline.labelsBelow_eq_flatMap, List.flatMap_map, List.map_map]
    congr 1
    induction t.spans with
    | nil => rfl
    | cons s rest ih =>
      rw [List.flatMap_cons, List.map_append, ih]
      show [firstWord ("span " ++ Text.quote s.text)] ++ _ = _
      rw [firstWord_span]
      rfl
  | spacing, .video v (some alt) => by
    rw [Node.outline, labels, Node.kinds, List.map_cons, List.map_cons, firstWord_label,
      Outline.labelsBelow_eq_flatMap, List.flatMap_singleton, Node.words_outline none alt]
    rfl
  | spacing, .video v none => Node.words_leaf spacing (.video v none)
  | spacing, .button b => Node.words_leaf spacing (.button b)
  | spacing, .filler f => Node.words_leaf spacing (.filler f)
  | spacing, .icon i => Node.words_leaf spacing (.icon i)
  | spacing, .image i => Node.words_leaf spacing (.image i)
  | spacing, .separator s => Node.words_leaf spacing (.separator s)
  | spacing, .spacer s => Node.words_leaf spacing (.spacer s)
  | spacing, .span s => Node.words_leaf spacing (.span s)

theorem Node.words_outlines : ∀ children : List Child,
    (labelsBelow (Node.outlines children)).map firstWord =
      (Node.childKinds children).map Kind.word
  | [] => rfl
  | ⟨spacing, n⟩ :: rest => by
    rw [Node.outlines, labelsBelow, Node.childKinds, List.map_append, List.map_append,
      Node.words_outline spacing n, words_outlines rest]

end

/-! ## Words that are not kinds -/

/-- A word that no kind has. -/
def Foreign (word : String) : Prop := ∀ k : Kind, k.word ≠ word

instance : DecidablePred Foreign := fun word =>
  decidable_of_iff (∀ k ∈ Kind.alphabetical, k.word ≠ word)
    ⟨fun h k => h k (by cases k <;> decide), fun h k _ => h k⟩

theorem foreign_name {b : Bubble} {name : String} {s : Section} (h : (name, s) ∈ b.sections) :
    Foreign name ∧ ' ' ∉ name.toList := by
  have hnames : ∀ name ∈ sectionNames, Foreign name ∧ ' ' ∉ name.toList := by decide
  exact hnames name (name_mem_sectionNames h)

/-- The words in front of a section and all below it. -/
theorem words_section {name : String} (hname : ' ' ∉ name.toList) (s : Section) :
    (labels (s.outline name)).map firstWord = name :: s.content.kinds.map Kind.word := by
  rw [Section.outline, labels, List.map_cons, Outline.labelsBelow_eq_flatMap,
    List.flatMap_singleton, Node.words_outline]
  refine congrArg (List.cons · _) (firstWord_of_isPrefix ?_ hname)
  rw [String.append_assoc, String.append_assoc, String.toList_append, String.toList_append,
    ← List.append_assoc]
  exact List.prefix_append _ _

/-- The words in front of a bubble and all below it. -/
theorem words_bubble (b : Bubble) :
    (labels b.outline).map firstWord =
      "bubble" :: b.sections.flatMap fun (name, s) => name :: s.content.kinds.map Kind.word := by
  have hsections : ∀ x ∈ b.sections, (labels (x.2.outline x.1)).map firstWord =
      x.1 :: x.2.content.kinds.map Kind.word :=
    fun x hx => words_section (foreign_name hx).2 x.2
  rw [Bubble.outline, labels, List.map_cons, Outline.labelsBelow_eq_flatMap, List.flatMap_map,
    List.map_flatMap]
  have hhead : "bubble".toList ++ [' '] <+: "bubble [".toList := by decide
  refine congrArg₂ List.cons (firstWord_of_isPrefix (hhead.trans ?_) (by decide))
    (List.flatMap_congr hsections)
  simp only [String.append_assoc, String.toList_append]
  exact List.prefix_append _ _

/-- How many containers a message has around its bubbles. -/
def Message.wrappers (m : Message) : Nat :=
  match m.contents with
  | .bubble _ => 0
  | .carousel _ => 1

/-- The words in front of everything below the message itself. -/
theorem Message.words (m : Message) :
    (labelsBelow m.outline.parts).map firstWord =
      List.replicate m.wrappers "carousel" ++ m.bubbles.flatMap fun b =>
        "bubble" :: b.sections.flatMap fun (name, s) => name :: s.content.kinds.map Kind.word := by
  obtain ⟨altText, contents⟩ := m
  rw [Outline.labelsBelow_eq_flatMap, outline, Outline.parts, List.flatMap_singleton]
  cases contents with
  | bubble b =>
    rw [bubbles, List.flatMap_singleton]
    exact words_bubble b
  | carousel c =>
    rw [Container.outline, labels, List.map_cons, Outline.labelsBelow_eq_flatMap,
      List.flatMap_map, List.map_flatMap]
    have hhead : "carousel".toList ++ [' '] <+: "carousel [".toList := by decide
    refine congrArg₂ List.cons (firstWord_of_isPrefix (hhead.trans ?_) (by decide))
      (List.flatMap_congr fun b _ => words_bubble b)
    simp only [String.append_assoc, String.toList_append]
    exact List.prefix_append _ _

/-! ## Counts -/

theorem word_injective : Function.Injective Kind.word := by
  intro k k' h
  cases k <;> cases k' <;> first | rfl | exact absurd h (by decide)

/-- Only nodes and spans have the word of a kind in front. -/
theorem Message.count_words (m : Message) (k : Kind) :
    ((labelsBelow m.outline.parts).map firstWord).count k.word = m.kinds.count k := by
  have hwrappers : k.word ∉ List.replicate m.wrappers "carousel" := by
    have hforeign : Foreign "carousel" := by decide
    intro hmem
    exact hforeign k (List.eq_of_mem_replicate hmem)
  have hbubble : Foreign "bubble" := by decide
  rw [Message.words, List.count_append, List.count_eq_zero_of_not_mem hwrappers, Nat.zero_add,
    Message.kinds, List.count_flatMap, List.count_flatMap]
  refine congrArg List.sum (List.map_congr_left fun b _ => ?_)
  rw [Function.comp_apply, Function.comp_apply, List.count_cons_of_ne (hbubble k).symm,
    List.count_flatMap, List.count_flatMap]
  refine congrArg List.sum (List.map_congr_left fun x hx => ?_)
  rw [Function.comp_apply, Function.comp_apply,
    List.count_cons_of_ne ((foreign_name hx).1 k).symm,
    List.count_map_of_injective _ _ word_injective]

theorem Message.length_words (m : Message) :
    ((labelsBelow m.outline.parts).map firstWord).length =
      m.kinds.length + m.wrappers + m.bubbles.length +
        (m.bubbles.map fun b => b.sections.length).sum := by
  simp only [Message.words, Message.kinds, List.length_append, List.length_replicate,
    List.length_flatMap, List.length_cons, List.length_map, List.sum_map_add, List.map_const',
    List.sum_replicate_nat, Nat.mul_one]
  omega

/-- The first words behind the markers of a drawing, line by line. -/
theorem Message.filterMap_markedWord? {m : Message} (h : m.Unbroken) :
    (Text.closedLines m.drawing).filterMap markedWord? =
      (labelsBelow m.outline.parts).map firstWord := by
  have htop : Outline.Row.ofText? m.outline.label = none := ofText?_top m (p := []) rfl
  unfold Text.closedLines
  rw [split_drawing h, List.dropLast_concat, ← lines_outline]
  unfold markedWord?
  rw [← List.map_filterMap, Outline.filterMap_ofText?_lines htop,
    ← Outline.map_label_rowsBelow [], List.map_map]
  rfl

theorem Message.length_lines {m : Message} (h : m.Unbroken) :
    (Text.closedLines m.drawing).length =
      ((labelsBelow m.outline.parts).map firstWord).length + 1 := by
  unfold Text.closedLines
  rw [split_drawing h, List.dropLast_concat, ← lines_outline, Outline.lines, List.length_cons,
    ← Outline.map_label_rowsBelow [], List.length_map, List.length_map, List.length_map]

/-- Every node is counted under one kind. -/
theorem sum_count (ks : List Kind) : (Kind.alphabetical.map ks.count).sum = ks.length := by
  induction ks with
  | nil => rfl
  | cons k rest ih =>
    have hone : (Kind.alphabetical.map fun x => if k == x then 1 else 0).sum = 1 := by
      cases k <;> rfl
    simp only [List.count_cons, List.sum_map_add, hone, List.length_cons]
    rw [ih]

theorem Message.sum_kindCounts (m : Message) :
    (m.kindCounts.map Prod.snd).sum = m.kinds.length := by
  rw [← sum_count]
  unfold kindCounts
  dsimp only
  induction Kind.alphabetical with
  | nil => rfl
  | cons k rest ih =>
    rw [List.map_cons, List.map_cons, List.sum_cons, ← ih]
    by_cases hk : m.kinds.count k = 0
    · rw [List.filter_cons_of_neg (by simpa using hk), hk, Nat.zero_add]
    · rw [List.filter_cons_of_pos (by simpa using hk), List.map_cons, List.sum_cons]

/-- A kind is listed with a number if it occurs that often, and it does occur. -/
theorem Message.mem_kindCounts (m : Message) (k : Kind) (n : Nat) :
    (k, n) ∈ m.kindCounts ↔ m.kinds.count k = n ∧ 0 < n := by
  have hall : k ∈ Kind.alphabetical := by cases k <;> decide
  unfold kindCounts
  rw [List.mem_filter, List.mem_map]
  constructor
  · rintro ⟨⟨k', -, heq⟩, hn⟩
    cases heq
    exact ⟨rfl, Nat.pos_of_ne_zero (by simpa using hn)⟩
  · rintro ⟨rfl, hn⟩
    exact ⟨⟨k, hall, rfl⟩, by simpa using Nat.ne_of_gt hn⟩

/-- How many lines of a drawing have the word of a kind behind their marker. -/
def Message.markedLines (m : Message) (k : Kind) : Nat :=
  (Text.closedLines m.drawing).countP fun line => markedWord? line = some k.word

theorem Message.markedLines_eq {m : Message} (h : m.Unbroken) (k : Kind) :
    m.markedLines k = m.kinds.count k := by
  rw [← count_words, ← filterMap_markedWord? h, List.count_filterMap]
  unfold markedLines
  refine List.countP_congr fun line _ => ?_
  rw [decide_eq_true_eq, beq_iff_eq]

/-- **Counts.** In a message whose raw strings hold no line feed, a kind is counted as often as
lines of the drawing have its word behind their marker, and kinds without a line are not listed.
All counts together are the lines but one, less one for a carousel, one for each bubble and one for
each section. -/
theorem Message.kindCounts_lines (m : Message) (h : m.Unbroken) :
    (∀ k n, 0 < n → ((k, n) ∈ m.kindCounts ↔ m.markedLines k = n)) ∧
      (∀ k, m.markedLines k = 0 → ∀ n, (k, n) ∉ m.kindCounts) ∧
      (m.kindCounts.map Prod.snd).sum + 1 + m.wrappers + m.bubbles.length +
          (m.bubbles.map fun b => b.sections.length).sum =
        (Text.closedLines m.drawing).length := by
  refine ⟨fun k n hn => ?_, fun k hk n hmem => ?_, ?_⟩
  · rw [m.mem_kindCounts, m.markedLines_eq h]
    exact ⟨And.left, fun hcount => ⟨hcount, hn⟩⟩
  · obtain ⟨hcount, hn⟩ := (m.mem_kindCounts k n).mp hmem
    rw [m.markedLines_eq h, hcount] at hk
    omega
  · have hlength := m.length_words
    rw [m.sum_kindCounts, m.length_lines h, hlength]
    omega

theorem Message.kindCounts_lines_pair :
    Message.pair.Unbroken ∧
      Message.pair.kindCounts = [(.filler, 1), (.span, 2), (.text, 1), (.video, 1)] ∧
      Message.pair.markedLines .span = 2 ∧ (Text.closedLines Message.pair.drawing).length = 11 := by
  have h : Message.pair.Unbroken := by decide +kernel
  have hcounts : Message.pair.kindCounts = [(.filler, 1), (.span, 2), (.text, 1), (.video, 1)] := by
    decide +kernel
  obtain ⟨hmem, -, hsum⟩ := Message.kindCounts_lines Message.pair h
  refine ⟨h, hcounts, (hmem .span 2 (by decide)).mp (by rw [hcounts]; decide), ?_⟩
  rw [← hsum, hcounts]
  rfl

end FlexLayout.Tree
