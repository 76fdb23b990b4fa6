import FileSearch.Proofs.Content.Comparison
import FileSearch.Proofs.Pattern.Search

/-!
# Patterns without special characters

A text without special characters is a pattern: the sequence of its characters. That pattern is
found where the text occurs, so looking for it as a pattern and looking for it as a part are the
same.
-/

set_option autoImplicit false

namespace FileSearch.Pattern

/-- The characters that do not stand for themselves in every pattern. -/
def metacharacters : List Char :=
  ['\\', '.', '+', '*', '?', '(', ')', '|', '[', ']', '{', '}', '^', '$']

variable {text : List Char} {flags : Flags} {first last : Nat}

/-! ## Reading -/

namespace Reading

/-- The element of a group that a character which stands for itself is read as. -/
def literal (flags : Flags) (c : Char) : Element :=
  .part ⟨.step (flags.literal c), 0⟩

/-- A reading with one more part for each character of a text. -/
def addLiterals (reading : Reading) (text : List Char) : Reading :=
  { reading with group := { reading.group with
      elements := (text.map (literal reading.flags)).reverse ++ reading.group.elements } }

theorem advance_of_plain {c : Char} (plain : c ∉ metacharacters) (reading : Reading)
    (rest : List Char) :
    reading.advance c rest = some (reading.addLiterals [c], rest) := by
  have leaf : reading.readLeaf c rest = some (reading.addLiterals [c], rest) := by
    unfold readLeaf
    dsimp only
    -- The branches in front of the last one are those of single metacharacters.
    split
    case h_6 => rfl
    all_goals exact absurd (by decide) plain
  unfold advance
  split
  case h_8 => exact leaf
  all_goals exact absurd (by decide) plain

/-- Reading takes one character at a time, so it ends with the text. -/
theorem finishText?_of_plain {reading : Reading} {fuel : Nat}
    (plain : ∀ c ∈ text, c ∉ metacharacters) (unspaced : reading.flags.spaced = false)
    (enough : text.length ≤ fuel) :
    finishText? fuel reading text = (reading.addLiterals text).finish? := by
  induction text generalizing reading fuel with
  | nil =>
      have unskipped : reading.flags.skip [] = [] := if_neg (by simp [unspaced])
      unfold finishText?
      simp only [unskipped]
      rfl
  | cons c rest ih =>
      have unskipped : reading.flags.skip (c :: rest) = c :: rest := if_neg (by simp [unspaced])
      obtain ⟨self, others⟩ := List.forall_mem_cons.mp plain
      cases fuel with
      | zero => cases enough
      | succ fuel =>
          have further : (reading.addLiterals [c]).flags.spaced = false := unspaced
          unfold finishText?
          simp only [unskipped, advance_of_plain self, Option.bind_eq_bind, Option.bind_some]
          rw [ih others further (Nat.le_of_succ_le_succ enough)]
          simp [addLiterals]

end Reading

theorem greatestDepth_eq_zero {parts : List Part} (leaves : ∀ part ∈ parts, part.depth = 0) :
    greatestDepth parts = 0 := by
  induction parts with
  | nil => rfl
  | cons part rest ih =>
      obtain ⟨leaf, others⟩ := List.forall_mem_cons.mp leaves
      rw [greatestDepth, List.map_cons, List.foldl_cons, leaf]
      exact ih others

theorem current_literals (outer flags : Flags) (text : List Char) :
    (Group.mk outer [] (text.map (Reading.literal flags)).reverse).current =
      ⟨sequenceOf (text.map fun c => .step (flags.literal c)),
        if text.length < 2 then 0 else 1⟩ := by
  have parts : (text.map (Reading.literal flags)).filterMap Element.part? =
      text.map fun c => ⟨.step (flags.literal c), 0⟩ := by
    rw [List.filterMap_map]
    exact congrFun List.filterMap_eq_map text
  have leaves : greatestDepth (text.map fun c => ⟨.step (flags.literal c), 0⟩) = 0 :=
    greatestDepth_eq_zero (List.forall_mem_map.mpr fun _ _ => rfl)
  rw [Group.current, List.reverse_reverse, parts, leaves, List.map_map, List.length_reverse,
    List.length_map, Nat.zero_add]
  rfl

/-- A plain text is the pattern of its characters in sequence. -/
theorem ofText?_of_plain (plain : ∀ c ∈ text, c ∉ metacharacters)
    (unspaced : flags.spaced = false) :
    ofText? text flags = some (sequenceOf (text.map fun c => .step (flags.literal c))) := by
  have shallow : (if text.length < 2 then 0 else 1) ≤ maxDepth := by split <;> decide
  rw [ofText?, Reading.finishText?_of_plain plain unspaced (Nat.le_refl _), Reading.addLiterals,
    Group.start, List.append_nil, Reading.finish?]
  simp only [List.isEmpty_nil, Bool.not_true, Bool.false_eq_true, if_false, Group.contents,
    List.reverse_nil, current_literals, if_pos shallow]

/-! ## Searching -/

theorem contains_single_iff {c d : Char} : (CharSet.single c).contains d = true ↔ d = c := by
  simp only [CharSet.single, CharSet.interval, CharSet.contains, Unicode.Ranges.contains,
    List.any_cons, List.any_nil, Bool.or_false, Bool.and_eq_true, decide_eq_true_iff]
  constructor
  · intro between
    obtain ⟨above, below⟩ := between
    exact Char.toNat_inj.mp (Nat.le_antisymm below above)
  · intro same
    subst same
    exact ⟨Nat.le_refl _, Nat.le_refl _⟩

theorem spans_sequenceOf_cons {pattern : TextPattern} {others : List TextPattern} :
    Spans text (sequenceOf (pattern :: others)) first last ↔
      ∃ middle, Spans text pattern first middle ∧ Spans text (sequenceOf others) middle last := by
  cases others with
  | nil => simp [sequenceOf, Spans]
  | cons second others => rfl

theorem spans_literals_iff {cs : List Char} :
    Spans text (sequenceOf (cs.map fun c => .step (.single c))) first last ↔
      cs <+: text.drop first ∧ last = first + cs.length := by
  induction cs generalizing first with
  | nil => simp [sequenceOf, Spans, eq_comm]
  | cons c cs ih =>
      rw [List.map_cons, spans_sequenceOf_cons]
      simp only [ih, Spans, contains_single_iff]
      constructor
      · intro spans
        obtain ⟨middle, ⟨rfl, d, listed, rfl⟩, follows, rfl⟩ := spans
        obtain ⟨inside, rfl⟩ := List.getElem?_eq_some_iff.mp listed
        rw [List.drop_eq_getElem_cons inside, List.cons_prefix_cons, List.length_cons]
        exact ⟨⟨rfl, follows⟩, by omega⟩
      · intro occurs
        obtain ⟨begins, rfl⟩ := occurs
        obtain ⟨rest, split, follows⟩ := List.cons_prefix_iff.mp begins
        have listed : text[first]? = some c := by rw [← List.head?_drop, split, List.head?_cons]
        have behind : text.drop (first + 1) = rest := by
          rw [← List.tail_drop, split, List.tail_cons]
        refine ⟨first + 1, ⟨rfl, c, listed, rfl⟩, behind ▸ follows, ?_⟩
        rw [List.length_cons, Nat.add_right_comm, Nat.add_assoc]

/-- Characters in sequence are found where they occur. -/
theorem isFoundIn_literals_iff {cs : List Char} :
    isFoundIn (sequenceOf (cs.map fun c => .step (.single c))) text = true ↔ cs <:+: text := by
  simp only [isFoundIn_iff, spans_literals_iff]
  constructor
  · intro found
    obtain ⟨first, last, -, begins, -⟩ := found
    exact begins.isInfix.trans (List.drop_suffix first text).isInfix
  · intro occurs
    obtain ⟨front, back, rfl⟩ := occurs
    refine ⟨front.length, front.length + cs.length, by simp, ?_, rfl⟩
    rw [List.append_assoc, List.drop_left]
    exact List.prefix_append cs back

end FileSearch.Pattern

namespace FileSearch.Content

open Pattern (metacharacters)

/-- Where letter case counts, a text without special characters is found as a pattern exactly where
it is found as a part. -/
theorem matchesPattern_eq_containsAll {pattern : String}
    (plain : ∀ c ∈ pattern.toList, c ∉ metacharacters) (contents : String) :
    matchesPattern contents pattern false = containsAll contents [pattern] false := by
  have read : Pattern.ofText? pattern.toList { ignoreCase := false } =
      some (Pattern.sequenceOf (pattern.toList.map fun c => .step (.single c))) :=
    Pattern.ofText?_of_plain plain rfl
  rw [Bool.eq_iff_iff, matchesPattern, read, containsAll_iff, List.forall_mem_singleton]
  exact Pattern.isFoundIn_literals_iff

/-- Characters that have a meaning only inside brackets or in comments are plain. -/
theorem matchesPattern_eq_containsAll_ampersands :
    (∀ c ∈ "a-b&&#é ".toList, c ∉ metacharacters) ∧
      matchesPattern "xa-b&&#é y" "a-b&&#é " false =
        containsAll "xa-b&&#é y" ["a-b&&#é "] false ∧
      containsAll "xa-b&&#é y" ["a-b&&#é "] false = true := by
  have plain : ∀ c ∈ "a-b&&#é ".toList, c ∉ metacharacters := by simp [metacharacters]
  exact ⟨plain, matchesPattern_eq_containsAll plain _, by decide⟩

end FileSearch.Content
