import FileSearch.Unicode.LetterCase
import Mathlib.Data.List.Infix
import Mathlib.Data.List.TakeWhile

/-!
# Lowercasing within a text

The lowercase form of a part of a text depends on what stands around the part, but only through the
capital sigmas in it, and of these only where the search for the end of a word leaves the part. A
part with steady sigmas has the same lowercase form everywhere, and no other part has. Words are
lowercased each for itself.
-/

set_option autoImplicit false

namespace FileSearch.Unicode

/-- The lowercase form of a text between two others, of which the first one has its nearest
character first. -/
def lowercaseBetween (before after : List Char) : List Char → List Char
  | [] => []
  | c :: rest =>
    lowercaseWithin before c (rest ++ after) ++ lowercaseBetween (c :: before) after rest

theorem lowercaseAfter_eq (before cs : List Char) :
    lowercaseAfter before cs = lowercaseBetween before [] cs := by
  induction cs generalizing before with
  | nil => rfl
  | cons c cs ih => rw [lowercaseAfter, lowercaseBetween, List.append_nil, ih]

theorem lowercaseBetween_append (before after front back : List Char) :
    lowercaseBetween before after (front ++ back) =
      lowercaseBetween before (back ++ after) front ++
        lowercaseBetween (front.reverse ++ before) after back := by
  induction front generalizing before with
  | nil => rfl
  | cons c front ih =>
      simp only [List.cons_append, lowercaseBetween, ih, List.append_assoc, List.reverse_cons,
        List.nil_append]

/-! ## Where the search for the end of a word ends -/

/-- A text in which the search for the end of a word ends. -/
def Bounds (cs : List Char) : Prop :=
  ∃ c ∈ cs, isCaseIgnorable c = false

variable {cs front back before after : List Char}

theorem bounds_iff : Bounds cs ↔ cs.dropWhile isCaseIgnorable ≠ [] := by
  rw [ne_eq, List.dropWhile_eq_nil_iff]
  simp [Bounds]

theorem Bounds.append_left (bounds : Bounds cs) (others : List Char) : Bounds (others ++ cs) := by
  obtain ⟨c, listed, ends⟩ := bounds
  exact ⟨c, List.mem_append_right _ listed, ends⟩

theorem bounds_sigma (cs : List Char) : Bounds ('Σ' :: cs) :=
  ⟨'Σ', List.mem_cons_self, by decide +kernel⟩

theorem Bounds.reachesCased_append (bounds : Bounds front) (back : List Char) :
    reachesCased (front ++ back) = reachesCased front := by
  have ends := bounds_iff.mp bounds
  rw [reachesCased, reachesCased, List.dropWhile_append, if_neg (by simpa using ends)]
  cases reached : front.dropWhile isCaseIgnorable with
  | nil => exact absurd reached ends
  | cons c rest => rfl

theorem reachesCased_append_of_not_bounds (passed : ¬ Bounds front) (back : List Char) :
    reachesCased (front ++ back) = reachesCased back := by
  have gone := not_not.mp (mt bounds_iff.mpr passed)
  rw [reachesCased, reachesCased, List.dropWhile_append, gone]
  rfl

theorem bounds_of_reachesCased (reaches : reachesCased cs = true) : Bounds cs := by
  by_contra passed
  have gone := reachesCased_append_of_not_bounds passed []
  rw [List.append_nil, reaches] at gone
  cases gone

theorem sigma_notMem_of_not_bounds (passed : ¬ Bounds cs) : 'Σ' ∉ cs := fun listed =>
  passed ⟨'Σ', listed, by decide +kernel⟩

/-! ## What stands around a text -/

theorem lowercaseWithin_of_ne {c : Char} (other : c ≠ 'Σ') (before after : List Char) :
    lowercaseWithin before c after = lowercaseChar c := by
  rw [lowercaseWithin, if_neg other]

theorem lowercaseBetween_of_notMem (noSigma : 'Σ' ∉ cs) (before after : List Char) :
    lowercaseBetween before after cs = cs.flatMap lowercaseChar := by
  induction cs generalizing before with
  | nil => rfl
  | cons c cs ih =>
      obtain ⟨first, others⟩ := not_or.mp (mt List.mem_cons.mpr noSigma)
      rw [lowercaseBetween, lowercaseWithin_of_ne (Ne.symm first), ih others]
      rfl

/-- What stands around a text matters only to the search for the end of a word. -/
theorem lowercaseBetween_congr {before others after rest : List Char}
    (sameBefore : ∀ inner, reachesCased (inner ++ before) = reachesCased (inner ++ others))
    (sameAfter : ∀ inner, reachesCased (inner ++ after) = reachesCased (inner ++ rest))
    (cs : List Char) : lowercaseBetween before after cs = lowercaseBetween others rest cs := by
  induction cs generalizing before others with
  | nil => rfl
  | cons c cs ih =>
      have further (inner : List Char) :
          reachesCased (inner ++ c :: before) = reachesCased (inner ++ c :: others) := by
        have same := sameBefore (inner ++ [c])
        rwa [List.append_assoc, List.append_assoc] at same
      have first : lowercaseWithin before c (cs ++ after) =
          lowercaseWithin others c (cs ++ rest) := by
        have near : reachesCased before = reachesCased others := sameBefore []
        rw [lowercaseWithin, lowercaseWithin, near, sameAfter cs]
      rw [lowercaseBetween, lowercaseBetween, first, ih further]

theorem lowercaseBetween_before_append (bounds : Bounds before) (others after cs : List Char) :
    lowercaseBetween (before ++ others) after cs = lowercaseBetween before after cs := by
  apply lowercaseBetween_congr
  · intro inner
    rw [← List.append_assoc, (bounds.append_left inner).reachesCased_append]
  · intro inner
    rfl

theorem lowercaseBetween_after_append (bounds : Bounds after) (before others cs : List Char) :
    lowercaseBetween before (after ++ others) cs = lowercaseBetween before after cs := by
  apply lowercaseBetween_congr
  · intro inner
    rfl
  · intro inner
    rw [← List.append_assoc, (bounds.append_left inner).reachesCased_append]

/-! ## Words -/

/-- A character that belongs to no word: the search for the end of a word ends at it and finds
nothing cased. -/
structure Parts (c : Char) : Prop where
  bounds : isCaseIgnorable c = false
  uncased : isCased c = false

variable {c : Char}

/-- Whether no interval of one list meets one of the other. -/
def Ranges.apart (left right : Ranges) : Bool :=
  right.all fun other => left.all fun range => range.2.blt other.1 || other.2.blt range.1

theorem Ranges.contains_of_apart {left right : Ranges} (apart : left.apart right = true)
    (within : left.contains c = true) : right.contains c = false := by
  apply Bool.eq_false_iff.mpr
  intro both
  obtain ⟨range, listed, inRange⟩ := List.any_eq_true.mp within
  obtain ⟨other, listedOther, inOther⟩ := List.any_eq_true.mp both
  have separate := List.all_eq_true.mp (List.all_eq_true.mp apart other listedOther) range listed
  simp only [Bool.and_eq_true, decide_eq_true_eq] at inRange inOther
  simp only [Bool.or_eq_true, Nat.blt_eq] at separate
  omega

theorem Parts.of_apart {ranges : Ranges} (within : ranges.contains c = true)
    (passed : ∀ others ∈ [Category.nonspacingMarkRanges, Category.enclosingMarkRanges,
      Category.formatRanges, Category.modifierLetterRanges, Category.modifierSymbolRanges,
      otherCaseIgnorableRanges], ranges.apart others = true)
    (cased : ∀ others ∈ [Category.uppercaseLetterRanges, Category.lowercaseLetterRanges,
      Category.titlecaseLetterRanges, otherLowercaseRanges, otherUppercaseRanges],
      ranges.apart others = true) : Parts c := by
  simp only [List.forall_mem_cons] at passed cased
  constructor
  · simp [isCaseIgnorable, isOneOf, Category.contains, Category.ranges,
      Ranges.contains_of_apart _ within, passed]
  · simp [isCased, isOneOf, Category.contains, Category.ranges,
      Ranges.contains_of_apart _ within, cased]

theorem Parts.reachesCased_append (parts : Parts c) (inner others : List Char) :
    reachesCased (inner ++ c :: others) = reachesCased inner := by
  by_cases bounds : Bounds inner
  · exact bounds.reachesCased_append (c :: others)
  · have nothing : reachesCased inner = false :=
      Bool.eq_false_iff.mpr (mt bounds_of_reachesCased bounds)
    rw [reachesCased_append_of_not_bounds bounds, nothing, reachesCased,
      List.dropWhile_cons_of_neg (by rw [parts.bounds]; exact Bool.false_ne_true)]
    exact parts.uncased

theorem Parts.ne_sigma (parts : Parts c) : c ≠ 'Σ' := by
  intro sigma
  subst sigma
  have cased : isCased 'Σ' = true := by decide +kernel
  rw [parts.uncased] at cased
  cases cased

/-- The texts on both sides of such a character are lowercased each for itself. -/
theorem Parts.lowercaseChars_append (parts : Parts c) (front back : List Char) :
    lowercaseChars (front ++ c :: back) =
      lowercaseChars front ++ (lowercaseChar c ++ lowercaseChars back) := by
  have ahead : lowercaseBetween [] (c :: back) front = lowercaseBetween [] [] front := by
    apply lowercaseBetween_congr
    · intro inner
      rfl
    · intro inner
      rw [parts.reachesCased_append, List.append_nil]
  have behind : lowercaseBetween (c :: front.reverse) [] back = lowercaseBetween [] [] back := by
    apply lowercaseBetween_congr
    · intro inner
      rw [parts.reachesCased_append, List.append_nil]
    · intro inner
      rfl
  simp only [lowercaseChars, lowercaseAfter_eq, lowercaseBetween_append, lowercaseBetween,
    List.append_nil, ahead, behind, lowercaseWithin_of_ne parts.ne_sigma]

/-! ## Steady sigmas -/

/-- A text whose capital sigmas have the same lowercase form whatever stands around the text: what
could make one final or keep another from being final is in the text itself. -/
def IsSteady (cs : List Char) : Prop :=
  ∀ front back, cs = front ++ 'Σ' :: back →
    (Bounds front ∨ reachesCased back = true) ∧ (Bounds back ∨ reachesCased front.reverse = false)

theorem isSteady_of_notMem (noSigma : 'Σ' ∉ cs) : IsSteady cs := by
  intro front back split
  rw [split] at noSigma
  exact absurd (List.mem_append_right front List.mem_cons_self) noSigma

theorem bounds_reverse : Bounds cs.reverse ↔ Bounds cs := by
  simp [Bounds]

theorem IsSteady.lowercaseWithin_eq (steady : IsSteady (front ++ 'Σ' :: back))
    (before after : List Char) :
    lowercaseWithin (front.reverse ++ before) 'Σ' (back ++ after) =
      lowercaseWithin front.reverse 'Σ' back := by
  obtain ⟨leading, trailing⟩ := steady front back rfl
  simp only [lowercaseWithin]
  by_cases bounds : Bounds front
  · rw [(bounds_reverse.mpr bounds).reachesCased_append]
    cases trailing with
    | inl bounds => rw [bounds.reachesCased_append]
    | inr uncased => rw [uncased, Bool.false_and, Bool.false_and]
  · -- No sigma at the front is final: a cased character follows.
    have follows := leading.resolve_left bounds
    rw [(bounds_of_reachesCased follows).reachesCased_append, follows, Bool.not_true,
      Bool.and_false, Bool.and_false]

theorem IsSteady.lowercaseBetween_eq (steady : IsSteady cs) (before after : List Char) :
    lowercaseBetween before after cs = lowercaseChars cs := by
  have part (front back : List Char) (split : cs = front ++ back) :
      lowercaseBetween (front.reverse ++ before) after back =
        lowercaseBetween front.reverse [] back := by
    induction back generalizing front with
    | nil => rfl
    | cons c back ih =>
        have others := ih (front ++ [c]) (by rw [split, List.append_assoc]; rfl)
        simp only [List.reverse_append, List.reverse_singleton, List.cons_append,
          List.nil_append] at others
        rw [lowercaseBetween, lowercaseBetween, others]
        by_cases sigma : c = 'Σ'
        · subst sigma
          have whole : IsSteady (front ++ 'Σ' :: back) := split ▸ steady
          rw [whole.lowercaseWithin_eq, List.append_nil]
        · rw [lowercaseWithin_of_ne sigma, lowercaseWithin_of_ne sigma]
  rw [lowercaseChars, lowercaseAfter_eq]
  exact part [] cs rfl

theorem lowercaseChars_append (front cs back : List Char) :
    lowercaseChars (front ++ (cs ++ back)) = lowercaseBetween [] (cs ++ back) front ++
      (lowercaseBetween front.reverse back cs ++
        lowercaseBetween (cs.reverse ++ front.reverse) [] back) := by
  rw [lowercaseChars, lowercaseAfter_eq, lowercaseBetween_append, lowercaseBetween_append]
  simp only [List.append_nil]

theorem IsSteady.lowercaseChars_occurs (steady : IsSteady cs) {whole : List Char}
    (found : cs <:+: whole) : lowercaseChars cs <:+: lowercaseChars whole := by
  obtain ⟨front, back, rfl⟩ := found
  rw [List.append_assoc, lowercaseChars_append, steady.lowercaseBetween_eq]
  exact ⟨_, _, List.append_assoc _ _ _⟩

/-! ## Texts that are not steady -/

/-- Around a sigma, only its own form depends on what stands around the text, where no other sigma
lies on the side of the text that it borders on. -/
theorem lowercaseBetween_sigma (leading : before = [] ∨ 'Σ' ∉ front)
    (trailing : after = [] ∨ 'Σ' ∉ back) :
    lowercaseBetween before after (front ++ 'Σ' :: back) =
      lowercaseBetween [] ('Σ' :: back) front ++
        (lowercaseWithin (front.reverse ++ before) 'Σ' (back ++ after) ++
          lowercaseBetween ('Σ' :: front.reverse) [] back) := by
  have first : lowercaseBetween before ('Σ' :: back) front =
      lowercaseBetween [] ('Σ' :: back) front := by
    cases leading with
    | inl nothing => rw [nothing]
    | inr noSigma => rw [lowercaseBetween_of_notMem noSigma, lowercaseBetween_of_notMem noSigma]
  have last : lowercaseBetween ('Σ' :: front.reverse) after back =
      lowercaseBetween ('Σ' :: front.reverse) [] back := by
    cases trailing with
    | inl nothing => rw [nothing]
    | inr noSigma => rw [lowercaseBetween_of_notMem noSigma, lowercaseBetween_of_notMem noSigma]
  have inner := lowercaseBetween_after_append (bounds_sigma back) before after front
  have outer := lowercaseBetween_before_append (bounds_sigma front.reverse) before after back
  rw [List.cons_append] at inner outer
  rw [lowercaseBetween_append, lowercaseBetween, List.cons_append, inner, outer, first, last]

/-- A text with more of some character than another does not occur in it. -/
theorem not_infix_of_replaced {c d : Char} (other : c ≠ d) {outer inner : List Char}
    (outerFree : c ∉ outer) (innerFree : c ∉ inner) :
    ¬ front ++ (c :: back) <:+: outer ++ (front ++ (d :: back) ++ inner) := by
  intro found
  have counted := found.sublist.count_le c
  simp only [List.count_append, List.count_eq_zero_of_not_mem outerFree,
    List.count_eq_zero_of_not_mem innerFree, List.count_cons_self,
    List.count_cons_of_ne (Ne.symm other)] at counted
  omega

theorem lowercaseBetween_letter (before after : List Char) :
    lowercaseBetween before after ['a'] = ['a'] := by
  have alone : lowercaseChar 'a' = ['a'] := by decide +kernel
  rw [lowercaseBetween_of_notMem (by decide), List.flatMap_singleton, alone]

theorem lowercaseWithin_final (reached : reachesCased before = true)
    (ends : reachesCased after = false) : lowercaseWithin before 'Σ' after = ['ς'] := by
  rw [lowercaseWithin, if_pos rfl, reached, ends]
  rfl

theorem lowercaseWithin_medial (inside : reachesCased before = false ∨ reachesCased after = true) :
    lowercaseWithin before 'Σ' after = ['σ'] := by
  rw [lowercaseWithin, if_pos rfl]
  cases inside with
  | inl apart => rw [apart, Bool.false_and, if_neg Bool.false_ne_true]
  | inr goesOn => rw [goesOn, Bool.not_true, Bool.and_false, if_neg Bool.false_ne_true]

theorem lowercaseChars_sigma (front back : List Char) :
    lowercaseChars (front ++ 'Σ' :: back) =
      lowercaseBetween [] ('Σ' :: back) front ++ (lowercaseWithin front.reverse 'Σ' back ++
        lowercaseBetween ('Σ' :: front.reverse) [] back) := by
  rw [lowercaseChars, lowercaseAfter_eq, lowercaseBetween_sigma (.inl rfl) (.inl rfl),
    List.append_nil, List.append_nil]

/-- A text that is not steady occurs in another one whose lowercase form its own does not occur in:
with a letter beside it, the form of one sigma changes and nothing else does. -/
theorem exists_lowercaseChars_lost (unsteady : ¬ IsSteady cs) :
    ∃ whole, cs <:+: whole ∧ ¬ lowercaseChars cs <:+: lowercaseChars whole := by
  unfold IsSteady at unsteady
  push Not at unsteady
  obtain ⟨front, back, rfl, depends⟩ := unsteady
  have cased : reachesCased ['a'] = true := by decide +kernel
  by_cases leading : Bounds front ∨ reachesCased back = true
  · obtain ⟨passed, reached⟩ := depends leading
    have final : lowercaseWithin front.reverse 'Σ' back = ['ς'] :=
      lowercaseWithin_final (by simpa using reached)
        (Bool.eq_false_iff.mpr (mt bounds_of_reachesCased passed))
    have medial : lowercaseWithin (front.reverse ++ []) 'Σ' (back ++ ['a']) = ['σ'] :=
      lowercaseWithin_medial (.inr ((reachesCased_append_of_not_bounds passed _).trans cased))
    refine ⟨[] ++ ((front ++ 'Σ' :: back) ++ ['a']), ⟨[], ['a'], List.append_assoc _ _ _⟩, ?_⟩
    rw [lowercaseChars_append, lowercaseChars_sigma, List.reverse_nil,
      lowercaseBetween_sigma (.inl rfl) (.inr (sigma_notMem_of_not_bounds passed)), final, medial,
      List.append_nil, lowercaseBetween_letter]
    exact not_infix_of_replaced (by decide) List.not_mem_nil (by decide)
  · obtain ⟨passed, reached⟩ := not_or.mp leading
    have passedBack : ¬ Bounds front.reverse := mt bounds_reverse.mp passed
    have medial : lowercaseWithin front.reverse 'Σ' back = ['σ'] :=
      lowercaseWithin_medial (.inl (Bool.eq_false_iff.mpr (mt bounds_of_reachesCased passedBack)))
    have final : lowercaseWithin (front.reverse ++ ['a']) 'Σ' (back ++ []) = ['ς'] := by
      rw [List.append_nil]
      exact lowercaseWithin_final ((reachesCased_append_of_not_bounds passedBack _).trans cased)
        (Bool.eq_false_iff.mpr reached)
    refine ⟨['a'] ++ ((front ++ 'Σ' :: back) ++ []), ⟨['a'], [], List.append_assoc _ _ _⟩, ?_⟩
    rw [lowercaseChars_append, lowercaseChars_sigma, List.reverse_singleton,
      lowercaseBetween_sigma (.inr (sigma_notMem_of_not_bounds passed)) (.inl rfl), medial, final,
      lowercaseBetween_letter]
    exact not_infix_of_replaced (by decide) (by decide) List.not_mem_nil

end FileSearch.Unicode
