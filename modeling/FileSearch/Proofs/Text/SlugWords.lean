import FileSearch.Proofs.Text.Bytes
import FileSearch.Proofs.Text.Slug

/-!
# The words of a slug

A slug is its name's words with one dash between them, cut to the length limit. A word is what the
kept characters between two separators leave; other characters do not end it.
-/

set_option autoImplicit false

namespace FileSearch.Text.Slug

/-- What a slug shows of a character of a name: letters and digits of ASCII in lower case, dashes
for separators, and nothing of others. -/
def shown? (c : Char) : Option Char :=
  if c.isAlphanum then some c.toLower
  else if c ∈ ['-', '_', '.'] ∨ isBlank c = true then some '-'
  else none

/-- What a name shows between its separators. There may be nothing. -/
def segments (name : List Char) : List (List Char) :=
  (name.filterMap shown?).splitOnP (· == '-')

def words (name : List Char) : List (List Char) :=
  (segments name).filter fun segment => !segment.isEmpty

/-- The slug of a name as it would be without a limit. -/
def joined (name : List Char) : List Char :=
  if (words name).isEmpty then fallback.toList else ['-'].intercalate (words name)

/-- What a slug shows of a name behind a kept character: the first segment goes on with its
word. -/
def continued (name : List Char) : List Char :=
  match segments name with
  | [] => []
  | first :: others => ['-'].intercalate (first :: others.filter fun segment => !segment.isEmpty)

variable {c : Char} {name : List Char}

/-! ## One character more -/

theorem isSeparator_iff : isSeparator c = true ↔ c ∈ ['-', '_', '.'] ∨ isBlank c = true := by
  simp [isSeparator, or_assoc]

theorem shown?_of_kept (kept : isKept c = true) : shown? c = some c.toLower :=
  if_pos kept

theorem shown?_of_not_kept (dropped : isKept c = false) :
    shown? c = if isSeparator c then some '-' else none := by
  have noLetter : ¬ c.isAlphanum = true := Bool.eq_false_iff.mp dropped
  simp only [shown?, if_neg noLetter, isSeparator_iff]

theorem segments_of_kept (kept : isKept c = true) :
    segments (c :: name) = (segments name).modifyHead (c.toLower :: ·) := by
  have noDash : (c.toLower == '-') = false :=
    beq_eq_false_iff_ne.mpr (ne_dash_of_isKept (isKept_toLower kept))
  rw [segments, List.filterMap_cons_some (shown?_of_kept kept),
    List.splitOnP_cons_eq_if_modifyHead, noDash, if_neg Bool.false_ne_true]
  rfl

theorem segments_of_separator (dropped : isKept c = false) (separates : isSeparator c = true) :
    segments (c :: name) = [] :: segments name := by
  have shown : shown? c = some '-' := by rw [shown?_of_not_kept dropped, if_pos separates]
  rw [segments, List.filterMap_cons_some shown, List.splitOnP_cons_eq_if_modifyHead]
  rfl

theorem segments_of_other (dropped : isKept c = false) (joins : isSeparator c = false) :
    segments (c :: name) = segments name := by
  have hidden : shown? c = none := by
    rw [shown?_of_not_kept dropped, joins, if_neg Bool.false_ne_true]
  rw [segments, List.filterMap_cons_none hidden]
  rfl

theorem exists_segments (name : List Char) : ∃ first others, segments name = first :: others :=
  List.exists_cons_of_ne_nil (List.splitOnP_ne_nil _ _)

theorem continued_of_kept (kept : isKept c = true) :
    continued (c :: name) = c.toLower :: continued name := by
  obtain ⟨first, others, cut⟩ := exists_segments name
  rw [continued, continued, segments_of_kept kept, cut, List.modifyHead_cons]
  exact List.intercalate_cons_cons_left

theorem intercalate_words_of_kept (kept : isKept c = true) :
    ['-'].intercalate (words (c :: name)) = c.toLower :: continued name := by
  obtain ⟨first, others, cut⟩ := exists_segments name
  rw [words, continued, segments_of_kept kept, cut, List.modifyHead_cons,
    List.filter_cons_of_pos rfl]
  exact List.intercalate_cons_cons_left

theorem words_of_separator (dropped : isKept c = false) (separates : isSeparator c = true) :
    words (c :: name) = words name := by
  rw [words, segments_of_separator dropped separates, List.filter_cons_of_neg (by simp)]
  rfl

theorem continued_of_separator (dropped : isKept c = false) (separates : isSeparator c = true) :
    continued (c :: name) =
      if words name = [] then [] else '-' :: ['-'].intercalate (words name) := by
  rw [continued, segments_of_separator dropped separates]
  change ['-'].intercalate ([] :: words name) = _
  split
  · rename_i nothing
    rw [nothing, List.intercalate_singleton]
  · rename_i listed
    rw [List.intercalate_cons_of_ne_nil listed]
    rfl

/-! ## Whole names -/

theorem intercalate_words_eq_nil_iff : ['-'].intercalate (words name) = [] ↔ words name = [] := by
  constructor
  · intro nothing
    cases listed : words name with
    | nil => rfl
    | cons word others =>
        have member : word ∈ words name := listed ▸ List.mem_cons_self
        have solid : word ≠ [] := by simpa using (List.mem_filter.mp member).2
        rw [listed] at nothing
        cases others with
        | nil =>
            rw [List.intercalate_singleton] at nothing
            exact absurd nothing solid
        | cons second others =>
            rw [List.intercalate_cons_cons, List.append_assoc] at nothing
            exact absurd (List.append_eq_nil_iff.mp nothing).1 solid
  · intro nothing
    rw [nothing, List.intercalate_nil]

theorem dropTrailingDashes_dashed (name : List Char) :
    dropTrailingDashes (dashed false name) = continued name ∧
      dropTrailingDashes (dashed true name) = ['-'].intercalate (words name) := by
  induction name with
  | nil => exact ⟨rfl, rfl⟩
  | cons c name ih =>
      obtain ⟨behind, fresh⟩ := ih
      cases kept : isKept c with
      | true =>
          have noDash : c.toLower ≠ '-' := ne_dash_of_isKept (isKept_toLower kept)
          have left : dropTrailingDashes (c.toLower :: dashed false name) =
              c.toLower :: continued name := by
            rw [dropTrailingDashes_of_ne noDash, behind]
          constructor
          · rw [dashed, if_pos kept, left, continued_of_kept kept]
          · rw [dashed, if_pos kept, left, intercalate_words_of_kept kept]
      | false =>
          cases separates : isSeparator c with
          | true =>
              have marked : dashed false (c :: name) = '-' :: dashed true name := by
                simp [dashed, kept, separates]
              have passed : dashed true (c :: name) = dashed true name := by
                simp [dashed, kept]
              constructor
              · rw [marked, dropTrailingDashes_dash, fresh, continued_of_separator kept separates]
                simp only [intercalate_words_eq_nil_iff]
              · rw [passed, fresh, words_of_separator kept separates]
          | false =>
              have passed (before : Bool) : dashed before (c :: name) = dashed before name := by
                simp [dashed, kept, separates]
              have segmented : segments (c :: name) = segments name :=
                segments_of_other kept separates
              constructor
              · rw [passed, behind, continued, continued, segmented]
              · rw [passed, fresh, words, words, segmented]

theorem uncapped_eq (name : List Char) : uncapped name = ['-'].intercalate (words name) :=
  (dropTrailingDashes_dashed name).2

theorem joined_eq (name : List Char) :
    joined name = if (uncapped name).isEmpty then fallback.toList else uncapped name := by
  have same : (uncapped name).isEmpty = (words name).isEmpty := by
    rw [Bool.eq_iff_iff, List.isEmpty_iff, List.isEmpty_iff, uncapped_eq,
      intercalate_words_eq_nil_iff]
  rw [joined, same, uncapped_eq]

theorem chars_eq_joined (name : List Char) : chars name = (joined name).take maxLength := by
  rw [chars_eq_take, joined_eq]

theorem toNat_of_mem_joined (member : c ∈ joined name) : c.toNat < 128 := by
  rw [joined_eq] at member
  cases mem_uncut member with
  | inl kept =>
      rw [isKept_iff] at kept
      omega
  | inr dash =>
      rw [dash]
      decide

/-- A list that dashing leaves as it is has no two dashes in a row. -/
theorem not_dashes_infix {cs : List Char} (stable : dashed true cs = cs) :
    ¬ ['-', '-'] <:+: cs := by
  intro found
  obtain ⟨front, back, rfl⟩ := found
  -- Dashing the two in a row would have left one of them at most.
  have shorter (before : Bool) : (dashed before ('-' :: '-' :: back)).length ≤ back.length + 1 := by
    have rest := length_dashed_le true back
    cases before <;> simp [dashed] <;> omega
  have inFront := length_dashed_le true front
  have lengths := congrArg List.length stable
  rw [List.append_assoc, dashed_append, List.length_append, List.length_append] at lengths
  have last := shorter (afterDash true front)
  simp only [List.cons_append, List.nil_append, List.length_cons] at lengths
  omega

/-- The bytes of a slug are the first ones of the name's words with one dash between them, or of a
word of its own if there are none. So the limit cuts between two characters, and all that it can
leave at the end is one dash, which the slug of the slug does not have. -/
theorem ofName_eq_joined (name : String) :
    Bytes.ofText (ofName name) =
        (Bytes.ofText (String.ofList (joined name.toList))).take maxLength ∧
      IsSlug (ofName name) ∧ ¬ ['-', '-'] <:+: (ofName name).toList ∧
      ofName (ofName name) = String.ofList ((ofName name).toList.rdropWhile (· == '-')) := by
  refine ⟨?_, isSlug_ofName name, ?_, ofName_ofName name⟩
  · -- The words are ASCII, so each of their characters is one byte.
    have ascii : ∀ c ∈ joined name.toList, c.toNat < 128 := fun _ member =>
      toNat_of_mem_joined member
    rw [ofName, chars_eq_joined, Bytes.ofText_ofList_of_ascii ascii, ← List.map_take]
    exact Bytes.ofText_ofList_of_ascii fun c member => ascii c (List.mem_of_mem_take member)
  · rw [ofName, String.toList_ofList]
    exact not_dashes_infix (dashed_chars name.toList)

end FileSearch.Text.Slug
