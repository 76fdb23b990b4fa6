import FileSearch.Text.Blank
import Mathlib.Data.List.DropRight

/-!
# Trimming

Trimming takes blanks off the two ends of a text and nothing else. A trimmed text is empty or
begins with a character that is not blank.
-/

set_option autoImplicit false

namespace FileSearch.Text

theorem trimChars_eq_rdropWhile (cs : List Char) :
    trimChars cs = (cs.dropWhile isBlank).rdropWhile isBlank := rfl

/-- What trimming takes away is blank and stands at the ends. -/
theorem exists_eq_append_trimChars (cs : List Char) :
    ∃ front back, cs = front ++ (trimChars cs ++ back) ∧
      (∀ c ∈ front, isBlank c = true) ∧ ∀ c ∈ back, isBlank c = true := by
  refine ⟨cs.takeWhile isBlank, (cs.dropWhile isBlank).rtakeWhile isBlank, ?_, ?_, ?_⟩
  · rw [trimChars_eq_rdropWhile, List.rdropWhile_append_rtakeWhile,
      List.takeWhile_append_dropWhile]
  · exact fun _ member => List.mem_takeWhile_imp member
  · exact fun _ member => List.mem_rtakeWhile_imp member

theorem trimChars_eq_nil_iff {cs : List Char} :
    trimChars cs = [] ↔ ∀ c ∈ cs, isBlank c = true := by
  rw [trimChars_eq_rdropWhile, List.rdropWhile_eq_nil_iff]
  constructor
  · intro blank c member
    rw [← List.takeWhile_append_dropWhile (p := isBlank) (l := cs)] at member
    rcases List.mem_append.mp member with before | behind
    · exact List.mem_takeWhile_imp before
    · exact blank c behind
  · intro blank c member
    exact blank c ((List.dropWhile_suffix isBlank).subset member)

theorem isBlank_head_trimChars {c : Char} {cs rest : List Char}
    (trimmed : trimChars cs = c :: rest) : isBlank c = false := by
  have leading : trimChars cs <+: cs.dropWhile isBlank := List.rdropWhile_prefix _ _
  rw [trimmed] at leading
  obtain ⟨back, split⟩ := leading
  have head := List.head?_dropWhile_not isBlank cs
  rw [← split] at head
  simpa using head

/-- A text is not all blank if its first character is not. -/
theorem trimChars_ne_nil_of_head {c : Char} {cs : List Char} (solid : isBlank c = false) :
    trimChars (c :: cs) ≠ [] := by
  intro empty
  have blank := trimChars_eq_nil_iff.mp empty c List.mem_cons_self
  rw [solid] at blank
  cases blank

/-- There is nothing to trim where nothing is blank. -/
theorem trimChars_of_solid {cs : List Char} (solid : ∀ c ∈ cs, isBlank c = false) :
    trimChars cs = cs := by
  have front : cs.dropWhile isBlank = cs := by
    cases cs with
    | nil => rfl
    | cons c rest => exact List.dropWhile_cons_of_neg (by simp [solid c])
  rw [trimChars_eq_rdropWhile, front, List.rdropWhile_eq_self_iff]
  intro notNil
  simp [solid]

theorem trimChars_trimChars (cs : List Char) : trimChars (trimChars cs) = trimChars cs := by
  have front : (trimChars cs).dropWhile isBlank = trimChars cs := by
    cases trimmed : trimChars cs with
    | nil => rfl
    | cons c rest =>
        rw [List.dropWhile_cons_of_neg]
        simp [isBlank_head_trimChars trimmed]
  rw [trimChars_eq_rdropWhile, front, trimChars_eq_rdropWhile, List.rdropWhile_idempotent]

theorem trim_trim (text : String) : trim (trim text) = trim text := by
  rw [trim, trim, String.toList_ofList, trimChars_trimChars]

theorem trim_eq_empty_iff {text : String} : trim text = "" ↔ trimChars text.toList = [] := by
  rw [trim, ← String.toList_eq_nil_iff, String.toList_ofList]

theorem trim_ne_empty_iff {text : String} :
    trim text ≠ "" ↔ ∃ c ∈ text.toList, isBlank c = false := by
  rw [ne_eq, trim_eq_empty_iff, trimChars_eq_nil_iff]
  simp

end FileSearch.Text
