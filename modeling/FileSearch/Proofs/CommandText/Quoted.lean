import FileSearch.CommandText.Quoted
import FileSearch.Proofs.Text.Slug

/-!
# Arguments in quotes

An argument that is not plain is written as the pieces between its single quotes, each piece in
quotes of its own and an escaped quote between each two.
-/

set_option autoImplicit false

namespace FileSearch.CommandText

/-! ## Plain characters -/

/-- The characters that have no meaning of their own to a shell. -/
def IsHarmless (c : Char) : Prop :=
  ('A' ≤ c ∧ c ≤ 'Z') ∨ ('a' ≤ c ∧ c ≤ 'z') ∨ ('0' ≤ c ∧ c ≤ '9') ∨
    c ∈ ['-', '_', '.', '/', '=', ':', ',', '+', '@', '%']

theorem isPlain_iff {c : Char} : isPlain c = true ↔ IsHarmless c := by
  have kept := Text.Slug.isKept_iff (c := c)
  rw [isPlain, Bool.or_eq_true]
  change Text.Slug.isKept c = true ∨ _ ↔ _
  simp only [kept, IsHarmless, Char.le_def, UInt32.le_iff_toNat_le, List.contains_iff_mem]
  change _ ↔ (65 ≤ c.toNat ∧ c.toNat ≤ 90) ∨ (97 ≤ c.toNat ∧ c.toNat ≤ 122) ∨
    (48 ≤ c.toNat ∧ c.toNat ≤ 57) ∨ c ∈ "-_./=:,+@%".toList
  tauto

theorem isBlank_of_isPlain {c : Char} (plain : isPlain c = true) : Text.isBlank c = false := by
  rw [isPlain, Bool.or_eq_true] at plain
  rcases plain with kept | listed
  · exact Text.Slug.isBlank_of_isKept kept
  · have solid : "-_./=:,+@%".toList.all (fun c => !Text.isBlank c) = true := by decide
    simpa using List.all_eq_true.mp solid c (List.contains_iff_mem.mp listed)

/-- Plain characters are none of those that are not. -/
theorem ne_of_isPlain {c d : Char} (plain : isPlain c = true) (special : isPlain d = false) :
    c ≠ d := by
  rintro rfl
  rw [special] at plain
  cases plain

/-! ## Pieces between quotes -/

def inQuotes (piece : List Char) : List Char :=
  '\'' :: (piece ++ ['\''])

theorem quote_notMem_of_mem_splitOn {piece cs : List Char} (listed : piece ∈ cs.splitOn '\'') :
    '\'' ∉ piece := by
  induction cs generalizing piece with
  | nil => simp_all
  | cons c cs ih =>
      rw [List.splitOn_cons_eq_if_modifyHead] at listed
      split at listed
      · rcases List.mem_cons.mp listed with rfl | later
        · exact List.not_mem_nil
        · exact ih later
      · rename_i noQuote
        obtain ⟨first, others, pieces⟩ :=
          List.exists_cons_of_ne_nil (List.splitOn_ne_nil '\'' cs)
        rw [pieces] at ih
        rw [pieces, List.modifyHead_cons] at listed
        rcases List.mem_cons.mp listed with rfl | later
        · intro quote
          rcases List.mem_cons.mp quote with rfl | inner
          · exact noQuote (beq_self_eq_true _)
          · exact ih List.mem_cons_self inner
        · exact ih (List.mem_cons_of_mem first later)

/-- In quotes, an argument is the pieces between its own quotes, each in quotes, with an escaped
quote between each two. -/
theorem cons_flatMap_quotedChar (cs : List Char) :
    '\'' :: (cs.flatMap quotedChar ++ ['\'']) =
      ['\\', '\''].intercalate ((cs.splitOn '\'').map inQuotes) := by
  induction cs with
  | nil => rfl
  | cons c cs ih =>
      rw [List.splitOn_cons_eq_if_modifyHead, List.flatMap_cons]
      split
      · rename_i quote
        rw [beq_iff_eq] at quote
        subst quote
        rw [List.map_cons, List.intercalate_cons_of_ne_nil (by simp), ← ih]
        rfl
      · rename_i noQuote
        rw [beq_iff_eq] at noQuote
        obtain ⟨first, others, pieces⟩ :=
          List.exists_cons_of_ne_nil (List.splitOn_ne_nil '\'' cs)
        rw [pieces, List.map_cons, inQuotes, List.intercalate_cons_cons_left] at ih
        injection ih with _ inner
        rw [pieces, List.modifyHead_cons, List.map_cons, inQuotes, List.cons_append,
          List.intercalate_cons_cons_left, List.intercalate_cons_cons_left, quotedChar,
          if_neg noQuote, List.singleton_append, List.cons_append, inner]

theorem quoteChars_cases (cs : List Char) :
    (cs ≠ [] ∧ (∀ c ∈ cs, isPlain c = true) ∧ quoteChars cs = cs) ∨
      quoteChars cs = ['\\', '\''].intercalate ((cs.splitOn '\'').map inQuotes) := by
  unfold quoteChars
  split
  · rename_i plain
    rw [Bool.and_eq_true, Bool.not_eq_true', List.isEmpty_eq_false_iff, List.all_eq_true] at plain
    exact .inl ⟨plain.1, plain.2, rfl⟩
  · exact .inr (cons_flatMap_quotedChar cs)

theorem toList_render (arguments : List String) :
    (render arguments).toList =
      [' '].intercalate (arguments.map fun argument => quoteChars argument.toList) := by
  rw [render, String.toList_intercalate, List.map_map]
  congr 1
  apply List.map_congr_left
  intro argument _
  exact String.toList_ofList

end FileSearch.CommandText
