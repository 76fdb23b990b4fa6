import FileSearch.Proofs.Text.Blank
import FileSearch.Text.Truncate
import Mathlib.Data.String.Basic

/-!
# Cut texts

A cut text is the longest leading part of the text it comes from that is within the limit, so it is
the text itself where that is. Cutting never makes a trimmed text blank.
-/

set_option autoImplicit false

namespace FileSearch.Text

theorem takeBytes_prefix (limit : Nat) (cs : List Char) : takeBytes limit cs <+: cs := by
  induction cs generalizing limit with
  | nil => exact List.nil_prefix
  | cons c rest ih =>
      unfold takeBytes
      split
      · exact List.cons_prefix_cons.mpr ⟨rfl, ih _⟩
      · exact List.nil_prefix

theorem takeBytes_eq_self {limit : Nat} {cs : List Char} (within : String.utf8Len cs ≤ limit) :
    takeBytes limit cs = cs := by
  induction cs generalizing limit with
  | nil => rfl
  | cons c rest ih =>
      simp only [String.utf8Len_cons] at within
      unfold takeBytes
      rw [if_pos (by omega), ih (by omega)]

/-- Every limit of four bytes or more has room for the first character. -/
theorem takeBytes_cons {limit : Nat} (room : 4 ≤ limit) (c : Char) (cs : List Char) :
    takeBytes limit (c :: cs) = c :: takeBytes (limit - c.utf8Size) cs := by
  have size := c.utf8Size_le_four
  simp only [takeBytes]
  rw [if_pos (by omega)]

theorem truncate_eq_self {text : String} {limit : Nat} (within : text.utf8ByteSize ≤ limit) :
    truncate text limit = text := by
  rw [truncate, takeBytes_eq_self (by rwa [String.utf8Len_toList]), String.ofList_toList]

theorem utf8Len_takeBytes_le (limit : Nat) (cs : List Char) :
    String.utf8Len (takeBytes limit cs) ≤ limit := by
  induction cs generalizing limit with
  | nil => exact Nat.zero_le _
  | cons c rest ih =>
      unfold takeBytes
      split
      · have inner := ih (limit - c.utf8Size)
        rw [String.utf8Len_cons]
        omega
      · exact Nat.zero_le _

theorem utf8ByteSize_truncate_le (text : String) (limit : Nat) :
    (truncate text limit).utf8ByteSize ≤ limit := by
  rw [← String.utf8Len_toList, truncate, String.toList_ofList]
  exact utf8Len_takeBytes_le limit text.toList

/-! ## The longest part -/

theorem prefix_takeBytes {limit : Nat} {part cs : List Char} (leading : part <+: cs)
    (within : String.utf8Len part ≤ limit) : part <+: takeBytes limit cs := by
  induction cs generalizing limit part with
  | nil =>
      rw [List.prefix_nil.mp leading]
      exact List.nil_prefix
  | cons c rest ih =>
      cases part with
      | nil => exact List.nil_prefix
      | cons d part =>
          obtain ⟨same, further⟩ := List.cons_prefix_cons.mp leading
          subst same
          rw [String.utf8Len_cons] at within
          rw [takeBytes, if_pos (by omega), List.cons_prefix_cons]
          exact ⟨rfl, ih further (by omega)⟩

/-- The longest part from the beginning of a text to the end of one of its characters that has at
most so many bytes. -/
structure IsCut (limit : Nat) (text part : String) : Prop where
  leading : part.toList <+: text.toList
  within : part.utf8ByteSize ≤ limit
  longest : ∀ other : String, other.toList <+: text.toList → other.utf8ByteSize ≤ limit →
    other.toList <+: part.toList

theorem isCut_truncate (text : String) (limit : Nat) : IsCut limit text (truncate text limit) := by
  constructor
  · rw [truncate, String.toList_ofList]
    exact takeBytes_prefix limit text.toList
  · exact utf8ByteSize_truncate_le text limit
  · intro other leading within
    rw [truncate, String.toList_ofList]
    exact prefix_takeBytes leading (by rwa [String.utf8Len_toList])

theorem IsCut.truncate_eq {limit : Nat} {text part : String} (cut : IsCut limit text part) :
    truncate text limit = part := by
  have found := isCut_truncate text limit
  have shorter := cut.longest _ found.leading found.within
  have longer := found.longest part cut.leading cut.within
  exact String.toList_inj.mp (shorter.eq_of_length_le longer.length_le)

theorem truncate_truncate (text : String) (limit : Nat) :
    truncate (truncate text limit) limit = truncate text limit :=
  truncate_eq_self (utf8ByteSize_truncate_le text limit)

theorem utf8ByteSize_trim_le (text : String) : (trim text).utf8ByteSize ≤ text.utf8ByteSize := by
  obtain ⟨front, back, split, -⟩ := exists_eq_append_trimChars text.toList
  rw [← String.utf8Len_toList, ← String.utf8Len_toList, trim, String.toList_ofList]
  conv_rhs => rw [split, String.utf8Len_append, String.utf8Len_append]
  omega

/-- The first character of a trimmed text is not blank, and a cut leaves it. -/
theorem trim_truncate_ne_empty {text : String} {limit : Nat} (room : 4 ≤ limit)
    (trimmed : trim text = text) (solid : trim text ≠ "") :
    trim (truncate text limit) ≠ "" := by
  have chars : trimChars text.toList = text.toList := by
    rw [← String.toList_ofList (l := trimChars text.toList)]
    exact congrArg String.toList trimmed
  rw [ne_eq, trim_eq_empty_iff] at solid ⊢
  rw [truncate, String.toList_ofList]
  cases written : text.toList with
  | nil =>
      rw [written] at solid
      exact absurd rfl solid
  | cons c rest =>
      rw [written] at chars
      rw [takeBytes_cons room]
      exact trimChars_ne_nil_of_head (isBlank_head_trimChars chars)

end FileSearch.Text
