import FileSearch.Proofs.Text.Bytes
import FileSearch.Proofs.Text.Truncate
import Mathlib.Tactic.SplitIfs

/-!
# The way back from a limit

A limit may fall inside a character. The way back from there ends at the first byte of that
character, at most three bytes before the limit, and so finds the cut that is found from the other
end by taking characters as long as they fit.
-/

set_option autoImplicit false

namespace FileSearch.Text

open Bytes (isContinuation ofText)

/-! ## Boundaries -/

/-- The way back stops at the first boundary that it comes to. -/
theorem lastBoundary?_eq_some_iff {bytes : Bytes} {position stop : UInt64} :
    lastBoundary? bytes position = some stop ↔
      stop ≤ position ∧ isBoundary bytes stop = true ∧
        ∀ passed, stop < passed → passed ≤ position → isBoundary bytes passed = false := by
  fun_induction lastBoundary? bytes position with
  | case1 position boundary =>
      constructor
      · intro found
        cases found
        exact ⟨UInt64.le_refl _, boundary, by grind⟩
      · rintro ⟨upTo, -, others⟩
        by_cases stops : stop = position
        · rw [stops]
        · have passed := others position (by grind) (UInt64.le_refl _)
          rw [boundary] at passed
          cases passed
  | case2 position inside notZero ih =>
      have step (passed : UInt64) :
          passed ≤ position ↔ passed ≤ position - 1 ∨ passed = position := by
        have previous := toNat_sub_one notZero
        rw [UInt64.le_iff_toNat_le, UInt64.le_iff_toNat_le, ← UInt64.toNat_inj]
        omega
      rw [ih]
      simp only [step]
      grind
  -- Zero is a boundary.
  | case3 position inside zero => grind [isBoundary]

theorem isBoundary_of_leads {front back : Bytes} {first : UInt8}
    (leads : isContinuation first = false) {position : UInt64}
    (here : position.toNat = front.length) :
    isBoundary (front ++ first :: back) position = true := by
  simp [isBoundary, here, leads]

theorem isBoundary_of_follow {front more back : Bytes} {first : UInt8}
    (follow : ∀ byte ∈ more, isContinuation byte = true) {position : UInt64}
    (behind : front.length < position.toNat)
    (within : position.toNat ≤ front.length + more.length) :
    isBoundary (front ++ first :: (more ++ back)) position = false := by
  obtain ⟨offset, place⟩ : ∃ offset, position.toNat = front.length + (offset + 1) :=
    ⟨position.toNat - front.length - 1, by omega⟩
  have inMore : offset < more.length := by omega
  have notZero : position ≠ 0 := by
    rintro rfl
    exact absurd behind (Nat.not_lt_zero _)
  have byte : (front ++ first :: (more ++ back))[position.toNat]? = some more[offset] := by
    rw [place, List.getElem?_append_right (Nat.le_add_right ..), Nat.add_sub_cancel_left,
      List.getElem?_cons_succ, List.getElem?_append_left inMore, List.getElem?_eq_getElem inMore]
  have continues := follow more[offset] (List.getElem_mem inMore)
  simp [isBoundary, notZero, byte, continues]

/-- A character begins with a byte that continues none, and at most three more follow that do. -/
theorem exists_utf8EncodeChar_eq_cons (c : Char) :
    ∃ first more, String.utf8EncodeChar c = first :: more ∧ isContinuation first = false ∧
      (∀ byte ∈ more, isContinuation byte = true) ∧ more.length ≤ 3 := by
  have scalar : c.val.toNat < 0xD800 ∨ 0xDFFF < c.val.toNat ∧ c.val.toNat < 0x110000 := c.valid
  unfold String.utf8EncodeChar
  generalize c.val.toNat = n at scalar
  dsimp only
  split_ifs
  all_goals
    refine ⟨_, _, rfl, ?_, ?_, ?_⟩
    · simp [isContinuation, UInt8.le_iff_toNat_le]; omega
    · simp [isContinuation, UInt8.le_iff_toNat_le]; try omega
    · simp

/-! ## Cuts -/

/-- Where a text goes on behind a cut, it goes on with a character that does not fit. -/
theorem exists_eq_takeBytes_append {limit : Nat} {cs : List Char}
    (beyond : limit < String.utf8Len cs) :
    ∃ c rest, cs = takeBytes limit cs ++ c :: rest ∧
      limit < String.utf8Len (takeBytes limit cs) + c.utf8Size := by
  induction cs generalizing limit with
  | nil => exact absurd beyond (Nat.not_lt_zero limit)
  | cons c rest ih =>
      rw [String.utf8Len_cons] at beyond
      by_cases fits : c.utf8Size ≤ limit
      · obtain ⟨next, more, split, tooLong⟩ := @ih (limit - c.utf8Size) (by omega)
        refine ⟨next, more, ?_, ?_⟩
        · rw [takeBytes, if_pos fits, List.cons_append, ← split]
        · rw [takeBytes, if_pos fits, String.utf8Len_cons]
          omega
      · refine ⟨c, rest, ?_, ?_⟩
        · rw [takeBytes, if_neg fits, List.nil_append]
        · rw [takeBytes, if_neg fits]
          simp only [String.utf8Len_nil]
          omega

theorem length_ofText (text : String) : (ofText text).length = text.utf8ByteSize :=
  rfl

/-- The bytes of a text that is cut: those of the part that is left, and then those of a character
that goes beyond the limit. -/
theorem exists_ofText_eq_append {text : String} {limit : Nat} (beyond : limit < text.utf8ByteSize) :
    ∃ first more back, ofText text = ofText (truncate text limit) ++ first :: (more ++ back) ∧
      isContinuation first = false ∧ (∀ byte ∈ more, isContinuation byte = true) ∧
      limit ≤ (truncate text limit).utf8ByteSize + more.length ∧ more.length ≤ 3 := by
  rw [← String.utf8Len_toList] at beyond
  obtain ⟨c, rest, split, tooLong⟩ := exists_eq_takeBytes_append beyond
  obtain ⟨first, more, encoded, leads, follow, few⟩ := exists_utf8EncodeChar_eq_cons c
  refine ⟨first, more, ofText (String.ofList rest), ?_, leads, follow, ?_, few⟩
  · have whole : text = truncate text limit ++ String.ofList (c :: rest) := by
      rw [truncate, ← String.ofList_append, ← split, String.ofList_toList]
    conv_lhs => rw [whole, Bytes.ofText_append]
    rw [Bytes.ofText_ofList, Bytes.ofText_ofList, List.flatMap_cons, encoded, List.cons_append]
  · have size : more.length + 1 = c.utf8Size := by
      rw [← String.length_utf8EncodeChar, encoded, List.length_cons]
    rw [← String.utf8Len_toList, truncate, String.toList_ofList]
    omega

/-- From a limit inside a text the way back takes at most three bytes, and ends where the part that
is left ends. -/
theorem exists_lastBoundary? {text : String} {limit : UInt64}
    (beyond : limit.toNat < text.utf8ByteSize) :
    ∃ stop, lastBoundary? (ofText text) limit = some stop ∧
      stop.toNat = (truncate text limit.toNat).utf8ByteSize ∧ stop.toNat ≤ limit.toNat ∧
      limit.toNat ≤ stop.toNat + 3 := by
  obtain ⟨first, more, back, bytes, leads, follow, reach, few⟩ := exists_ofText_eq_append beyond
  have within := utf8ByteSize_truncate_le text limit.toNat
  have size := length_ofText (truncate text limit.toNat)
  obtain ⟨stop, place⟩ : ∃ stop : UInt64, stop.toNat = (truncate text limit.toNat).utf8ByteSize :=
    ⟨.ofNat _, UInt64.toNat_ofNat_of_lt (Nat.lt_of_le_of_lt within limit.toNat_lt)⟩
  refine ⟨stop, ?_, place, by omega, by omega⟩
  rw [lastBoundary?_eq_some_iff, bytes]
  refine ⟨UInt64.le_iff_toNat_le.mpr (by omega), ?_, ?_⟩
  · exact isBoundary_of_leads leads (by omega)
  · intro passed behind upTo
    rw [UInt64.lt_iff_toNat_lt] at behind
    rw [UInt64.le_iff_toNat_le] at upTo
    exact isBoundary_of_follow follow (by omega) (by omega)

/-- Going back from the limit gives, for every text and every limit, the longest part within the
limit, and never goes on below zero or cuts a character. A text that is cut leaves at most three
bytes of the limit unused. -/
theorem cutBack?_eq_some_truncate (text : String) (limit : UInt64) :
    cutBack? text limit = some (truncate text limit.toNat) ∧
      IsCut limit.toNat text (truncate text limit.toNat) ∧
      (text.utf8ByteSize ≤ limit.toNat ∧ truncate text limit.toNat = text ∨
        limit.toNat < text.utf8ByteSize ∧ ∃ stop, lastBoundary? (ofText text) limit = some stop ∧
          stop.toNat = (truncate text limit.toNat).utf8ByteSize ∧ stop.toNat ≤ limit.toNat ∧
          limit.toNat ≤ stop.toNat + 3) := by
  by_cases fits : text.utf8ByteSize ≤ limit.toNat
  · have whole := truncate_eq_self fits
    refine ⟨?_, isCut_truncate text limit.toNat, .inl ⟨fits, whole⟩⟩
    rw [cutBack?, length_ofText, if_pos fits, whole]
  · have beyond := Nat.lt_of_not_le fits
    obtain ⟨stop, found, place, upTo, near⟩ := exists_lastBoundary? beyond
    refine ⟨?_, isCut_truncate text limit.toNat, .inr ⟨beyond, stop, found, place, upTo, near⟩⟩
    obtain ⟨first, more, back, bytes, -⟩ := exists_ofText_eq_append beyond
    rw [cutBack?, length_ofText, if_neg fits, found, Option.bind_some, place, ← length_ofText,
      bytes, List.take_left, Bytes.toText?_ofText]

end FileSearch.Text
