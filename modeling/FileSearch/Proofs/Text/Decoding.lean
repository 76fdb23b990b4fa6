import FileSearch.Proofs.Text.Bytes
import Mathlib.Tactic.SplitIfs

/-!
# Decoding what has been encoded

Decoding that replaces what is not UTF-8 replaces nothing in the bytes of a text: each character
comes back from its one to four bytes.
-/

set_option autoImplicit false

namespace FileSearch.Bytes

/-! ## First bytes -/

/-- The second byte of three lies in the interval that the first one allows, unless a shorter form
or a surrogate were encoded. -/
theorem exists_continuation_two (first second : UInt8)
    (leads : 0xE0 ≤ first.toNat ∧ first.toNat ≤ 0xEF)
    (follows : 0x80 ≤ second.toNat ∧ second.toNat ≤ 0xBF)
    (noShorter : first.toNat = 0xE0 → 0xA0 ≤ second.toNat)
    (noSurrogate : first.toNat = 0xED → second.toNat ≤ 0x9F) :
    ∃ low high, continuation first = some (2, low, high) ∧ ¬ (second < low ∨ high < second) := by
  simp only [continuation, Bool.and_eq_true, decide_eq_true_eq, beq_iff_eq, UInt8.le_iff_toNat_le,
    UInt8.lt_iff_toNat_lt, ← UInt8.toNat_inj, UInt8.reduceToNat]
  split_ifs
  all_goals first | omega | exact ⟨_, _, rfl, by simp only [UInt8.reduceToNat]; omega⟩

/-- The second byte of four lies in the interval that the first one allows, unless a shorter form or
a number beyond the last character were encoded. -/
theorem exists_continuation_three (first second : UInt8)
    (leads : 0xF0 ≤ first.toNat ∧ first.toNat ≤ 0xF4)
    (follows : 0x80 ≤ second.toNat ∧ second.toNat ≤ 0xBF)
    (noShorter : first.toNat = 0xF0 → 0x90 ≤ second.toNat)
    (noLarger : first.toNat = 0xF4 → second.toNat ≤ 0x8F) :
    ∃ low high, continuation first = some (3, low, high) ∧ ¬ (second < low ∨ high < second) := by
  simp only [continuation, Bool.and_eq_true, decide_eq_true_eq, beq_iff_eq, UInt8.le_iff_toNat_le,
    UInt8.lt_iff_toNat_lt, ← UInt8.toNat_inj, UInt8.reduceToNat]
  split_ifs
  all_goals first | omega | exact ⟨_, _, rfl, by simp only [UInt8.reduceToNat]; omega⟩

theorem isContinuation_of_mem {byte : UInt8} (within : 0x80 ≤ byte.toNat ∧ byte.toNat ≤ 0xBF) :
    isContinuation byte = true := by
  simp [isContinuation, UInt8.le_iff_toNat_le, within]

theorem not_lt_of_leads {first : UInt8} (leads : 0x80 ≤ first.toNat) : ¬ first < 0x80 :=
  Nat.not_lt.mpr leads

/-! ## Characters -/

theorem decodeFirst_one {first : UInt8} (ascii : first.toNat < 0x80) (rest : Bytes) :
    decodeFirst first rest = (Char.ofNat first.toNat, 0) := by
  unfold decodeFirst
  exact if_pos (UInt8.lt_iff_toNat_lt.mpr ascii)

theorem decodeFirst_two {first second : UInt8} (leads : 0xC2 ≤ first.toNat ∧ first.toNat ≤ 0xDF)
    (follows : 0x80 ≤ second.toNat ∧ second.toNat ≤ 0xBF) (rest : Bytes) :
    decodeFirst first (second :: rest) =
      (Char.ofNat (first.toNat % 32 * 64 + payload second), 1) := by
  have wide := not_lt_of_leads (show 0x80 ≤ first.toNat by omega)
  have count : continuation first = some (1, 0x80, 0xBF) := by
    simp [continuation, UInt8.le_iff_toNat_le, leads]
  have within : ¬ (second < 0x80 ∨ 0xBF < second) := by
    simp only [UInt8.lt_iff_toNat_lt, UInt8.reduceToNat]
    omega
  simp [decodeFirst, wide, count, within]

theorem decodeFirst_three {first second third low high : UInt8} (leads : 0xE0 ≤ first.toNat)
    (count : continuation first = some (2, low, high)) (within : ¬ (second < low ∨ high < second))
    (follows : 0x80 ≤ third.toNat ∧ third.toNat ≤ 0xBF) (rest : Bytes) :
    decodeFirst first (second :: third :: rest) =
      (Char.ofNat ((first.toNat % 16 * 64 + payload second) * 64 + payload third), 2) := by
  have wide := not_lt_of_leads (show 0x80 ≤ first.toNat by omega)
  simp [decodeFirst, wide, count, within, isContinuation_of_mem follows]

theorem decodeFirst_four {first second third fourth low high : UInt8} (leads : 0xF0 ≤ first.toNat)
    (count : continuation first = some (3, low, high)) (within : ¬ (second < low ∨ high < second))
    (follows : 0x80 ≤ third.toNat ∧ third.toNat ≤ 0xBF)
    (ends : 0x80 ≤ fourth.toNat ∧ fourth.toNat ≤ 0xBF) (rest : Bytes) :
    decodeFirst first (second :: third :: fourth :: rest) =
      (Char.ofNat (((first.toNat % 8 * 64 + payload second) * 64 + payload third) * 64
        + payload fourth), 3) := by
  have wide := not_lt_of_leads (show 0x80 ≤ first.toNat by omega)
  simp [decodeFirst, wide, count, within, isContinuation_of_mem follows,
    isContinuation_of_mem ends]

/-- The bytes of a character are decoded as that character, whatever follows them. -/
theorem decodeFirst_encoded (c : Char) : ∃ first more, String.utf8EncodeChar c = first :: more ∧
    ∀ rest, decodeFirst first (more ++ rest) = (c, more.length) := by
  -- Surrogates and numbers beyond the last character are not encoded.
  have scalar : c.val.toNat < 0xD800 ∨ 0xDFFF < c.val.toNat ∧ c.val.toNat < 0x110000 := c.valid
  have restored {n : Nat} (same : n = c.val.toNat) : Char.ofNat n = c := by
    rw [same]
    exact Char.ofNat_toNat c
  unfold String.utf8EncodeChar
  generalize c.val.toNat = n at scalar restored
  dsimp only
  split_ifs
  · refine ⟨_, _, rfl, fun rest => ?_⟩
    rw [List.nil_append, decodeFirst_one, restored]
    all_goals simp <;> omega
  · refine ⟨_, _, rfl, fun rest => ?_⟩
    rw [List.singleton_append, decodeFirst_two, restored]
    all_goals simp [payload] <;> omega
  · obtain ⟨low, high, count, within⟩ := exists_continuation_two
      (.ofNat (n / 4096 % 16 + 224)) (.ofNat (n / 64 % 64 + 128))
      (by simp; omega) (by simp; omega) (by simp; omega) (by simp; omega)
    refine ⟨_, _, rfl, fun rest => ?_⟩
    rw [List.cons_append, List.singleton_append, decodeFirst_three _ count within, restored]
    all_goals simp [payload] <;> omega
  · obtain ⟨low, high, count, within⟩ := exists_continuation_three
      (.ofNat (n / 262144 % 8 + 240)) (.ofNat (n / 4096 % 64 + 128))
      (by simp; omega) (by simp; omega) (by simp; omega) (by simp; omega)
    refine ⟨_, _, rfl, fun rest => ?_⟩
    rw [List.cons_append, List.cons_append, List.singleton_append,
      decodeFirst_four _ count within, restored]
    all_goals simp [payload] <;> omega

/-! ## Texts -/

theorem decodeChars_flatMap_utf8EncodeChar (cs : List Char) :
    decodeChars (cs.flatMap String.utf8EncodeChar) = cs := by
  induction cs with
  | nil => rw [List.flatMap_nil, decodeChars]
  | cons c cs ih =>
      obtain ⟨first, more, encoded, decoded⟩ := decodeFirst_encoded c
      rw [List.flatMap_cons, encoded, List.cons_append, decodeChars, decoded, List.drop_left, ih]

theorem toTextLossy_ofText (text : String) : toTextLossy (ofText text) = text := by
  have bytes := ofText_ofList text.toList
  rw [String.ofList_toList] at bytes
  rw [toTextLossy, bytes, decodeChars_flatMap_utf8EncodeChar, String.ofList_toList]

/-- Where exact decoding gives a text, decoding with replacement marks gives the same one. -/
theorem toTextLossy_of_toText? {bytes : Bytes} {text : String} (decoded : toText? bytes = some text) :
    toTextLossy bytes = text := by
  rw [toText?_eq_some_iff.mp decoded, toTextLossy_ofText]

end FileSearch.Bytes
