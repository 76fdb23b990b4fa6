import FileSearch.Text.Bytes
import Mathlib.Data.List.Basic

/-!
# Texts and their bytes

Exact decoding undoes encoding, so no two texts have the same bytes. ASCII texts have one byte for
each character.
-/

set_option autoImplicit false

namespace FileSearch.Bytes

theorem ofText_append (front back : String) :
    ofText (front ++ back) = ofText front ++ ofText back := by
  simp only [ofText, String.toUTF8_eq_toByteArray, String.toByteArray_append,
    ByteArray.toList_data_append]

theorem toText?_ofText (text : String) : toText? (ofText text) = some text := by
  have valid : (text.toByteArray).IsValidUTF8 := text.isValidUTF8
  change String.fromUTF8? ⟨text.toByteArray.data.toList.toArray⟩ = some text
  rw [Array.toArray_toList, String.fromUTF8?, dif_pos valid]
  rfl

theorem ofText_of_toText? {bytes : Bytes} {text : String} (decoded : toText? bytes = some text) :
    ofText text = bytes := by
  rw [toText?, String.fromUTF8?] at decoded
  split at decoded
  · rw [Option.some.injEq] at decoded
    rw [← decoded]
    exact List.toList_toArray
  · cases decoded

/-- Bytes are those of a text exactly when they are decoded as that text. -/
theorem toText?_eq_some_iff {bytes : Bytes} {text : String} :
    toText? bytes = some text ↔ bytes = ofText text :=
  ⟨fun decoded => (ofText_of_toText? decoded).symm, fun same => same ▸ toText?_ofText text⟩

theorem ofText_inj {text other : String} (same : ofText text = ofText other) : text = other := by
  have decoded := toText?_ofText text
  rw [same, toText?_ofText, Option.some.injEq] at decoded
  exact decoded.symm

theorem ofText_ofList (cs : List Char) :
    ofText (String.ofList cs) = cs.flatMap String.utf8EncodeChar := by
  rw [ofText, String.toUTF8_eq_toByteArray, String.toByteArray_ofList, List.utf8Encode]
  exact List.data_toByteArray ▸ List.toList_toArray

theorem ofText_ofList_of_ascii {cs : List Char} (ascii : ∀ c ∈ cs, c.toNat < 128) :
    ofText (String.ofList cs) = cs.map fun c => c.toNat.toUInt8 := by
  rw [ofText_ofList]
  induction cs with
  | nil => rfl
  | cons c rest ih =>
      obtain ⟨first, others⟩ := List.forall_mem_cons.mp ascii
      have single : c.utf8Size = 1 := by
        rw [Char.utf8Size_eq_one_iff, UInt32.le_iff_toNat_le]
        change c.toNat ≤ 127
        omega
      rw [List.flatMap_cons, String.utf8EncodeChar_eq_singleton single, ih others, List.map_cons]
      rfl

end FileSearch.Bytes
