import FileSearch.Proofs.Json.Grammar
import FileSearch.Proofs.Json.Schema

/-!
# Spellings of values

One value can be written in many ways. What a kind reads is said of the text of a value, whatever
spaces stand in front of it and whatever follows it.
-/

set_option autoImplicit false

namespace FileSearch.Json

/-! ## Texts -/

theorem Spells.isTextBody {body chars : List Char} (spells : Spells body chars) :
    IsTextBody body := by
  induction spells with
  | nil => exact .nil
  | plain noQuote noBackslash visible _ ih => exact .plain noQuote noBackslash visible ih
  | escaped value _ ih => exact .escaped value ih
  | unit value _ _ _ ih => exact .unit value ih
  | pair first _ second _ _ ih => exact .unit first (.unit second ih)

/-! ## Values of a kind -/

/-- A kind reads a value from a text, whatever spaces stand in front of it, and up to its end. -/
def Kind.Reads {β : Type} (kind : Kind β) (text : List Char) (value : β) : Prop :=
  ∀ gap rest, IsGap gap → EndsNumber rest → kind.read (gap ++ (text ++ rest)) = .ok (value, rest)

theorem Kind.flag_reads (value : Bool) : Kind.flag.Reads (toString value).toList value := by
  intro gap rest spaces ends
  cases value with
  | false => exact Kind.flag_faithful false .compact 0 gap rest spaces ends
  | true => exact Kind.flag_faithful true .compact 0 gap rest spaces ends

theorem Kind.text_reads (bytes : Nat) {body chars : List Char} (spells : Spells body chars) :
    (Kind.text bytes).Reads (quoted body) (String.ofList chars) := by
  intro gap rest spaces _
  change readText (gap ++ (quoted body ++ rest)) = _
  rw [readText, readTextAs, dropSpaces_append spaces, quoted_append, dropSpaces_cons rfl]
  simp only [readTextTail_append spells, Except.map]

end FileSearch.Json
