import FileSearch.Json.Text
import Mathlib.Tactic.SplitIfs

/-!
# Texts read back

A text can be spelled in many ways. It is read from each of them, and so as it was written, whatever
stands behind its closing quote.
-/

set_option autoImplicit false

namespace FileSearch.Json

/-! ## Digits -/

theorem hexDigit?_hexChar {digit : Nat} (small : digit < 16) :
    hexDigit? (hexChar digit) = some digit := by
  have all : ∀ digit < 16, hexDigit? (hexChar digit) = some digit := by decide
  exact all digit small

/-- A control character is the one that its two digits behind `\u00` stand for. -/
theorem hexQuad?_control {c : Char} (control : c.toNat < 0x20) :
    hexQuad? '0' '0' (hexChar (c.toNat / 16)) (hexChar (c.toNat % 16)) = some c.toNat := by
  have zero : hexDigit? '0' = some 0 := by decide
  have high : hexDigit? (hexChar (c.toNat / 16)) = some (c.toNat / 16) :=
    hexDigit?_hexChar (by omega)
  have low : hexDigit? (hexChar (c.toNat % 16)) = some (c.toNat % 16) :=
    hexDigit?_hexChar (by omega)
  simp only [hexQuad?, zero, high, low, Option.bind_eq_bind, Option.bind_some, Option.pure_def,
    Option.some.injEq]
  omega

/-! ## Spellings -/

/-- The spellings of characters between the quotes of a text: as they are, escaped by a letter, or
as one or two escaped units. A unit that only makes sense in a pair spells nothing by itself. -/
inductive Spells : List Char → List Char → Prop where
  | nil : Spells [] []
  | plain {c : Char} {body chars : List Char} : c ≠ '"' → c ≠ '\\' → ¬ c.toNat < 0x20 →
      Spells body chars → Spells (c :: body) (c :: chars)
  | escaped {letter c : Char} {body chars : List Char} : escapeValue? letter = some c →
      Spells body chars → Spells ('\\' :: letter :: body) (c :: chars)
  | unit {a b c d : Char} {unit : Nat} {body chars : List Char} : hexQuad? a b c d = some unit →
      isLeading unit = false → isTrailing unit = false → Spells body chars →
      Spells ('\\' :: 'u' :: a :: b :: c :: d :: body) (Char.ofNat unit :: chars)
  | pair {a b c d e f g h : Char} {leading trailing : Nat} {body chars : List Char} :
      hexQuad? a b c d = some leading → isLeading leading = true →
      hexQuad? e f g h = some trailing → isTrailing trailing = true → Spells body chars →
      Spells ('\\' :: 'u' :: a :: b :: c :: d :: '\\' :: 'u' :: e :: f :: g :: h :: body)
        (pairedChar leading trailing :: chars)

/-- Characters that need no escape spell themselves. -/
theorem Spells.of_plain {chars : List Char}
    (plain : ∀ c ∈ chars, c ≠ '"' ∧ c ≠ '\\' ∧ ¬ c.toNat < 0x20) : Spells chars chars := by
  induction chars with
  | nil => exact .nil
  | cons c chars ih =>
      obtain ⟨first, others⟩ := List.forall_mem_cons.mp plain
      exact .plain first.1 first.2.1 first.2.2 (ih others)

/-- A written character spells itself. -/
theorem Spells.writtenChar_append {body chars : List Char} (spells : Spells body chars) (c : Char) :
    Spells (writtenChar c ++ body) (c :: chars) := by
  unfold writtenChar
  split_ifs with special backspace formFeed lineFeed carriageReturn tab control
  · rw [Bool.or_eq_true, decide_eq_true_eq, decide_eq_true_eq] at special
    rcases special with rfl | rfl <;> exact .escaped rfl spells
  · subst backspace; exact .escaped rfl spells
  · subst formFeed; exact .escaped rfl spells
  · subst lineFeed; exact .escaped rfl spells
  · subst carriageReturn; exact .escaped rfl spells
  · subst tab; exact .escaped rfl spells
  · have notLeading : isLeading c.toNat = false := by simp [isLeading]; omega
    have notTrailing : isTrailing c.toNat = false := by simp [isTrailing]; omega
    have unit := Spells.unit (hexQuad?_control control) notLeading notTrailing spells
    rwa [Char.ofNat_toNat] at unit
  · rw [Bool.or_eq_true, decide_eq_true_eq, decide_eq_true_eq, not_or] at special
    exact .plain special.1 special.2 control spells

theorem spells_flatMap_writtenChar (cs : List Char) : Spells (cs.flatMap writtenChar) cs := by
  induction cs with
  | nil => exact .nil
  | cons c cs ih =>
      rw [List.flatMap_cons]
      exact ih.writtenChar_append c

/-! ## Reading -/

theorem readTextTail_plain {c : Char} (rest : List Char) (noQuote : c ≠ '"')
    (noBackslash : c ≠ '\\') (visible : ¬ c.toNat < 0x20) :
    readTextTail (c :: rest) = consText c (readTextTail rest) := by
  rw [readTextTail.eq_def]
  split
  · rename_i none; cases none
  · rename_i quote; cases quote; exact absurd rfl noQuote
  · rename_i backslash; cases backslash; exact absurd rfl noBackslash
  · rename_i same; cases same; rw [if_neg visible]

theorem readTextTail_unit {a b c d : Char} {unit : Nat} (rest : List Char)
    (value : hexQuad? a b c d = some unit) (notLeading : isLeading unit = false)
    (notTrailing : isTrailing unit = false) :
    readTextTail ('\\' :: 'u' :: a :: b :: c :: d :: rest) =
      consText (Char.ofNat unit) (readTextTail rest) := by
  rw [readTextTail.eq_def]
  simp only [value, notTrailing, notLeading, Bool.false_eq_true, if_false]

theorem escapeValue?_u : escapeValue? 'u' = none := by decide

theorem not_isTrailing_of_isLeading {unit : Nat} (leading : isLeading unit = true) :
    isTrailing unit = false := by
  simp only [isLeading, Bool.and_eq_true, decide_eq_true_eq] at leading
  simp only [isTrailing, Bool.and_eq_false_imp, decide_eq_true_eq, decide_eq_false_iff_not]
  omega

theorem readTextTail_append {body chars : List Char} (spells : Spells body chars)
    (rest : List Char) : readTextTail (body ++ '"' :: rest) = .ok (chars, rest) := by
  induction spells with
  | nil => rfl
  | plain noQuote noBackslash visible _ ih =>
      rw [List.cons_append, readTextTail_plain _ noQuote noBackslash visible, ih]
      rfl
  | @escaped letter _ _ _ value _ ih =>
      have notUnit : letter ≠ 'u' := by
        rintro rfl
        rw [escapeValue?_u] at value
        cases value
      rw [List.cons_append, List.cons_append, readTextTail.eq_def]
      simp only [value, ih]
      rfl
  | unit value notLeading notTrailing _ ih =>
      simp only [List.cons_append]
      rw [readTextTail_unit _ value notLeading notTrailing, ih]
      rfl
  | pair first leading second trailing _ ih =>
      rw [readTextTail.eq_def]
      simp only [List.cons_append, first, not_isTrailing_of_isLeading leading, leading, second,
        trailing, ih, Bool.false_eq_true, if_false, if_true]
      rfl

/-- Writing a text and reading it from behind its opening quote gives the text, and what follows. -/
theorem writeText_eq_cons (text : String) (rest : List Char) :
    ∃ tail, writeText text ++ rest = '"' :: tail ∧
      readTextTail tail = .ok (text.toList, rest) := by
  refine ⟨text.toList.flatMap writtenChar ++ '"' :: rest, ?_,
    readTextTail_append (spells_flatMap_writtenChar text.toList) rest⟩
  simp [writeText]

end FileSearch.Json
