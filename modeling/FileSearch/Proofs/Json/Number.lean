import FileSearch.Json.Reader
import FileSearch.Json.Value

/-!
# Integers read back

Every integer of 64 bits is read as it was written, unless what follows goes on with the number.
-/

set_option autoImplicit false

namespace FileSearch.Json

/-! ## Spaces -/

/-- A text that may stand between two tokens. -/
def IsGap (gap : List Char) : Prop :=
  ∀ c ∈ gap, isSpace c = true

theorem dropSpaces_append {gap : List Char} (spaces : IsGap gap) (text : List Char) :
    dropSpaces (gap ++ text) = dropSpaces text :=
  List.dropWhile_append_of_pos spaces

theorem dropSpaces_cons {c : Char} (solid : isSpace c = false) (text : List Char) :
    dropSpaces (c :: text) = c :: text :=
  List.dropWhile_cons_of_neg (by simp [solid])

/-! ## Digits -/

/-- A text with which no number goes on. -/
def EndsNumber (rest : List Char) : Prop :=
  ∀ c ∈ rest.head?, isDigit c = false ∧ c ≠ '.' ∧ c ≠ 'e' ∧ c ≠ 'E'

theorem EndsNumber.gap_append {gap rest : List Char} (ends : EndsNumber rest)
    (spaces : IsGap gap) : EndsNumber (gap ++ rest) := by
  cases gap with
  | nil => exact ends
  | cons c gap =>
      intro first head
      cases head
      have space := spaces c List.mem_cons_self
      simp only [isSpace, Bool.or_eq_true, beq_iff_eq] at space
      rcases space with ((rfl | rfl) | rfl) | rfl <;> decide

theorem endsNumber_comma (rest : List Char) : EndsNumber (',' :: rest) := by
  intro c head; cases head; decide

theorem endsNumber_brace (rest : List Char) : EndsNumber ('}' :: rest) := by
  intro c head; cases head; decide

theorem endsNumber_bracket (rest : List Char) : EndsNumber (']' :: rest) := by
  intro c head; cases head; decide

theorem le_ofDigitChars (digits : List Char) (value : Nat) :
    value ≤ Nat.ofDigitChars 10 digits value := by
  rw [Nat.ofDigitChars_eq_ofDigitChars_zero]
  have power : 0 < 10 ^ digits.length := Nat.pow_pos (by decide)
  have scaled := Nat.le_mul_of_pos_left value power
  omega

/-- There is room for all digits of a number that fits. -/
theorem appendDigits_eq {value : Nat} {digits : List Char}
    (fits : Nat.ofDigitChars 10 digits value ≤ maxInteger) :
    appendDigits value digits = (Nat.ofDigitChars 10 digits value, digits.length, []) := by
  induction digits generalizing value with
  | nil => simp [appendDigits]
  | cons c digits ih =>
      rw [Nat.ofDigitChars_cons] at fits
      have next : value * 10 + digitValue c = 10 * value + (c.toNat - '0'.toNat) := by
        rw [digitValue, Nat.mul_comm]
      have room : value * 10 + digitValue c ≤ maxInteger := by
        rw [next]
        exact Nat.le_trans (le_ofDigitChars digits _) fits
      rw [appendDigits, if_pos room, next, ih fits, Nat.ofDigitChars_cons]
      rfl

theorem isDigit_of_mem_toDigits {n : Nat} {c : Char} (member : c ∈ Nat.toDigits 10 n) :
    isDigit c = true :=
  Nat.isDigit_of_mem_toDigits (by decide) (by decide) member

/-- Only zero is written with a zero in front. -/
theorem toDigits_ne_zero_cons {n : Nat} (positive : 0 < n) (digits : List Char) :
    Nat.toDigits 10 n ≠ '0' :: digits := by
  induction n using Nat.strongRecOn generalizing digits with
  | ind n ih =>
      rw [Nat.toDigits_eq_if (by decide)]
      split
      · rename_i small
        have noZero : ∀ n < 10, 0 < n → n.digitChar ≠ '0' := by decide
        intro same
        injection same with head
        exact noZero n small positive head
      · rename_i large
        cases front : Nat.toDigits 10 (n / 10) with
        | nil => exact absurd front Nat.toDigits_ne_nil
        | cons c more =>
            intro same
            injection same with head
            subst head
            exact ih (n / 10) (by omega) (by omega) more front

theorem takeWhile_isDigit_append {digits rest : List Char}
    (allDigits : ∀ c ∈ digits, isDigit c = true) (ends : EndsNumber rest) :
    (digits ++ rest).takeWhile isDigit = digits ∧ (digits ++ rest).dropWhile isDigit = rest := by
  rw [List.takeWhile_append_of_pos allDigits, List.dropWhile_append_of_pos allDigits]
  cases rest with
  | nil => simp
  | cons c rest => simp [(ends c rfl).1]

/-! ## Numbers -/

theorem readMagnitude_toDigits (negative : Bool) {n : Nat} {rest : List Char}
    (fits : n ≤ maxInteger) (ends : EndsNumber rest) :
    readMagnitude negative (Nat.toDigits 10 n ++ rest) = .ok (integerNumber negative n, rest) := by
  cases written : Nat.toDigits 10 n with
  | nil => exact absurd written Nat.toDigits_ne_nil
  | cons c digits =>
      have allDigits : ∀ d ∈ c :: digits, isDigit d = true := fun d member =>
        isDigit_of_mem_toDigits (written ▸ member)
      obtain ⟨first, others⟩ := List.forall_mem_cons.mp allDigits
      obtain ⟨taken, left⟩ := takeWhile_isDigit_append others ends
      have value : appendDigits 0 (c :: digits) = (n, (c :: digits).length, []) := by
        rw [← written, appendDigits_eq] <;> rw [Nat.ofDigitChars_ten_toDigits]
        exact fits
      have noLeadingZero : (c == '0' && digits.length != 0) = false := by
        rw [Bool.and_eq_false_imp, beq_iff_eq]
        rintro rfl
        cases n with
        | zero => rw [Nat.toDigits_zero] at written; cases written; rfl
        | succ n => exact absurd written (toDigits_ne_zero_cons n.succ_pos digits)
      rw [List.cons_append, readMagnitude]
      simp only [first, taken, noLeadingZero, value, left, Bool.not_true, Bool.false_eq_true,
        if_false, List.isEmpty_nil, Bool.true_and]
      cases rest with
      | nil => rfl
      | cons d rest =>
          obtain ⟨_, noPoint, noE, noCapitalE⟩ := ends d rfl
          simp [noPoint, noE, noCapitalE]

theorem exists_toDigits_eq_cons (n : Nat) :
    ∃ c digits, Nat.toDigits 10 n = c :: digits ∧ isDigit c = true := by
  cases written : Nat.toDigits 10 n with
  | nil => exact absurd written Nat.toDigits_ne_nil
  | cons c digits =>
      exact ⟨c, digits, rfl, isDigit_of_mem_toDigits (written ▸ List.mem_cons_self)⟩

theorem readNumber_of_isDigit {c : Char} (digit : isDigit c = true) (text : List Char) :
    readNumber (c :: text) = readMagnitude false (c :: text) := by
  unfold readNumber
  split
  · rename_i minus
    cases minus
    cases digit
  · rfl

/-- An integer of 64 bits is read as it was written. -/
theorem readNumber_toString {value : Int} {rest : List Char} (low : -9223372036854775808 ≤ value)
    (high : value ≤ maxInteger) (ends : EndsNumber rest) :
    readNumber ((toString value).toList ++ rest) = .ok (.integer value, rest) := by
  rw [Int.toString_eq_repr, Int.repr_eq_if]
  split
  · rename_i natural
    have magnitude := readMagnitude_toDigits false (n := value.toNat) (by omega) ends
    obtain ⟨c, digits, written, digit⟩ := exists_toDigits_eq_cons value.toNat
    rw [Nat.toList_repr]
    rw [written, List.cons_append] at magnitude ⊢
    rw [readNumber_of_isDigit digit, magnitude, integerNumber, if_pos (by decide),
      Int.toNat_of_nonneg natural]
  · rename_i negative
    have magnitude := readMagnitude_toDigits true (n := (-value).toNat)
      (by unfold maxInteger; omega) ends
    have below : ((-value).toNat == 0 || 9223372036854775808 < (-value).toNat) = false := by
      rw [Bool.or_eq_false_iff, beq_eq_false_iff_ne, decide_eq_false_iff_not]
      omega
    rw [String.toList_append, Nat.toList_repr]
    change readMagnitude true (Nat.toDigits 10 (-value).toNat ++ rest) = _
    rw [magnitude, integerNumber, if_neg (by decide), below, if_neg (by decide),
      Int.toNat_of_nonneg (by omega), Int.neg_neg]

theorem exists_toString_eq_cons (value : Int) :
    ∃ c digits, (toString value).toList = c :: digits ∧ (c == '-' || c.isDigit) = true := by
  rw [Int.toString_eq_repr, Int.repr_eq_if]
  split
  · obtain ⟨c, digits, written, digit⟩ := exists_toDigits_eq_cons value.toNat
    exact ⟨c, digits, by rw [Nat.toList_repr, written], by rw [Bool.or_eq_true]; exact .inr digit⟩
  · exact ⟨'-', (-value).toNat.repr.toList, String.toList_append, rfl⟩

theorem isSpace_of_opens_number {c : Char} (opens : (c == '-' || c.isDigit) = true) :
    isSpace c = false := by
  cases space : isSpace c with
  | false => rfl
  | true =>
      simp only [isSpace, Bool.or_eq_true, beq_iff_eq] at space
      rcases space with ((rfl | rfl) | rfl) | rfl <;> cases opens

/-- Where an integer is expected, it is read as it was written, if it is in the interval. -/
theorem readInteger_toString (low high value : Int) (expected : Expected) {gap rest : List Char}
    (spaces : IsGap gap) (ends : EndsNumber rest) (atLeast : low ≤ value) (atMost : value ≤ high)
    (within : -9223372036854775808 ≤ value ∧ value ≤ maxInteger) :
    readInteger low high expected (gap ++ ((toString value).toList ++ rest)) =
      .ok (value, rest) := by
  have number := readNumber_toString within.1 within.2 ends
  obtain ⟨c, digits, written, opens⟩ := exists_toString_eq_cons value
  rw [written, List.cons_append] at number ⊢
  rw [readInteger, dropSpaces_append spaces, dropSpaces_cons (isSpace_of_opens_number opens)]
  simp only [opens, if_true, number, bind, Except.bind, atLeast, atMost, decide_true,
    Bool.and_self]

end FileSearch.Json
