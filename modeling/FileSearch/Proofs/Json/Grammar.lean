import FileSearch.Proofs.Json.Number
import FileSearch.Proofs.Json.Text

/-!
# The grammar of JSON values

What a well-formed value is, said without a reader, and that passing over a value ends just behind
it.
-/

set_option autoImplicit false

namespace FileSearch.Json

/-! ## Numbers and texts -/

structure IsDigits (digits : List Char) : Prop where
  nonempty : digits ≠ []
  all : ∀ c ∈ digits, c.isDigit = true

inductive IsFraction : List Char → Prop where
  | none : IsFraction []
  | some {digits : List Char} : IsDigits digits → IsFraction ('.' :: digits)

inductive IsExponent : List Char → Prop where
  | none : IsExponent []
  | some {mark : Char} {sign digits : List Char} : mark ∈ ['e', 'E'] →
      sign ∈ [[], ['+'], ['-']] → IsDigits digits → IsExponent (mark :: (sign ++ digits))

/-- A number without its sign. Only the whole number zero starts with a zero. -/
inductive IsMagnitude : List Char → Prop where
  | of {whole fraction exponent : List Char} : IsDigits whole →
      (whole.head? = some '0' → whole = ['0']) → IsFraction fraction → IsExponent exponent →
      IsMagnitude (whole ++ (fraction ++ exponent))

/-- What may stand between the quotes of a text. Escaped units need not make characters. -/
inductive IsTextBody : List Char → Prop where
  | nil : IsTextBody []
  | plain {c : Char} {body : List Char} : c ≠ '"' → c ≠ '\\' → ¬ c.toNat < 0x20 →
      IsTextBody body → IsTextBody (c :: body)
  | escaped {letter c : Char} {body : List Char} : escapeValue? letter = some c →
      IsTextBody body → IsTextBody ('\\' :: letter :: body)
  | unit {a b c d : Char} {unit : Nat} {body : List Char} : hexQuad? a b c d = some unit →
      IsTextBody body → IsTextBody ('\\' :: 'u' :: a :: b :: c :: d :: body)

def quoted (body : List Char) : List Char :=
  '"' :: (body ++ ['"'])

theorem quoted_append (body rest : List Char) :
    quoted body ++ rest = '"' :: (body ++ '"' :: rest) := by
  rw [quoted, List.cons_append, List.append_assoc]
  rfl

/-! ## Lists and objects -/

/-- A value with the spaces around it. -/
structure Slot where
  front : List Char
  value : List Char
  back : List Char

/-- A member of an object: the spelling of its key, with the spaces around it, and its value. -/
structure Member where
  front : List Char
  key : List Char
  behindKey : List Char
  slot : Slot

structure Slot.Spaced (slot : Slot) : Prop where
  front : IsGap slot.front
  back : IsGap slot.back

structure Member.Spaced (member : Member) : Prop where
  front : IsGap member.front
  behindKey : IsGap member.behindKey
  slot : member.slot.Spaced

def Slot.text (slot : Slot) : List Char :=
  slot.front ++ (slot.value ++ slot.back)

/-- A member without the spaces in front of it. -/
def Member.body (member : Member) : List Char :=
  quoted member.key ++ (member.behindKey ++ ':' :: member.slot.text)

def Member.text (member : Member) : List Char :=
  member.front ++ member.body

theorem Member.body_append (member : Member) (rest : List Char) :
    member.body ++ rest =
      '"' :: (member.key ++ '"' :: (member.behindKey ++ ':' :: (member.slot.text ++ rest))) := by
  rw [body, List.append_assoc, quoted_append, List.append_assoc, List.cons_append]

theorem Member.text_append (member : Member) (rest : List Char) :
    member.text ++ rest = member.front ++ (member.body ++ rest) :=
  List.append_assoc ..

theorem Slot.text_append (slot : Slot) (rest : List Char) :
    slot.text ++ rest = slot.front ++ (slot.value ++ (slot.back ++ rest)) := by
  rw [text, List.append_assoc, List.append_assoc]

theorem Member.length_value_lt (member : Member) :
    member.slot.value.length < member.text.length := by
  simp only [text, body, Slot.text, List.length_append, List.length_cons]
  omega

/-- Texts with a comma before each. -/
def continued (texts : List (List Char)) : List Char :=
  texts.flatMap fun text => ',' :: text

/-- Texts with commas between them, or spaces if there are none. -/
def separated (gap : List Char) : List (List Char) → List Char
  | [] => gap
  | first :: rest => first ++ continued rest

theorem continued_nil : continued [] = [] :=
  rfl

theorem continued_cons (text : List Char) (texts : List (List Char)) :
    continued (text :: texts) = ',' :: (text ++ continued texts) :=
  rfl

theorem endsNumber_continued (texts : List (List Char)) {rest : List Char}
    (ends : EndsNumber rest) : EndsNumber (continued texts ++ rest) := by
  cases texts with
  | nil => exact ends
  | cons text texts => exact endsNumber_comma _

def listText (gap : List Char) (slots : List Slot) : List Char :=
  '[' :: (separated gap (slots.map Slot.text) ++ [']'])

def objectText (gap : List Char) (members : List Member) : List Char :=
  '{' :: (separated gap (members.map Member.text) ++ ['}'])

theorem listText_append (gap : List Char) (slots : List Slot) (rest : List Char) :
    listText gap slots ++ rest =
      '[' :: (separated gap (slots.map Slot.text) ++ ']' :: rest) := by
  rw [listText, List.cons_append, List.append_assoc]
  rfl

theorem objectText_append (gap : List Char) (members : List Member) (rest : List Char) :
    objectText gap members ++ rest =
      '{' :: (separated gap (members.map Member.text) ++ '}' :: rest) := by
  rw [objectText, List.cons_append, List.append_assoc]
  rfl

/-- The texts of JSON values. -/
inductive IsValue : List Char → Prop where
  | null : IsValue "null".toList
  | boolean {value : Bool} : IsValue (toString value).toList
  | magnitude {text : List Char} : IsMagnitude text → IsValue text
  | negative {text : List Char} : IsMagnitude text → IsValue ('-' :: text)
  | text {body : List Char} : IsTextBody body → IsValue (quoted body)
  | list {gap : List Char} {slots : List Slot} : IsGap gap → (∀ slot ∈ slots, slot.Spaced) →
      (∀ slot ∈ slots, IsValue slot.value) → IsValue (listText gap slots)
  | object {gap : List Char} {members : List Member} : IsGap gap →
      (∀ member ∈ members, member.Spaced) → (∀ member ∈ members, IsTextBody member.key) →
      (∀ member ∈ members, IsValue member.slot.value) → IsValue (objectText gap members)

/-! ## Written numbers -/

theorem isMagnitude_toString (n : Nat) : IsMagnitude (toString n).toList := by
  have digits : IsDigits (Nat.toDigits 10 n) :=
    ⟨Nat.toDigits_ne_nil, fun _ member => isDigit_of_mem_toDigits member⟩
  have noZero : (Nat.toDigits 10 n).head? = some '0' → Nat.toDigits 10 n = ['0'] := by
    intro zero
    cases n with
    | zero => exact Nat.toDigits_zero 10
    | succ n =>
        cases written : Nat.toDigits 10 (n + 1) with
        | nil => exact absurd written Nat.toDigits_ne_nil
        | cons c rest =>
            rw [written] at zero
            cases zero
            exact absurd written (toDigits_ne_zero_cons n.succ_pos rest)
  have magnitude := IsMagnitude.of digits noZero .none .none
  rw [List.append_nil, List.append_nil] at magnitude
  change IsMagnitude n.repr.toList
  rwa [Nat.toList_repr]

/-! ## Passing over numbers -/

theorem IsDigits.takeWhile_append {digits rest : List Char} (isDigits : IsDigits digits)
    (ends : ∀ c ∈ rest.head?, c.isDigit = false) :
    (digits ++ rest).takeWhile Char.isDigit = digits ∧
      (digits ++ rest).dropWhile Char.isDigit = rest := by
  rw [List.takeWhile_append_of_pos isDigits.all, List.dropWhile_append_of_pos isDigits.all]
  cases rest with
  | nil => simp
  | cons c rest => simp [ends c rfl]

theorem IsDigits.exists_eq_cons {digits : List Char} (isDigits : IsDigits digits) :
    ∃ c rest, digits = c :: rest ∧ c.isDigit = true := by
  cases digits with
  | nil => exact absurd rfl isDigits.nonempty
  | cons c rest => exact ⟨c, rest, rfl, isDigits.all c List.mem_cons_self⟩

theorem skipExponent_append {sign digits rest : List Char} (signs : sign ∈ [[], ['+'], ['-']])
    (isDigits : IsDigits digits) (ends : EndsNumber rest) :
    skipExponent (sign ++ digits ++ rest) = .ok rest := by
  obtain ⟨taken, left⟩ := isDigits.takeWhile_append fun c head => (ends c head).1
  obtain ⟨c, more, rfl, digit⟩ := isDigits.exists_eq_cons
  have noPlus : c ≠ '+' := by rintro rfl; cases digit
  have noMinus : c ≠ '-' := by rintro rfl; cases digit
  rw [List.cons_append] at taken left
  simp only [List.mem_cons, List.not_mem_nil, or_false] at signs
  rcases signs with rfl | rfl | rfl <;>
    simp [skipExponent, taken, left, noPlus, noMinus]

theorem skipScale_append {exponent rest : List Char} (isExponent : IsExponent exponent)
    (ends : EndsNumber rest) : skipScale (exponent ++ rest) = .ok rest := by
  cases isExponent with
  | none =>
      rw [List.nil_append, skipScale.eq_def]
      split
      · exact absurd rfl (ends 'e' rfl).2.2.1
      · exact absurd rfl (ends 'E' rfl).2.2.2
      · rfl
  | some marks signs isDigits =>
      have skipped := skipExponent_append signs isDigits ends
      simp only [List.mem_cons, List.not_mem_nil, or_false] at marks
      rcases marks with rfl | rfl <;> exact skipped

/-- Neither digits nor a point go on with an exponent. -/
theorem IsExponent.head_append {exponent rest : List Char} (isExponent : IsExponent exponent)
    (ends : EndsNumber rest) : ∀ c ∈ (exponent ++ rest).head?, c.isDigit = false ∧ c ≠ '.' := by
  intro c head
  cases isExponent with
  | none => exact ⟨(ends c head).1, (ends c head).2.1⟩
  | some marks _ _ =>
      cases head
      simp only [List.mem_cons, List.not_mem_nil, or_false] at marks
      rcases marks with rfl | rfl <;> decide

/-- The rest of a text behind what may follow the whole part of a number. -/
def skipFraction : List Char → Except Error (List Char)
  | '.' :: rest =>
    if (rest.takeWhile Char.isDigit).isEmpty then .error .invalidNumber
    else skipScale (rest.dropWhile Char.isDigit)
  | rest => skipScale rest

theorem skipMagnitude_eq {text : List Char}
    (whole : ((text.takeWhile Char.isDigit).isEmpty ||
      ((text.takeWhile Char.isDigit).head? == some '0' &&
        1 < (text.takeWhile Char.isDigit).length)) = false) :
    skipMagnitude text = skipFraction (text.dropWhile Char.isDigit) := by
  rw [skipMagnitude]
  simp only [whole, Bool.false_eq_true, if_false]
  rfl

theorem skipFraction_point {text : List Char}
    (digits : (text.takeWhile Char.isDigit).isEmpty = false) :
    skipFraction ('.' :: text) = skipScale (text.dropWhile Char.isDigit) := by
  rw [skipFraction, digits]
  rfl

theorem skipFraction_of_noPoint {text : List Char} (noPoint : ∀ rest, text ≠ '.' :: rest) :
    skipFraction text = skipScale text := by
  rw [skipFraction.eq_def]
  split
  · exact absurd rfl (noPoint _)
  · rfl

theorem skipMagnitude_append {text rest : List Char} (isMagnitude : IsMagnitude text)
    (ends : EndsNumber rest) : skipMagnitude (text ++ rest) = .ok rest := by
  obtain @⟨whole, fraction, exponent, digits, noZero, isFraction, isExponent⟩ := isMagnitude
  have scale := skipScale_append isExponent ends
  have front := isExponent.head_append ends
  have noLeadingZero : (whole.isEmpty || (whole.head? == some '0' && 1 < whole.length)) = false := by
    rw [Bool.or_eq_false_iff, List.isEmpty_eq_false_iff, Bool.and_eq_false_imp, beq_iff_eq]
    refine ⟨digits.nonempty, fun zero => ?_⟩
    rw [noZero zero]
    rfl
  rw [List.append_assoc, List.append_assoc]
  cases isFraction with
  | none =>
      obtain ⟨taken, left⟩ := digits.takeWhile_append fun c head => (front c head).1
      rw [List.nil_append, skipMagnitude_eq (by rw [taken]; exact noLeadingZero), left,
        skipFraction_of_noPoint, scale]
      intro behind point
      exact absurd rfl (front '.' (by rw [point]; rfl)).2
  | @some fractionDigits isDigits =>
      have point : ∀ c ∈ ('.' :: fractionDigits ++ (exponent ++ rest)).head?, c.isDigit = false := by
        intro c head
        cases head
        decide
      obtain ⟨taken, left⟩ := digits.takeWhile_append point
      obtain ⟨takenFraction, leftFraction⟩ :=
        isDigits.takeWhile_append fun c head => (front c head).1
      rw [skipMagnitude_eq (by rw [taken]; exact noLeadingZero), left, List.cons_append,
        skipFraction_point, leftFraction, scale]
      rw [takenFraction]
      exact List.isEmpty_eq_false_iff.mpr isDigits.nonempty

/-! ## Passing over texts -/

theorem skipTextTail_plain {c : Char} (rest : List Char) (noQuote : c ≠ '"')
    (noBackslash : c ≠ '\\') (visible : ¬ c.toNat < 0x20) :
    skipTextTail (c :: rest) = skipTextTail rest := by
  rw [skipTextTail.eq_def]
  split
  · rename_i none; cases none
  · rename_i quote; cases quote; exact absurd rfl noQuote
  · rename_i backslash; cases backslash; exact absurd rfl noBackslash
  · rename_i same; cases same; rw [if_neg visible]

theorem skipTextTail_escaped {letter c : Char} (rest : List Char)
    (value : escapeValue? letter = some c) :
    skipTextTail ('\\' :: letter :: rest) = skipTextTail rest := by
  have notUnit : letter ≠ 'u' := by
    rintro rfl
    rw [escapeValue?_u] at value
    cases value
  rw [skipTextTail.eq_def]
  simp only [value]

theorem skipTextTail_unit {a b c d : Char} {unit : Nat} (rest : List Char)
    (value : hexQuad? a b c d = some unit) :
    skipTextTail ('\\' :: 'u' :: a :: b :: c :: d :: rest) = skipTextTail rest := by
  rw [skipTextTail.eq_def]
  simp only [value]

theorem skipTextTail_append {body : List Char} (isTextBody : IsTextBody body) (rest : List Char) :
    skipTextTail (body ++ '"' :: rest) = .ok rest := by
  induction isTextBody with
  | nil => rfl
  | plain noQuote noBackslash visible _ ih =>
      rw [List.cons_append, skipTextTail_plain _ noQuote noBackslash visible, ih]
  | escaped value _ ih =>
      rw [List.cons_append, List.cons_append, skipTextTail_escaped _ value, ih]
  | unit value _ ih =>
      simp only [List.cons_append]
      rw [skipTextTail_unit _ value, ih]

/-! ## Passing over values -/

theorem skipValueWith_magnitude {c : Char} (digit : c.isDigit = true) (fuel : Nat)
    {gap : List Char} (spaces : IsGap gap) (rest : List Char) :
    skipValueWith (fuel + 1) (gap ++ c :: rest) = skipMagnitude (c :: rest) := by
  have solid : isSpace c = false := isSpace_of_opens_number (by simp [digit])
  rw [skipValueWith.eq_def]
  simp only [dropSpaces_append spaces, dropSpaces_cons solid]
  split <;> rename_i front <;> cases front
  all_goals first | rw [if_pos digit] | cases digit

theorem IsMagnitude.exists_eq_cons {text : List Char} (isMagnitude : IsMagnitude text) :
    ∃ c rest, text = c :: rest ∧ c.isDigit = true := by
  obtain @⟨_, fraction, exponent, digits, _, _, _⟩ := isMagnitude
  obtain ⟨c, more, rfl, digit⟩ := digits.exists_eq_cons
  exact ⟨c, more ++ (fraction ++ exponent), rfl, digit⟩

/-- A value begins with a token that opens it. -/
theorem IsValue.exists_eq_cons {text : List Char} (isValue : IsValue text) :
    ∃ c rest, text = c :: rest ∧ isSpace c = false ∧ c ≠ ']' ∧ c ≠ ',' := by
  cases isValue with
  | null => exact ⟨'n', ['u', 'l', 'l'], rfl, by decide⟩
  | @boolean value =>
      cases value with
      | false => exact ⟨'f', ['a', 'l', 's', 'e'], rfl, by decide⟩
      | true => exact ⟨'t', ['r', 'u', 'e'], rfl, by decide⟩
  | negative _ => exact ⟨_, _, rfl, by decide⟩
  | text _ => exact ⟨_, _, rfl, by decide⟩
  | list _ _ _ => exact ⟨_, _, rfl, by decide⟩
  | object _ _ _ _ => exact ⟨_, _, rfl, by decide⟩
  | magnitude isMagnitude =>
      obtain ⟨c, rest, rfl, digit⟩ := isMagnitude.exists_eq_cons
      have solid : isSpace c = false := isSpace_of_opens_number (by simp [digit])
      refine ⟨c, rest, rfl, solid, ?_, ?_⟩ <;> rintro rfl <;> cases digit

/-- Passing over a text with enough fuel ends just behind it. -/
def IsPassed (text : List Char) : Prop :=
  ∀ fuel gap rest, text.length ≤ fuel → IsGap gap → EndsNumber rest →
    skipValueWith fuel (gap ++ (text ++ rest)) = .ok rest

/-- The rest of a list behind an element. -/
def skipElementEnd (fuel : Nat) (text : List Char) : Except Error (List Char) :=
  match dropSpaces text with
  | [] => .error .endInList
  | ']' :: rest => .ok rest
  | ',' :: rest => skipElements fuel rest
  | _ => .error .elementEndExpected

/-- The rest of an object behind a member. -/
def skipMemberEnd (fuel : Nat) (text : List Char) : Except Error (List Char) :=
  match dropSpaces text with
  | [] => .error .endInObject
  | '}' :: rest => .ok rest
  | ',' :: rest => skipMembers fuel rest
  | _ => .error .memberEndExpected

theorem skipElements_step {slot : Slot} (spaced : slot.Spaced) (passed : IsPassed slot.value)
    {fuel : Nat} (enough : slot.value.length ≤ fuel) {gap : List Char} (spaces : IsGap gap)
    {rest : List Char} (ends : EndsNumber rest) :
    skipElements (fuel + 1) (gap ++ (slot.value ++ (slot.back ++ rest))) =
      skipElementEnd fuel rest := by
  have value := passed fuel gap (slot.back ++ rest) enough spaces (ends.gap_append spaced.back)
  rw [skipElements, value]
  simp only [bind, Except.bind, dropSpaces_append spaced.back]
  rfl

/-- The elements that remain in a list are passed over one by one. -/
theorem skipElements_append {slot : Slot} {slots : List Slot}
    (spaced : ∀ other ∈ slot :: slots, other.Spaced)
    (passed : ∀ other ∈ slot :: slots, IsPassed other.value) {fuel : Nat}
    (enough : slot.value.length + (continued (slots.map Slot.text)).length < fuel)
    {gap : List Char} (spaces : IsGap gap) (rest : List Char) :
    skipElements fuel (gap ++ (slot.value ++ (slot.back ++
      (continued (slots.map Slot.text) ++ ']' :: rest)))) = .ok rest := by
  induction slots generalizing slot fuel gap with
  | nil =>
      obtain ⟨fuel, rfl⟩ : ∃ less, fuel = less + 1 := ⟨fuel - 1, by omega⟩
      rw [skipElements_step (spaced slot List.mem_cons_self) (passed slot List.mem_cons_self)
        (by omega) spaces (endsNumber_continued _ (endsNumber_bracket rest))]
      rfl
  | cons next slots ih =>
      obtain ⟨fuel, rfl⟩ : ∃ less, fuel = less + 1 := ⟨fuel - 1, by omega⟩
      obtain ⟨spacedFirst, spacedRest⟩ := List.forall_mem_cons.mp spaced
      obtain ⟨passedFirst, passedRest⟩ := List.forall_mem_cons.mp passed
      rw [skipElements_step spacedFirst passedFirst (by omega) spaces
        (endsNumber_continued _ (endsNumber_bracket rest))]
      simp only [List.map_cons, continued_cons, Slot.text, List.append_assoc, List.cons_append,
        List.length_append, List.length_cons] at enough ⊢
      rw [skipElementEnd, dropSpaces_cons rfl]
      exact ih spacedRest passedRest (by omega) (spacedRest next List.mem_cons_self).front

theorem skipMembers_step {member : Member} (spaced : member.Spaced)
    (isKey : IsTextBody member.key) (passed : IsPassed member.slot.value) {fuel : Nat}
    (enough : member.slot.value.length ≤ fuel) {gap : List Char} (spaces : IsGap gap)
    {rest : List Char} (ends : EndsNumber rest) :
    skipMembers (fuel + 1) (gap ++ (member.body ++ rest)) = skipMemberEnd fuel rest := by
  have value := passed fuel member.slot.front (member.slot.back ++ rest) enough spaced.slot.front
    (ends.gap_append spaced.slot.back)
  rw [member.body_append, member.slot.text_append, skipMembers, dropSpaces_append spaces,
    dropSpaces_cons rfl]
  simp only [skipTextTail_append isKey, bind, Except.bind, dropSpaces_append spaced.behindKey]
  rw [dropSpaces_cons rfl]
  simp only [value, dropSpaces_append spaced.slot.back]
  rfl

/-- The members that remain in an object are passed over one by one. -/
theorem skipMembers_append {member : Member} {members : List Member}
    (spaced : ∀ other ∈ member :: members, other.Spaced)
    (keys : ∀ other ∈ member :: members, IsTextBody other.key)
    (passed : ∀ other ∈ member :: members, IsPassed other.slot.value) {fuel : Nat}
    (enough : member.slot.value.length + (continued (members.map Member.text)).length < fuel)
    {gap : List Char} (spaces : IsGap gap) (rest : List Char) :
    skipMembers fuel (gap ++ (member.body ++
      (continued (members.map Member.text) ++ '}' :: rest))) = .ok rest := by
  induction members generalizing member fuel gap with
  | nil =>
      obtain ⟨fuel, rfl⟩ : ∃ less, fuel = less + 1 := ⟨fuel - 1, by omega⟩
      rw [skipMembers_step (spaced member List.mem_cons_self) (keys member List.mem_cons_self)
        (passed member List.mem_cons_self) (by omega) spaces
        (endsNumber_continued _ (endsNumber_brace rest))]
      rfl
  | cons next members ih =>
      obtain ⟨fuel, rfl⟩ : ∃ less, fuel = less + 1 := ⟨fuel - 1, by omega⟩
      obtain ⟨spacedFirst, spacedRest⟩ := List.forall_mem_cons.mp spaced
      obtain ⟨keysFirst, keysRest⟩ := List.forall_mem_cons.mp keys
      obtain ⟨passedFirst, passedRest⟩ := List.forall_mem_cons.mp passed
      rw [skipMembers_step spacedFirst keysFirst passedFirst (by omega) spaces
        (endsNumber_continued _ (endsNumber_brace rest))]
      have shorter := next.length_value_lt
      simp only [List.map_cons, continued_cons, List.length_append, List.length_cons] at enough
      rw [skipMemberEnd, List.map_cons, continued_cons, List.cons_append, dropSpaces_cons rfl]
      simp only [List.append_assoc, next.text_append]
      exact ih spacedRest keysRest passedRest (by omega) (spacedRest next List.mem_cons_self).front

private theorem isPassed_list {gap : List Char} {slots : List Slot} (spaces : IsGap gap)
    (spaced : ∀ slot ∈ slots, slot.Spaced) (values : ∀ slot ∈ slots, IsValue slot.value)
    (passed : ∀ slot ∈ slots, IsPassed slot.value) : IsPassed (listText gap slots) := by
  intro fuel front rest enough frontSpaces _
  obtain ⟨fuel, rfl⟩ : ∃ less, fuel = less + 1 :=
    ⟨fuel - 1, by simp only [listText, List.length_cons] at enough; omega⟩
  rw [listText_append, skipValueWith, dropSpaces_append frontSpaces, dropSpaces_cons rfl]
  cases slots with
  | nil =>
      simp only [List.map_nil, separated, dropSpaces_append spaces]
      rw [dropSpaces_cons rfl]
      rfl
  | cons slot slots =>
      obtain ⟨c, more, value, solid, opens, -⟩ := (values slot List.mem_cons_self).exists_eq_cons
      have noGap : IsGap [] := by simp [IsGap]
      have less : slot.value.length + (continued (slots.map Slot.text)).length < fuel := by
        simp only [listText, List.map_cons, separated, Slot.text, List.length_append,
          List.length_cons] at enough
        omega
      have elements := skipElements_append spaced passed less noGap rest
      simp only [List.map_cons, separated, Slot.text, List.append_assoc,
        dropSpaces_append (spaced slot List.mem_cons_self).front]
      rw [List.nil_append, value, List.cons_append] at elements
      rw [value, List.cons_append, dropSpaces_cons solid]
      split
      · rename_i nothing; cases nothing
      · rename_i closing; cases closing; exact absurd rfl opens
      · exact elements

private theorem isPassed_object {gap : List Char} {members : List Member} (spaces : IsGap gap)
    (spaced : ∀ member ∈ members, member.Spaced) (keys : ∀ member ∈ members, IsTextBody member.key)
    (passed : ∀ member ∈ members, IsPassed member.slot.value) :
    IsPassed (objectText gap members) := by
  intro fuel front rest enough frontSpaces _
  obtain ⟨fuel, rfl⟩ : ∃ less, fuel = less + 1 :=
    ⟨fuel - 1, by simp only [objectText, List.length_cons] at enough; omega⟩
  rw [objectText_append, skipValueWith, dropSpaces_append frontSpaces, dropSpaces_cons rfl]
  cases members with
  | nil =>
      simp only [List.map_nil, separated, dropSpaces_append spaces]
      rw [dropSpaces_cons rfl]
      rfl
  | cons member members =>
      have shorter := member.length_value_lt
      have noGap : IsGap [] := by simp [IsGap]
      have less : member.slot.value.length + (continued (members.map Member.text)).length < fuel :=
        by
          simp only [objectText, List.map_cons, separated, List.length_append,
            List.length_cons] at enough
          omega
      have others := skipMembers_append spaced keys passed less noGap rest
      simp only [List.map_cons, separated, List.append_assoc, member.text_append,
        dropSpaces_append (spaced member List.mem_cons_self).front]
      rw [List.nil_append] at others
      exact others

/-- Values with nothing nested in them take one step. -/
private theorem isPassed_of_step {text : List Char} (nonempty : text ≠ [])
    (step : ∀ fuel gap rest, IsGap gap → EndsNumber rest →
      skipValueWith (fuel + 1) (gap ++ (text ++ rest)) = .ok rest) : IsPassed text := by
  intro fuel gap rest enough spaces ends
  have positive := List.length_pos_iff.mpr nonempty
  obtain ⟨fuel, rfl⟩ : ∃ less, fuel = less + 1 := ⟨fuel - 1, by omega⟩
  exact step fuel gap rest spaces ends

private theorem isPassed_boolean (value : Bool) : IsPassed (toString value).toList := by
  cases value with
  | false =>
      apply isPassed_of_step (by decide)
      intro fuel gap rest spaces _
      change skipValueWith (fuel + 1) (gap ++ 'f' :: 'a' :: 'l' :: 's' :: 'e' :: rest) = _
      rw [skipValueWith, dropSpaces_append spaces, dropSpaces_cons rfl]
      rfl
  | true =>
      apply isPassed_of_step (by decide)
      intro fuel gap rest spaces _
      change skipValueWith (fuel + 1) (gap ++ 't' :: 'r' :: 'u' :: 'e' :: rest) = _
      rw [skipValueWith, dropSpaces_append spaces, dropSpaces_cons rfl]
      rfl

private theorem isPassed_magnitude {text : List Char} (isMagnitude : IsMagnitude text) :
    IsPassed text := by
  obtain ⟨c, more, rfl, digit⟩ := isMagnitude.exists_eq_cons
  apply isPassed_of_step (List.cons_ne_nil c more)
  intro fuel gap rest spaces ends
  have skipped := skipMagnitude_append isMagnitude ends
  rw [List.cons_append] at skipped ⊢
  rw [skipValueWith_magnitude digit fuel spaces, skipped]

/-- Passing over a value ends just behind it, whatever is nested in it. -/
theorem IsValue.isPassed {text : List Char} (isValue : IsValue text) : IsPassed text := by
  induction isValue with
  | null =>
      apply isPassed_of_step (by decide)
      intro fuel gap rest spaces _
      change skipValueWith (fuel + 1) (gap ++ 'n' :: 'u' :: 'l' :: 'l' :: rest) = _
      rw [skipValueWith, dropSpaces_append spaces, dropSpaces_cons rfl]
      rfl
  | boolean => exact isPassed_boolean _
  | magnitude isMagnitude => exact isPassed_magnitude isMagnitude
  | negative isMagnitude =>
      apply isPassed_of_step (List.cons_ne_nil _ _)
      intro fuel gap rest spaces ends
      rw [List.cons_append, skipValueWith, dropSpaces_append spaces, dropSpaces_cons rfl]
      exact skipMagnitude_append isMagnitude ends
  | @text body isTextBody =>
      have nonempty : quoted body ≠ [] := List.cons_ne_nil _ _
      apply isPassed_of_step nonempty
      intro fuel gap rest spaces _
      rw [quoted_append, skipValueWith, dropSpaces_append spaces, dropSpaces_cons rfl]
      exact skipTextTail_append isTextBody rest
  | list spaces spaced values passed => exact isPassed_list spaces spaced values passed
  | object spaces spaced keys _ passed => exact isPassed_object spaces spaced keys passed

end FileSearch.Json
