import FileSearch.Proofs.Json.Positions
import Mathlib.Data.List.TakeWhile

/-!
# Where typed values end

A kind that reads a well-formed value at all reads it to its end, and nothing behind it. So an object
that is read has no field twice, whatever the values are.
-/

set_option autoImplicit false

namespace FileSearch.Json

/-- A kind that reads a value reads exactly that value. -/
def Kind.Exact {β : Type} (kind : Kind β) : Prop :=
  ∀ {text gap rest : List Char} {value : β} {behind : List Char}, IsValue text → IsGap gap →
    EndsNumber rest → kind.read (gap ++ (text ++ rest)) = .ok (value, behind) → behind = rest

/-- A kind reads something from a text, with whatever stands behind it. -/
def Kind.Takes {β : Type} (kind : Kind β) (text : List Char) : Prop :=
  ∃ rest result, EndsNumber rest ∧ kind.read (text ++ rest) = .ok result

/-- It suffices that what can be read can be passed over, and ends at the same place. -/
theorem Kind.exact_of_skip {β : Type} {kind : Kind β}
    (passed : ∀ {text value rest}, kind.read text = .ok (value, rest) →
      ∀ fuel, skipValueWith (fuel + 1) text = .ok rest) : kind.Exact := by
  intro text gap rest value behind isValue spaces ends read
  have skipped := isValue.isPassed (text.length + 1) gap rest (Nat.le_succ _) spaces ends
  exact Except.ok.inj ((passed read text.length).symm.trans skipped)

theorem exists_of_bind_eq_ok {ε α β : Type} {first : Except ε α} {next : α → Except ε β}
    {result : β} (same : first >>= next = .ok result) :
    ∃ value, first = .ok value ∧ next value = .ok result := by
  cases first with
  | error error => cases same
  | ok value => exact ⟨value, rfl, same⟩

theorem exists_of_map_eq_ok {ε α β : Type} {first : Except ε α} {f : α → β} {result : β}
    (same : first.map f = .ok result) : ∃ value, first = .ok value ∧ f value = result := by
  cases first with
  | error error => cases same
  | ok value => exact ⟨value, rfl, Except.ok.inj same⟩

/-! ## Flags and texts -/

theorem Kind.flag_exact : Kind.flag.Exact := by
  apply Kind.exact_of_skip
  intro text value rest read fuel
  change readBoolean text = _ at read
  rw [readBoolean] at read
  rw [skipValueWith]
  generalize dropSpaces text = front at read ⊢
  split at read
  · obtain ⟨_, word, same⟩ := exists_of_map_eq_ok read
    cases same
    exact word
  · obtain ⟨_, word, same⟩ := exists_of_map_eq_ok read
    cases same
    exact word
  · cases read

theorem consText_eq_ok {c : Char} {first : Except Error (List Char × List Char)}
    {chars rest : List Char} (read : consText c first = .ok (chars, rest)) :
    ∃ more, first = .ok (more, rest) := by
  obtain ⟨⟨more, _⟩, read, same⟩ := exists_of_map_eq_ok read
  cases same
  exact ⟨more, read⟩

/-- A text that can be read can be passed over, and ends at the same quote. -/
theorem skipTextTail_of_readTextTail {text chars rest : List Char}
    (read : readTextTail text = .ok (chars, rest)) : skipTextTail text = .ok rest := by
  -- Reading goes on behind two units, one unit, an escaped letter or a plain character. All other
  -- cases but the closing quote fail.
  fun_induction readTextTail text generalizing chars with
  | case2 =>
      cases read
      rfl
  | case9 _ _ _ _ _ first _ _ _ _ _ _ _ _ second _ ih =>
      obtain ⟨_, read⟩ := consText_eq_ok read
      rw [skipTextTail_unit _ first, skipTextTail_unit _ second, ih read]
  | case13 _ _ _ _ _ _ value _ _ ih =>
      obtain ⟨_, read⟩ := consText_eq_ok read
      rw [skipTextTail_unit _ value, ih read]
  | case15 _ _ _ _ value ih =>
      obtain ⟨_, read⟩ := consText_eq_ok read
      rw [skipTextTail_escaped _ value, ih read]
  | case18 _ _ noQuote noBackslash visible ih =>
      obtain ⟨_, read⟩ := consText_eq_ok read
      rw [skipTextTail_plain _ noQuote noBackslash visible, ih read]
  | _ => cases read

theorem Kind.text_exact (bytes : Nat) : (Kind.text bytes).Exact := by
  apply Kind.exact_of_skip
  intro text value rest read fuel
  change readText text = _ at read
  rw [readText, readTextAs] at read
  rw [skipValueWith]
  generalize dropSpaces text = front at read ⊢
  split at read
  · obtain ⟨_, chars, same⟩ := exists_of_map_eq_ok read
    cases same
    exact skipTextTail_of_readTextTail chars
  · cases read

/-! ## Numbers -/

theorem skipExponent_of_readExponent {negative : Bool} {significand : Nat} {exponent : Int}
    {text rest : List Char} {number : Number}
    (read : readExponent negative significand exponent text = .ok (number, rest)) :
    skipExponent text = .ok rest := by
  unfold readExponent at read
  split at read
  rename_i down digits front
  split at read
  · cases read
  · rename_i c tail
    split at read
    · cases read
    · rename_i digit
      obtain ⟨_, -, same⟩ := exists_of_map_eq_ok read
      cases same
      have digits : ((c :: tail).takeWhile Char.isDigit).isEmpty = false := by
        rw [List.takeWhile_cons_of_pos (by simpa [isDigit] using digit)]
        rfl
      have passed : (if ((c :: tail).takeWhile Char.isDigit).isEmpty then .error .invalidNumber
          else .ok ((c :: tail).dropWhile Char.isDigit) : Except Error (List Char)) =
            .ok ((c :: tail).dropWhile isDigit) := by
        rw [digits]
        rfl
      split at front
      · cases front
        exact passed
      · cases front
        exact passed
      · rename_i noPlus noMinus
        cases front
        unfold skipExponent
        split
        · rename_i plus; exact (noPlus _ plus).elim
        · rename_i minus; exact (noMinus _ minus).elim
        · exact passed

theorem skipScale_of_readScale {negative : Bool} {significand : Nat} {exponent : Int}
    {text rest : List Char} {number : Number}
    (read : readScale negative significand exponent text = .ok (number, rest)) :
    skipScale text = .ok rest := by
  unfold readScale at read
  split at read
  · exact skipExponent_of_readExponent read
  · exact skipExponent_of_readExponent read
  · rename_i noMark noCapitalMark
    obtain ⟨_, -, same⟩ := exists_of_map_eq_ok read
    cases same
    rw [skipScale.eq_def]
    split
    · exact absurd rfl (noMark _)
    · exact absurd rfl (noCapitalMark _)
    · rfl

theorem skipScale_of_readFraction {negative : Bool} {significand : Nat} {exponent : Int}
    {text rest : List Char} {number : Number}
    (read : readFraction negative significand exponent text = .ok (number, rest)) :
    (text.takeWhile Char.isDigit).isEmpty = false ∧
      skipScale (text.dropWhile Char.isDigit) = .ok rest := by
  unfold readFraction at read
  cases digits : (text.takeWhile Char.isDigit).isEmpty with
  | true =>
      change (if (text.takeWhile Char.isDigit).isEmpty then _ else _) = _ at read
      rw [digits] at read
      cases read
  | false =>
      change (if (text.takeWhile Char.isDigit).isEmpty then _ else _) = _ at read
      rw [digits] at read
      exact ⟨rfl, skipScale_of_readScale read⟩

theorem skipScale_eq_self {text : List Char} (noMark : text.head? ≠ some 'e')
    (noCapitalMark : text.head? ≠ some 'E') : skipScale text = .ok text := by
  rw [skipScale.eq_def]
  split
  · exact absurd rfl noMark
  · exact absurd rfl noCapitalMark
  · rfl

theorem skipMagnitude_of_readMagnitude {negative : Bool} {text rest : List Char} {number : Number}
    (read : readMagnitude negative text = .ok (number, rest)) :
    skipMagnitude text = .ok rest := by
  unfold readMagnitude at read
  split at read
  · cases read
  rename_i c tail
  split at read
  · cases read
  rename_i isDigit_c
  split at read
  · cases read
  rename_i zero
  rw [show isDigit = Char.isDigit from rfl] at isDigit_c zero read
  have digit : c.isDigit = true := by simpa using isDigit_c
  have noLeadingZero : ((c :: tail.takeWhile Char.isDigit).isEmpty ||
      ((c :: tail.takeWhile Char.isDigit).head? == some '0' &&
        1 < (c :: tail.takeWhile Char.isDigit).length)) = false := by
    simpa [Nat.pos_iff_ne_zero] using zero
  rw [skipMagnitude_eq (by rw [List.takeWhile_cons_of_pos digit]; exact noLeadingZero),
    List.dropWhile_cons_of_pos digit]
  generalize appendDigits 0 (c :: tail.takeWhile Char.isDigit) = appended at read
  obtain ⟨significand, count, left⟩ := appended
  simp only at read
  generalize tail.dropWhile Char.isDigit = behind at read ⊢
  split at read
  · obtain ⟨digits, scale⟩ := skipScale_of_readFraction read
    rw [skipFraction_point digits, scale]
  · rename_i noPoint
    rw [skipFraction_of_noPoint noPoint]
    split at read
    · rename_i unmarked
      cases read
      simp only [Bool.and_eq_true, Bool.not_eq_true', Bool.or_eq_false_iff,
        beq_eq_false_iff_ne] at unmarked
      exact skipScale_eq_self unmarked.2.1 unmarked.2.2
    · exact skipScale_of_readScale read

/-- A number that can be read can be passed over, and ends at the same place. -/
theorem skipValueWith_of_readNumber {c : Char} {text rest : List Char} {number : Number}
    (opens : (c == '-' || c.isDigit) = true)
    (read : readNumber (c :: text) = .ok (number, rest)) (fuel : Nat) {gap : List Char}
    (spaces : IsGap gap) : skipValueWith (fuel + 1) (gap ++ c :: text) = .ok rest := by
  rw [Bool.or_eq_true, beq_iff_eq] at opens
  rcases opens with rfl | digit
  · rw [skipValueWith, dropSpaces_append spaces, dropSpaces_cons rfl]
    exact skipMagnitude_of_readMagnitude read
  · rw [readNumber_of_isDigit digit] at read
    rw [skipValueWith_magnitude digit fuel spaces, skipMagnitude_of_readMagnitude read]

theorem exists_gap (text : List Char) : ∃ gap, IsGap gap ∧ text = gap ++ dropSpaces text :=
  ⟨text.takeWhile isSpace, fun _ member => List.mem_takeWhile_imp member,
    List.takeWhile_append_dropWhile.symm⟩

theorem skipValueWith_of_readInteger {low high value : Int} {expected : Expected}
    {text rest : List Char} (read : readInteger low high expected text = .ok (value, rest))
    (fuel : Nat) : skipValueWith (fuel + 1) text = .ok rest := by
  obtain ⟨gap, spaces, split⟩ := exists_gap text
  rw [readInteger] at read
  rw [split]
  generalize dropSpaces text = front at read ⊢
  cases front with
  | nil => cases read
  | cons c front =>
      simp only at read
      split at read
      · rename_i opens
        obtain ⟨⟨number, behindNumber⟩, numberRead, checked⟩ := exists_of_bind_eq_ok read
        have passed := skipValueWith_of_readNumber opens numberRead fuel spaces
        split at checked
        · rename_i same
          cases same
          split at checked
          · cases checked
            exact passed
          · cases checked
        · cases checked
      · cases read

/-! ## Members -/

structure Member.WellFormed (member : Member) : Prop where
  spaced : member.Spaced
  key : IsTextBody member.key
  value : IsValue member.slot.value

namespace Schema

variable {α : Type} {schema : Schema α}

/-- The kinds of all fields read exactly their values. -/
def Exact (schema : Schema α) : Prop :=
  ∀ field ∈ schema.fields, field.kind.Exact

/-- A member that has been read had not been seen before, and has been read to its end. -/
theorem of_readMember (exact : schema.Exact) {member : Member} (wellFormed : member.WellFormed)
    {key : String} {seen nextSeen : List String} {record nextRecord : α} {rest behind : List Char}
    (ends : EndsNumber rest)
    (read : schema.readMember key seen record
        (member.behindKey ++ ':' :: (member.slot.text ++ rest)) =
      .ok ((nextSeen, nextRecord), behind)) :
    behind = member.slot.back ++ rest ∧ seen ⊆ nextSeen ∧
      ∀ field, schema.field? key = some field → key ∉ seen ∧ key ∈ nextSeen ∧
        ∃ value, field.kind.read (member.slot.text ++ rest) = .ok (value, behind) := by
  cases found : schema.field? key with
  | none =>
      have foreign : ∀ field ∈ schema.fields, field.key ≠ key := by
        rw [field?, List.find?_eq_none] at found
        intro field listed
        simpa using found field listed
      rw [readMember_foreign wellFormed.spaced foreign wellFormed.value seen record ends] at read
      cases read
      exact ⟨rfl, List.Subset.refl _, fun _ same => by cases same⟩
  | some field =>
      have listed : field ∈ schema.fields := List.mem_of_find?_eq_some found
      rw [readMember, found] at read
      cases before : seen.contains key with
      | true => simp only [before, if_true, bind, Except.bind, throw, throwThe,
          MonadExceptOf.throw, reduceCtorEq] at read
      | false =>
          simp only [before, Bool.false_eq_true, if_false,
            skipColon_append wellFormed.spaced.behindKey] at read
          obtain ⟨_, colon, read⟩ := exists_of_bind_eq_ok read
          cases colon
          obtain ⟨⟨value, behindValue⟩, valueRead, same⟩ := exists_of_bind_eq_ok read
          cases same
          have slot := valueRead
          rw [member.slot.text_append] at slot
          have ended := exact field listed wellFormed.value wellFormed.spaced.slot.front
            (ends.gap_append wellFormed.spaced.slot.back) slot
          refine ⟨ended, List.subset_cons_self key seen, ?_⟩
          intro other same
          cases same
          exact ⟨by simpa using before, List.mem_cons_self, value, valueRead⟩

/-- Two members name no field of a schema both. -/
def Apart (schema : Schema α) (member other : Member) : Prop :=
  ∀ field ∈ schema.fields, member.Named field.key → ¬ other.Named field.key

/-- The value of a member has been read. -/
def HasRead (member : Member) (field : Field α) : Prop :=
  ∃ rest value behind, EndsNumber rest ∧
    field.kind.read (member.slot.text ++ rest) = .ok (value, behind)

theorem of_readMembers_step (distinct : (schema.fields.map Field.key).Nodup)
    (exact : schema.Exact) {member : Member} (wellFormed : member.WellFormed) {fuel : Nat}
    {seen : List String} {record result : α} {rest behind : List Char} (ends : EndsNumber rest)
    (read : schema.readMembers fuel seen record (member.body ++ rest) = .ok (result, behind)) :
    ∃ less nextSeen nextRecord,
      schema.readMemberEnd less nextSeen nextRecord rest = .ok (result, behind) ∧
      seen ⊆ nextSeen ∧ ∀ field ∈ schema.fields, member.Named field.key →
        field.key ∉ seen ∧ field.key ∈ nextSeen ∧ HasRead member field := by
  cases fuel with
  | zero => cases read
  | succ fuel =>
      rw [member.body_append, readMembers] at read
      obtain ⟨⟨chars, behindKey⟩, keyRead, read⟩ := exists_of_bind_eq_ok read
      have behindKeySame : behindKey = member.behindKey ++ ':' :: (member.slot.text ++ rest) :=
        Except.ok.inj ((skipTextTail_of_readTextTail keyRead).symm.trans
          (skipTextTail_append wellFormed.key _))
      subst behindKeySame
      obtain ⟨⟨⟨nextSeen, nextRecord⟩, behindMember⟩, memberRead, read⟩ := exists_of_bind_eq_ok read
      obtain ⟨rfl, more, fields⟩ := of_readMember exact wellFormed ends memberRead
      have readEnd : schema.readMemberEnd fuel nextSeen nextRecord
          (member.slot.back ++ rest) = .ok (result, behind) := read
      rw [readMemberEnd_append _ _ _ wellFormed.spaced.slot.back] at readEnd
      refine ⟨fuel, nextSeen, nextRecord, readEnd, more, ?_⟩
      intro field listed named
      have keySame : String.ofList chars = field.key := by
        have spelled := readTextTail_append named
          (member.behindKey ++ ':' :: (member.slot.text ++ rest))
        rw [keyRead] at spelled
        cases spelled
        exact String.ofList_toList
      rw [keySame] at fields
      obtain ⟨unseen, nowSeen, value, valueRead⟩ :=
        fields field (field?_of_mem distinct listed)
      exact ⟨unseen, nowSeen, rest, value, _, ends, valueRead⟩

theorem eq_of_endObject {seen : List String} {record result : α} {rest behind : List Char}
    (read : schema.endObject seen record rest = .ok (result, behind)) : behind = rest := by
  rw [endObject] at read
  split at read
  · cases read
  · cases read
    rfl

/-- Members that are read are read to their end, name no field twice, and have values that are
read. -/
theorem of_readMembers (distinct : (schema.fields.map Field.key).Nodup) (exact : schema.Exact)
    {member : Member} {members : List Member}
    (wellFormed : ∀ other ∈ member :: members, other.WellFormed) {fuel : Nat} {seen : List String}
    {record result : α} {rest behind : List Char}
    (read : schema.readMembers fuel seen record (member.body ++
      (continued (members.map Member.text) ++ '}' :: rest)) = .ok (result, behind)) :
    behind = rest ∧ (member :: members).Pairwise schema.Apart ∧
      ∀ other ∈ member :: members, ∀ field ∈ schema.fields, other.Named field.key →
        field.key ∉ seen ∧ HasRead other field := by
  induction members generalizing member fuel seen record with
  | nil =>
      obtain ⟨less, nextSeen, nextRecord, readEnd, -, fields⟩ := of_readMembers_step distinct exact
        (wellFormed member List.mem_cons_self) (endsNumber_continued _ (endsNumber_brace rest)) read
      refine ⟨?_, List.pairwise_singleton _ _, ?_⟩
      · exact eq_of_endObject readEnd
      · intro other here field listed named
        cases List.mem_singleton.mp here
        obtain ⟨unseen, -, hasRead⟩ := fields field listed named
        exact ⟨unseen, hasRead⟩
  | cons next members ih =>
      obtain ⟨first, others⟩ := List.forall_mem_cons.mp wellFormed
      obtain ⟨less, nextSeen, nextRecord, readEnd, more, fields⟩ := of_readMembers_step distinct
        exact first (endsNumber_continued _ (endsNumber_brace rest)) read
      rw [List.map_cons, continued_cons, List.cons_append, List.append_assoc,
        schema.readMemberEnd_member (others next List.mem_cons_self).spaced] at readEnd
      obtain ⟨ended, apart, rest⟩ := ih others readEnd
      refine ⟨ended, List.pairwise_cons.mpr ⟨?_, apart⟩, ?_⟩
      -- The first member has its field seen, and no later one finds a field seen.
      · intro other later field listed named namedOther
        exact (rest other later field listed namedOther).1 (fields field listed named).2.1
      · intro other here field listed named
        rcases List.mem_cons.mp here with rfl | later
        · obtain ⟨unseen, -, hasRead⟩ := fields field listed named
          exact ⟨unseen, hasRead⟩
        · obtain ⟨unseen, hasRead⟩ := rest other later field listed named
          exact ⟨fun before => unseen (more before), hasRead⟩

/-! ## Records -/

/-- An object that is read as a record is read to its end, names no field twice, and has values
that are read. -/
theorem of_read_object (distinct : (schema.fields.map Field.key).Nodup) (exact : schema.Exact)
    {gap : List Char} (spaces : IsGap gap) {members : List Member}
    (wellFormed : ∀ member ∈ members, member.WellFormed) {front rest behind : List Char}
    (frontSpaces : IsGap front) {result : α}
    (read : schema.read (front ++ (objectText gap members ++ rest)) = .ok (result, behind)) :
    behind = rest ∧ members.Pairwise schema.Apart ∧
      ∀ member ∈ members, ∀ field ∈ schema.fields, member.Named field.key →
        HasRead member field := by
  rw [objectText_append, Schema.read, dropSpaces_append frontSpaces, dropSpaces_cons rfl] at read
  cases members with
  | nil =>
      simp only [List.map_nil, separated, dropSpaces_append spaces] at read
      rw [dropSpaces_cons rfl] at read
      exact ⟨eq_of_endObject read, List.Pairwise.nil, fun _ here => by cases here⟩
  | cons member members =>
      simp only [List.map_cons, separated, List.append_assoc, member.text_append,
        dropSpaces_append (wellFormed member List.mem_cons_self).spaced.front] at read
      obtain ⟨ended, apart, others⟩ := of_readMembers distinct exact wellFormed read
      exact ⟨ended, apart, fun member here field listed named =>
        (others member here field listed named).2⟩

theorem eq_of_endList {fields : List (Field α)} {count : Nat} {record result : α}
    {rest behind : List Char}
    (read : schema.endList fields count record rest = .ok (result, behind)) : behind = rest := by
  rw [endList] at read
  split at read
  · cases read
  · cases read
    rfl

theorem eq_of_readPositions_bracket {fields : List (Field α)} {count : Nat} {record result : α}
    {rest behind : List Char}
    (read : schema.readPositions fields count record (']' :: rest) = .ok (result, behind)) :
    behind = rest := by
  cases fields with
  | nil =>
      rw [readPositions, closeList, dropSpaces_cons rfl] at read
      cases read
      rfl
  | cons field fields =>
      rw [readPositions, dropSpaces_cons rfl] at read
      exact eq_of_endList read

/-- An element that is read for a field is read to its end. -/
theorem of_readElement {field : Field α} (exact : field.kind.Exact) {fields : List (Field α)}
    {slot : Slot} (spaced : slot.Spaced) (isValue : IsValue slot.value) {count : Nat}
    {record result : α} {rest behind : List Char} (ends : EndsNumber rest)
    (read : schema.readElement field fields count record (slot.value ++ (slot.back ++ rest)) =
      .ok (result, behind)) :
    field.kind.Takes slot.value ∧
      ∃ next, schema.readPositions fields (count + 1) next rest = .ok (result, behind) := by
  have noGap : IsGap [] := by simp [IsGap]
  have endsValue := ends.gap_append spaced.back
  obtain ⟨⟨value, behindValue⟩, valueRead, others⟩ := exists_of_bind_eq_ok read
  obtain rfl := exact isValue noGap endsValue valueRead
  refine ⟨⟨slot.back ++ rest, _, endsValue, valueRead⟩, field.set value record, ?_⟩
  exact (schema.readPositions_append fields _ _ spaced.back rest).symm.trans others

/-- There is no room for another element once all fields have been read. -/
theorem readPositions_nil_ne_ok (count : Nat) (record : α) (text : List Char)
    (result : α × List Char) : schema.readPositions [] count record (',' :: text) ≠ .ok result := by
  rw [readPositions, closeList, dropSpaces_cons rfl]
  intro same
  simp only at same
  split at same <;> cases same

/-- The elements that remain in a list are read to its end, each for a field of its own. -/
theorem of_readPositions {fields : List (Field α)} (exact : ∀ field ∈ fields, field.kind.Exact)
    {slots : List Slot} (spaced : ∀ slot ∈ slots, slot.Spaced)
    (values : ∀ slot ∈ slots, IsValue slot.value) {count : Nat} {record result : α}
    {rest behind : List Char}
    (read : schema.readPositions fields (count + 1) record
      (continued (slots.map Slot.text) ++ ']' :: rest) = .ok (result, behind)) :
    behind = rest ∧ slots.length ≤ fields.length ∧
      ∀ part ∈ slots.zip fields, part.2.kind.Takes part.1.value := by
  induction slots generalizing fields count record with
  | nil =>
      refine ⟨?_, Nat.zero_le _, fun _ here => by cases here⟩
      exact eq_of_readPositions_bracket read
  | cons slot slots ih =>
      obtain ⟨spacedFirst, spacedRest⟩ := List.forall_mem_cons.mp spaced
      obtain ⟨valuesFirst, valuesRest⟩ := List.forall_mem_cons.mp values
      rw [List.map_cons, continued_cons, List.cons_append, List.append_assoc] at read
      cases fields with
      | nil => exact absurd read (readPositions_nil_ne_ok _ _ _ _)
      | cons field fields =>
          obtain ⟨exactFirst, exactRest⟩ := List.forall_mem_cons.mp exact
          rw [schema.readPositions_next _ _ _ _ spacedFirst valuesFirst] at read
          obtain ⟨takes, next, others⟩ := of_readElement exactFirst spacedFirst valuesFirst
            (endsNumber_continued _ (endsNumber_bracket rest)) read
          obtain ⟨ended, few, each⟩ := ih exactRest spacedRest valuesRest others
          exact ⟨ended, Nat.succ_le_succ few, List.forall_mem_cons.mpr ⟨takes, each⟩⟩

/-- A list that is read as a record is read to its end, each element for a field of its own. -/
theorem of_read_list (exact : schema.Exact) {gap : List Char} (spaces : IsGap gap)
    {slots : List Slot} (spaced : ∀ slot ∈ slots, slot.Spaced)
    (values : ∀ slot ∈ slots, IsValue slot.value) {front rest behind : List Char}
    (frontSpaces : IsGap front) {result : α}
    (read : schema.read (front ++ (listText gap slots ++ rest)) = .ok (result, behind)) :
    behind = rest ∧ slots.length ≤ schema.fields.length ∧
      ∀ part ∈ slots.zip schema.fields, part.2.kind.Takes part.1.value := by
  rw [listText_append, Schema.read, dropSpaces_append frontSpaces, dropSpaces_cons rfl] at read
  change schema.readPositions schema.fields 0 schema.initial _ = _ at read
  unfold Exact at exact
  generalize schema.fields = fields at read exact ⊢
  cases slots with
  | nil =>
      rw [List.map_nil, separated, readPositions_append _ _ _ _ spaces] at read
      refine ⟨?_, Nat.zero_le _, fun _ here => by cases here⟩
      exact eq_of_readPositions_bracket read
  | cons slot slots =>
      obtain ⟨spacedFirst, spacedRest⟩ := List.forall_mem_cons.mp spaced
      obtain ⟨valuesFirst, valuesRest⟩ := List.forall_mem_cons.mp values
      rw [List.map_cons, separated, List.append_assoc] at read
      cases fields with
      -- A record without fields has room for no element.
      | nil =>
          obtain ⟨c, more, value, solid, noBracket, noComma⟩ := valuesFirst.exists_eq_cons
          rw [slot.text_append, readPositions_append _ _ _ _ spacedFirst.front, value,
            List.cons_append, readPositions, closeList, dropSpaces_cons solid] at read
          split at read
          · cases read
          · rename_i closing; cases closing; exact absurd rfl noBracket
          · rename_i comma; cases comma; exact absurd rfl noComma
          · cases read
      | cons field fields =>
          obtain ⟨exactFirst, exactRest⟩ := List.forall_mem_cons.mp exact
          rw [schema.readPositions_first _ _ _ spacedFirst valuesFirst] at read
          obtain ⟨takes, next, others⟩ := of_readElement exactFirst spacedFirst valuesFirst
            (endsNumber_continued _ (endsNumber_bracket rest)) read
          obtain ⟨ended, few, each⟩ := of_readPositions exactRest spacedRest valuesRest others
          exact ⟨ended, Nat.succ_le_succ few, List.forall_mem_cons.mpr ⟨takes, each⟩⟩

/-- Only objects and lists are read as records. -/
theorem read_ne_ok (schema : Schema α) {c : Char} (solid : isSpace c = false) (noBrace : c ≠ '{')
    (noBracket : c ≠ '[') {gap : List Char} (spaces : IsGap gap) (text : List Char)
    (result : α × List Char) : schema.read (gap ++ c :: text) ≠ .ok result := by
  rw [Schema.read, dropSpaces_append spaces, dropSpaces_cons solid]
  split
  · rename_i brace; cases brace; exact absurd rfl noBrace
  · rename_i bracket; cases bracket; exact absurd rfl noBracket
  · intro same
    cases same

theorem readDocument_of_read_ne_ok {β : Type} {read : Reader β} {text : List Char}
    (refused : ∀ result, read text ≠ .ok result) :
    ∃ error, Json.readDocument read (String.ofList text) = .error error := by
  rw [Json.readDocument, String.toList_ofList]
  cases outcome : read text with
  | error error => exact ⟨error, rfl⟩
  | ok result => exact absurd outcome (refused result)

/-- Records are read exactly, as objects and as lists. -/
theorem Exact.kind (exact : schema.Exact) (distinct : (schema.fields.map Field.key).Nodup) :
    schema.kind.Exact := by
  intro text gap rest result behind isValue spaces ends read
  change schema.read _ = _ at read
  cases isValue with
  | object innerSpaces spaced keys values =>
      exact (of_read_object distinct exact innerSpaces
        (fun member here => ⟨spaced member here, keys member here, values member here⟩)
        spaces read).1
  | list innerSpaces spaced values =>
      exact (of_read_list exact innerSpaces spaced values spaces read).1
  | null => exact absurd read (schema.read_ne_ok rfl (by decide) (by decide) spaces _ _)
  | @boolean value =>
      cases value with
      | false => exact absurd read (schema.read_ne_ok rfl (by decide) (by decide) spaces _ _)
      | true => exact absurd read (schema.read_ne_ok rfl (by decide) (by decide) spaces _ _)
  | text _ => exact absurd read (schema.read_ne_ok rfl (by decide) (by decide) spaces _ _)
  | negative _ => exact absurd read (schema.read_ne_ok rfl (by decide) (by decide) spaces _ _)
  | magnitude isMagnitude =>
      obtain ⟨c, more, rfl, digit⟩ := isMagnitude.exists_eq_cons
      have solid : isSpace c = false := isSpace_of_opens_number (by simp [digit])
      refine absurd read (schema.read_ne_ok solid ?_ ?_ spaces _ _) <;> rintro rfl <;> cases digit

end Schema

end FileSearch.Json
