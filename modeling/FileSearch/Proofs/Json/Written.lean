import FileSearch.Proofs.Json.Exact
import Mathlib.Data.List.Forall2

/-!
# Written values

The texts of a value differ in the spaces between the tokens and in the spelling of the texts. What
is written is one of them, in both layouts, and each is well-formed. Lists are read back where their
elements are.
-/

set_option autoImplicit false

namespace FileSearch.Json

/-! ## Texts of values -/

/-- The texts of a value, with any spaces between the tokens and any spelling of keys and texts. -/
inductive Value.Spelled : Value → List Char → Prop where
  | null : Spelled .null "null".toList
  | boolean {value : Bool} : Spelled (.boolean value) (toString value).toList
  | integer {value : Int} : Spelled (.integer value) (toString value).toList
  | text {value : String} {body : List Char} : Spells body value.toList →
      Spelled (.text value) (quoted body)
  | list {gap : List Char} {parts : List (Value × Slot)} : IsGap gap →
      (∀ part ∈ parts, part.2.Spaced) → (∀ part ∈ parts, Spelled part.1 part.2.value) →
      Spelled (.list (parts.map Prod.fst)) (listText gap (parts.map Prod.snd))
  | object {gap : List Char} {parts : List ((String × Value) × Member)} : IsGap gap →
      (∀ part ∈ parts, part.2.Spaced) → (∀ part ∈ parts, part.2.Named part.1.1) →
      (∀ part ∈ parts, Spelled part.1.2 part.2.slot.value) →
      Spelled (.object (parts.map Prod.fst)) (objectText gap (parts.map Prod.snd))

theorem isValue_toString (value : Int) : IsValue (toString value).toList := by
  rw [Int.toString_eq_repr, Int.repr_eq_if]
  split
  · exact .magnitude (isMagnitude_toString value.toNat)
  · rw [String.toList_append]
    exact .negative (isMagnitude_toString (-value).toNat)

theorem Value.Spelled.isValue {value : Value} {text : List Char} (spelled : value.Spelled text) :
    IsValue text := by
  induction spelled with
  | null => exact .null
  | boolean => exact .boolean
  | integer => exact isValue_toString _
  | text spells => exact .text spells.isTextBody
  | list spaces spaced _ values =>
      exact .list spaces (List.forall_mem_map.mpr spaced) (List.forall_mem_map.mpr values)
  | object spaces spaced named _ values =>
      have keys := fun part here => (named part here).isTextBody
      exact .object spaces (List.forall_mem_map.mpr spaced) (List.forall_mem_map.mpr keys)
        (List.forall_mem_map.mpr values)

/-! ## Lists and objects -/

/-- The spaces behind the last of several texts can be counted to it. -/
theorem exists_continued_append {β γ : Type} {text : β → List Char} {tag : β → γ} {P : β → Prop}
    {gap : List Char} (extended : ∀ part, P part →
      ∃ longer, P longer ∧ tag longer = tag part ∧ text longer = text part ++ gap)
    (first : β) (rest : List β) (parts : ∀ part ∈ first :: rest, P part) :
    ∃ start others, (∀ part ∈ start :: others, P part) ∧
      (start :: others).map tag = (first :: rest).map tag ∧
      text start ++ continued (others.map text) =
        text first ++ (continued (rest.map text) ++ gap) := by
  induction rest generalizing first with
  | nil =>
      obtain ⟨longer, holds, kept, same⟩ := extended first (parts first List.mem_cons_self)
      refine ⟨longer, [], fun part listed => List.mem_singleton.mp listed ▸ holds, ?_, ?_⟩
      · rw [List.map_singleton, List.map_singleton, kept]
      · rw [List.map_nil, continued_nil, List.append_nil, List.nil_append, same]
  | cons second rest ih =>
      obtain ⟨holds, more⟩ := List.forall_mem_cons.mp parts
      obtain ⟨start, others, hold, kept, same⟩ := ih second more
      refine ⟨first, start :: others, List.forall_mem_cons.mpr ⟨holds, hold⟩, ?_, ?_⟩
      · rw [List.map_cons, kept, ← List.map_cons]
      · rw [List.map_cons, List.map_cons, continued_cons, continued_cons, same, List.cons_append,
          List.append_assoc]

/-- A value with the line that it is written on. -/
def writtenSlot (layout : Layout) (level : Nat) (value : Value) : Slot where
  front := layout.line level
  value := value.write layout level
  back := []

/-- A member with the line that it is written on. -/
def writtenMember (layout : Layout) (level : Nat) (member : String × Value) : Member where
  front := layout.line level
  key := member.1.toList.flatMap writtenChar
  behindKey := []
  slot := ⟨layout.colon.tail, member.2.write layout level, []⟩

theorem writeElements_eq_continued (layout : Layout) (level : Nat) (values : List Value) :
    writeElements layout level values =
      continued ((values.map (writtenSlot layout level)).map Slot.text) := by
  induction values with
  | nil => rfl
  | cons value rest ih => simp [writeElements, ih, continued_cons, writtenSlot, Slot.text]

theorem text_writtenMember (layout : Layout) (level : Nat) (member : String × Value) :
    (writtenMember layout level member).text = layout.line level ++
      (writeText member.1 ++ (layout.colon ++ member.2.write layout level)) := by
  obtain ⟨gap, colon, -⟩ := exists_colon_eq_cons layout
  simp [writtenMember, Member.text, Member.body, Slot.text, colon, writeText, quoted]

theorem writeMembers_eq_continued (layout : Layout) (level : Nat)
    (members : List (String × Value)) :
    writeMembers layout level members =
      continued ((members.map (writtenMember layout level)).map Member.text) := by
  induction members with
  | nil => rfl
  | cons member rest ih =>
      simp [writeMembers, ih, continued_cons, text_writtenMember]

/-! ## Values -/

theorem spelled_list (layout : Layout) (level : Nat) {first : Value} {rest : List Value}
    (values : ∀ value ∈ first :: rest, value.Spelled (value.write layout (level + 1))) :
    (Value.list (first :: rest)).Spelled ((Value.list (first :: rest)).write layout level) := by
  let Fits (part : Value × Slot) := part.2.Spaced ∧ part.1.Spelled part.2.value
  have noGap : IsGap [] := by simp [IsGap]
  have extended : ∀ part, Fits part → ∃ longer, Fits longer ∧ longer.1 = part.1 ∧
      longer.2.text = part.2.text ++ layout.line level := by
    rintro ⟨value, front, text, back⟩ ⟨⟨frontSpaces, backSpaces⟩, spelled⟩
    refine ⟨⟨value, front, text, back ++ layout.line level⟩, ⟨⟨frontSpaces, ?_⟩, spelled⟩, rfl, ?_⟩
    · exact List.forall_mem_append.mpr ⟨backSpaces, isGap_line layout level⟩
    · simp only [Slot.text, List.append_assoc]
  have fits : ∀ part ∈ (first :: rest).map fun value =>
      (value, writtenSlot layout (level + 1) value), Fits part :=
    List.forall_mem_map.mpr fun value here =>
      ⟨⟨isGap_line layout (level + 1), noGap⟩, values value here⟩
  obtain ⟨start, others, hold, kept, same⟩ := exists_continued_append extended _ _ fits
  have spelled := Value.Spelled.list noGap (fun part listed => (hold part listed).1)
    fun part listed => (hold part listed).2
  have tags : (start :: others).map Prod.fst = first :: rest := by
    simpa [Function.comp_def] using kept
  rw [tags, listText, List.map_map, List.map_cons, separated] at spelled
  simp only [Function.comp_def, same] at spelled
  simpa [Value.write, writeElements_eq_continued, writtenSlot, Slot.text, Function.comp_def]
    using spelled

theorem spelled_object (layout : Layout) (level : Nat) {first : String × Value}
    {rest : List (String × Value)}
    (values : ∀ member ∈ first :: rest, member.2.Spelled (member.2.write layout (level + 1))) :
    (Value.object (first :: rest)).Spelled ((Value.object (first :: rest)).write layout level) := by
  let Fits (part : (String × Value) × Member) :=
    part.2.Spaced ∧ part.2.Named part.1.1 ∧ part.1.2.Spelled part.2.slot.value
  have noGap : IsGap [] := by simp [IsGap]
  obtain ⟨colonGap, colon, colonSpaces⟩ := exists_colon_eq_cons layout
  have extended : ∀ part, Fits part → ∃ longer, Fits longer ∧ longer.1 = part.1 ∧
      longer.2.text = part.2.text ++ layout.line level := by
    rintro ⟨member, front, key, behindKey, ⟨slotFront, value, back⟩⟩ ⟨spaced, named, spelled⟩
    refine ⟨⟨member, front, key, behindKey, ⟨slotFront, value, back ++ layout.line level⟩⟩,
      ⟨{ spaced with slot.front := ?_, slot.back := ?_ }, named, spelled⟩, rfl, ?_⟩
    · exact spaced.slot.front
    · exact List.forall_mem_append.mpr ⟨spaced.slot.back, isGap_line layout level⟩
    · simp only [Member.text, Member.body, Slot.text, List.append_assoc, List.cons_append]
  have fits : ∀ part ∈ (first :: rest).map fun member =>
      (member, writtenMember layout (level + 1) member), Fits part := by
    refine List.forall_mem_map.mpr fun member here => ⟨⟨isGap_line layout (level + 1), noGap, ?_⟩,
      spells_flatMap_writtenChar member.1.toList, values member here⟩
    rw [writtenMember, colon]
    exact ⟨colonSpaces, noGap⟩
  obtain ⟨start, others, hold, kept, same⟩ := exists_continued_append extended _ _ fits
  have spelled := Value.Spelled.object noGap (fun part listed => (hold part listed).1)
    (fun part listed => (hold part listed).2.1) fun part listed => (hold part listed).2.2
  have tags : (start :: others).map Prod.fst = first :: rest := by
    simpa [Function.comp_def] using kept
  rw [tags, objectText, List.map_map, List.map_cons, separated] at spelled
  simp only [Function.comp_def, same] at spelled
  simpa [Value.write, writeMembers_eq_continued, text_writtenMember, Function.comp_def]
    using spelled

/-- What is written is a text of the value. -/
theorem Value.spelled_write (layout : Layout) (level : Nat) (value : Value) :
    value.Spelled (value.write layout level) := by
  cases value with
  | null => exact .null
  | boolean value =>
      have word : (Value.boolean value).Spelled (toString value).toList := .boolean
      cases value <;> exact word
  | integer value => exact .integer
  | text value => exact .text (spells_flatMap_writtenChar value.toList)
  | list elements =>
      cases elements with
      | nil =>
          have noGap : IsGap [] := by simp [IsGap]
          exact @Spelled.list [] [] noGap (by simp) (by simp)
      | cons first rest =>
          exact spelled_list layout level fun value listed =>
            value.spelled_write layout (level + 1)
  | object members =>
      cases members with
      | nil =>
          have noGap : IsGap [] := by simp [IsGap]
          exact @Spelled.object [] [] noGap (by simp) (by simp) (by simp)
      | cons first rest =>
          exact spelled_object layout level fun member listed =>
            member.2.spelled_write layout (level + 1)
termination_by sizeOf value
decreasing_by
  · have smaller := List.sizeOf_lt_of_mem listed
    simp only [Value.list.sizeOf_spec]
    omega
  · obtain ⟨key, value⟩ := member
    have smaller := List.sizeOf_lt_of_mem listed
    simp only [Prod.mk.sizeOf_spec, Value.object.sizeOf_spec] at smaller ⊢
    omega

theorem isValue_writeText (text : String) : IsValue (writeText text) :=
  ((Value.text text).spelled_write .compact 0).isValue

theorem Value.isValue_document (layout : Layout) (value : Value) :
    IsValue (value.document layout).toList := by
  rw [document, String.toList_ofList]
  exact (value.spelled_write layout 0).isValue

/-! ## Lists read back -/

section Lists

variable {α : Type} {read : Reader α}

/-- What stands behind an element: the others, and the end of the list. -/
def listTail (layout : Layout) (level : Nat) (values : List Value) (rest : List Char) : List Char :=
  writeElements layout (level + 1) values ++ (layout.line level ++ ']' :: rest)

theorem endsNumber_listTail (layout : Layout) (level : Nat) (values : List Value)
    (rest : List Char) : EndsNumber (listTail layout level values rest) := by
  cases values with
  | nil => exact endsNumber_line_append layout level (endsNumber_bracket rest)
  | cons value values => exact endsNumber_comma _

theorem length_lt_length_listTail (layout : Layout) (level : Nat) (values : List Value)
    (rest : List Char) : values.length < (listTail layout level values rest).length := by
  induction values with
  | nil =>
      simp only [listTail, writeElements, List.length_append, List.length_cons, List.length_nil]
      omega
  | cons value values ih =>
      simp only [listTail, writeElements, List.length_append, List.length_cons] at ih ⊢
      omega

/-- An element begins with a token that does not close the list, and is read from there. -/
theorem ReadsBack.exists_element {value : Value} {result : α}
    (readsBack : ReadsBack read value result) (layout : Layout) (level : Nat) {rest : List Char}
    (ends : EndsNumber rest) :
    ∃ c more, dropSpaces (layout.line level ++ (value.write layout level ++ rest)) = c :: more ∧
      c ≠ ']' ∧ read (c :: more) = .ok (result, rest) := by
  have isValue := (value.spelled_write layout level).isValue
  obtain ⟨c, more, token, solid, noBracket, -⟩ := isValue.exists_eq_cons
  have element := readsBack layout level [] rest (by simp [IsGap]) ends
  rw [List.nil_append, token, List.cons_append] at element
  refine ⟨c, more ++ rest, ?_, noBracket, element⟩
  rw [dropSpaces_append (isGap_line layout level), token, List.cons_append, dropSpaces_cons solid]

theorem readElements_write {written : List Value} {values : List α}
    (readsBack : List.Forall₂ (ReadsBack read) written values) (layout : Layout) (level : Nat)
    (rest : List Char) {fuel : Nat} (enough : written.length < fuel) :
    readElements read fuel (listTail layout level written rest) = .ok (values, rest) := by
  induction readsBack generalizing fuel with
  | nil =>
      obtain ⟨fuel, rfl⟩ : ∃ less, fuel = less + 1 := ⟨fuel - 1, by omega⟩
      change readElements read (fuel + 1) (layout.line level ++ ']' :: rest) = _
      rw [readElements, dropSpaces_append (isGap_line layout level), dropSpaces_cons rfl]
      rfl
  | @cons value result written values first _ ih =>
      obtain ⟨fuel, rfl⟩ : ∃ less, fuel = less + 1 := ⟨fuel - 1, by omega⟩
      obtain ⟨c, more, token, noBracket, element⟩ := first.exists_element layout (level + 1)
        (endsNumber_listTail layout level written rest)
      have shape : listTail layout level (value :: written) rest = ',' :: (layout.line (level + 1) ++
          (value.write layout (level + 1) ++ listTail layout level written rest)) := by
        simp only [listTail, writeElements, List.append_assoc, List.cons_append]
      rw [shape, readElements, dropSpaces_cons rfl]
      simp only [token]
      split
      · rename_i nothing; cases nothing
      · rename_i closing; cases closing; exact absurd rfl noBracket
      · simp only [element, ih (Nat.lt_of_succ_lt_succ enough), bind, Except.bind]
        rfl

/-- A list is read back where its elements are. -/
theorem readsBack_list {written : List Value} {values : List α}
    (readsBack : List.Forall₂ (ReadsBack read) written values) :
    ReadsBack (readList read) (.list written) values := by
  intro layout level gap rest spaces _
  cases readsBack with
  | nil =>
      change readList read (gap ++ '[' :: ']' :: rest) = _
      rw [readList, dropSpaces_append spaces, dropSpaces_cons rfl]
      rfl
  | @cons value result written values first others =>
      obtain ⟨c, more, token, noBracket, element⟩ := first.exists_element layout (level + 1)
        (endsNumber_listTail layout level written rest)
      have elements := readElements_write others layout level rest
        (length_lt_length_listTail layout level written rest)
      have shape : (Value.list (value :: written)).write layout level ++ rest =
          '[' :: (layout.line (level + 1) ++
            (value.write layout (level + 1) ++ listTail layout level written rest)) := by
        simp only [Value.write, listTail, List.append_assoc, List.cons_append,
          List.nil_append]
      rw [shape, readList, dropSpaces_append spaces, dropSpaces_cons rfl]
      simp only [token]
      split
      · rename_i nothing; cases nothing
      · rename_i closing; cases closing; exact absurd rfl noBracket
      · simp only [element, elements, bind, Except.bind]
        rfl

end Lists

end FileSearch.Json
