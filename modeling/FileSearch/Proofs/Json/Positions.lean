import FileSearch.Proofs.Json.Members

/-!
# Records by position

A list stands for a record by the values of its first fields, in order. It is read as the record
that a document starts from, overridden by these values.
-/

set_option autoImplicit false

namespace FileSearch.Json

/-- A slot holds a value that is read as the one of a setting. -/
structure Setting.InSlot {α : Type} (setting : Setting α) (slot : Slot) : Prop where
  spaced : slot.Spaced
  isValue : IsValue slot.value
  reads : setting.field.kind.Reads slot.value setting.value

namespace Schema

variable {α : Type} {schema : Schema α}

/-- The value of a field at the front of a text, and the values of the given fields behind it. -/
def readElement (schema : Schema α) (field : Field α) (fields : List (Field α)) (count : Nat)
    (record : α) : Reader α := fun text => do
  let (value, rest) ← field.kind.read text
  schema.readPositions fields (count + 1) (field.set value record) rest

theorem readPositions_append (schema : Schema α) (fields : List (Field α)) (count : Nat)
    (record : α) {gap : List Char} (spaces : IsGap gap) (text : List Char) :
    schema.readPositions fields count record (gap ++ text) =
      schema.readPositions fields count record text := by
  cases fields with
  | nil => rw [readPositions, readPositions, closeList, closeList, dropSpaces_append spaces]
  | cons field fields => rw [readPositions, readPositions, dropSpaces_append spaces]

/-- The first element follows the bracket. -/
theorem readPositions_first (schema : Schema α) (field : Field α) (fields : List (Field α))
    (record : α) {slot : Slot} (spaced : slot.Spaced) (isValue : IsValue slot.value)
    (rest : List Char) :
    schema.readPositions (field :: fields) 0 record (slot.text ++ rest) =
      schema.readElement field fields 0 record (slot.value ++ (slot.back ++ rest)) := by
  obtain ⟨c, more, value, solid, noBracket, noComma⟩ := isValue.exists_eq_cons
  rw [slot.text_append, readPositions_append _ _ _ _ spaced.front, value, List.cons_append,
    readPositions, dropSpaces_cons solid]
  split
  · rename_i nothing; cases nothing
  · rename_i closing; cases closing; exact absurd rfl noBracket
  · rename_i comma; cases comma; exact absurd rfl noComma
  · rw [if_pos rfl]
    rfl

/-- Every other element follows a comma. -/
theorem readPositions_next (schema : Schema α) (field : Field α) (fields : List (Field α))
    (count : Nat) (record : α) {slot : Slot} (spaced : slot.Spaced) (isValue : IsValue slot.value)
    (rest : List Char) :
    schema.readPositions (field :: fields) (count + 1) record (',' :: (slot.text ++ rest)) =
      schema.readElement field fields (count + 1) record (slot.value ++ (slot.back ++ rest)) := by
  obtain ⟨c, more, value, solid, noBracket, -⟩ := isValue.exists_eq_cons
  rw [readPositions, dropSpaces_cons rfl]
  simp only [Nat.succ_ne_zero, if_false, slot.text_append, dropSpaces_append spaced.front]
  rw [value, List.cons_append, dropSpaces_cons solid]
  split
  · rename_i nothing; cases nothing
  · rename_i closing; cases closing; exact absurd rfl noBracket
  · rfl

/-- A list may end before any of the fields. -/
theorem Lawful.endList_eq_ok (lawful : schema.Lawful) {fields : List (Field α)}
    (listed : fields ⊆ schema.fields) (count : Nat) (record : α) (rest : List Char) :
    schema.endList fields count record rest = .ok (record, rest) := by
  rw [endList]
  split
  · rename_i field position found
    have here := List.fst_mem_of_mem_zipIdx (List.mem_of_find?_eq_some found)
    have required := List.find?_some found
    change field.required = true at required
    rw [lawful.optional field (listed here)] at required
    cases required
  · rfl

theorem Lawful.readPositions_bracket (lawful : schema.Lawful) {fields : List (Field α)}
    (listed : fields ⊆ schema.fields) (count : Nat) (record : α) (rest : List Char) :
    schema.readPositions fields count record (']' :: rest) = .ok (record, rest) := by
  cases fields with
  | nil =>
      rw [readPositions, closeList, dropSpaces_cons rfl]
      rfl
  | cons field fields =>
      rw [readPositions, dropSpaces_cons rfl]
      exact lawful.endList_eq_ok listed count record rest

theorem readElement_inSlot (schema : Schema α) {setting : Setting α} {slot : Slot}
    (inSlot : setting.InSlot slot) (fields : List (Field α)) (count : Nat) (record : α)
    {rest : List Char} (ends : EndsNumber rest) :
    schema.readElement setting.field fields count record (slot.value ++ (slot.back ++ rest)) =
      schema.readPositions fields (count + 1) (setting.field.set setting.value record) rest := by
  have noGap : IsGap [] := by simp [IsGap]
  have read := inSlot.reads [] (slot.back ++ rest) noGap (ends.gap_append inSlot.spaced.back)
  rw [List.nil_append] at read
  rw [readElement, read]
  exact schema.readPositions_append fields _ _ inSlot.spaced.back rest

/-- The elements that remain in a list set the next fields in turn. -/
theorem Lawful.readPositions_inSlots (lawful : schema.Lawful) {settings : List (Setting α)}
    {slots : List Slot} (inSlots : List.Forall₂ Setting.InSlot settings slots)
    {fields : List (Field α)} (listed : settings.map Setting.field ++ fields ⊆ schema.fields)
    (count : Nat) (record : α) (rest : List Char) :
    schema.readPositions (settings.map Setting.field ++ fields) (count + 1) record
        (continued (slots.map Slot.text) ++ ']' :: rest) =
      .ok (applied settings record, rest) := by
  induction inSlots generalizing count record with
  | nil => exact lawful.readPositions_bracket listed (count + 1) record rest
  | @cons setting slot settings slots first others ih =>
      obtain ⟨-, listedBehind⟩ := List.cons_subset.mp listed
      rw [List.map_cons, List.map_cons, List.cons_append, continued_cons, List.cons_append,
        List.append_assoc, schema.readPositions_next _ _ _ _ first.spaced first.isValue,
        schema.readElement_inSlot first _ _ _ (endsNumber_continued _ (endsNumber_bracket rest))]
      exact ih listedBehind (count + 1) (setting.field.set setting.value record)

/-- A list of the values of the first fields is read as what they override. -/
theorem Lawful.kind_reads_list (lawful : schema.Lawful) {gap : List Char} (spaces : IsGap gap)
    {settings : List (Setting α)} {slots : List Slot}
    (inSlots : List.Forall₂ Setting.InSlot settings slots)
    (first : settings.map Setting.field <+: schema.fields) :
    schema.kind.Reads (listText gap slots) (schema.overridden settings) := by
  intro front rest frontSpaces _
  obtain ⟨fields, split⟩ := first
  have listed : settings.map Setting.field ++ fields ⊆ schema.fields := fun _ here => split ▸ here
  change schema.read (front ++ _) = _
  rw [listText_append, read, dropSpaces_append frontSpaces, dropSpaces_cons rfl]
  change schema.readPositions schema.fields 0 schema.initial _ = _
  rw [← split]
  cases inSlots with
  | nil =>
      simp only [List.map_nil, separated]
      rw [schema.readPositions_append _ _ _ spaces]
      exact lawful.readPositions_bracket listed 0 schema.initial rest
  | @cons setting slot settings slots here others =>
      obtain ⟨-, listedBehind⟩ := List.cons_subset.mp listed
      rw [List.map_cons, List.map_cons, List.cons_append, separated, List.append_assoc,
        schema.readPositions_first _ _ _ here.spaced here.isValue,
        schema.readElement_inSlot here _ _ _ (endsNumber_continued _ (endsNumber_bracket rest))]
      exact lawful.readPositions_inSlots others listedBehind 0 _ rest

end Schema

end FileSearch.Json
