import FileSearch.Proofs.Json.Written

/-!
# Forms of records

A record can be given by the members of an object or by a list of values, and in both forms by its
first fields only. Both are read as the record that a document starts from, overridden by the fields
that are given.
-/

set_option autoImplicit false

namespace FileSearch.Json

/-- A way to give a record: so many of its first fields, with their keys or as a list. -/
inductive Form where
  | keyed (count : Nat)
  | listed (count : Nat)
  deriving DecidableEq, Repr

namespace Form

def count : Form → Nat
  | .keyed count => count
  | .listed count => count

/-- An object in a form. All other values have no other form. -/
def apply : Form → Value → Value
  | .keyed count, .object members => .object (members.take count)
  | .listed count, .object members => .list ((members.take count).map Prod.snd)
  | _, value => value

end Form

/-! ## Parts of spelled values -/

theorem Value.Spelled.exists_slots {values : List Value} {text : List Char}
    (spelled : (Value.list values).Spelled text) :
    ∃ gap slots, IsGap gap ∧ text = listText gap slots ∧
      List.Forall₂ (fun value slot => slot.Spaced ∧ value.Spelled slot.value) values slots := by
  cases spelled with
  | @list gap parts spaces spaced each =>
      refine ⟨gap, parts.map Prod.snd, spaces, rfl, ?_⟩
      rw [List.forall₂_map_left_iff, List.forall₂_map_right_iff, List.forall₂_same]
      exact fun part here => ⟨spaced part here, each part here⟩

theorem Value.Spelled.exists_members {members : List (String × Value)} {text : List Char}
    (spelled : (Value.object members).Spelled text) :
    ∃ gap spellings, IsGap gap ∧ text = objectText gap spellings ∧
      List.Forall₂ (fun member spelling => spelling.Spaced ∧ spelling.Named member.1 ∧
        member.2.Spelled spelling.slot.value) members spellings := by
  cases spelled with
  | @object gap parts spaces spaced named each =>
      refine ⟨gap, parts.map Prod.snd, spaces, rfl, ?_⟩
      rw [List.forall₂_map_left_iff, List.forall₂_map_right_iff, List.forall₂_same]
      exact fun part here => ⟨spaced part here, named part here, each part here⟩

namespace Schema

variable {α : Type} {schema : Schema α}

/-- Members that set fields are the entries of an object without others. -/
theorem exists_entries {settings : List (Setting α)} {members : List Member}
    (fits : List.Forall₂ (fun setting member => schema.Fits ⟨member, some setting⟩) settings
      members) :
    ∃ entries : List (Entry α), entries.map Entry.member = members ∧
      Schema.settings entries = settings ∧ ∀ entry ∈ entries, schema.Fits entry := by
  induction fits with
  | nil => exact ⟨[], rfl, rfl, by simp⟩
  | @cons setting member _ _ first _ ih =>
      obtain ⟨entries, sameMembers, sameSettings, others⟩ := ih
      refine ⟨⟨member, some setting⟩ :: entries, ?_, ?_, List.forall_mem_cons.mpr ⟨first, others⟩⟩
      · rw [List.map_cons, sameMembers]
      · rw [settings_cons, sameSettings]
        rfl

theorem map_key_settings (settings : List (Setting α)) :
    settings.map Setting.key = (settings.map Setting.field).map Field.key := by
  rw [List.map_map]
  rfl

theorem listed_of_leading {settings : List (Setting α)}
    (leading : settings.map Setting.field <+: schema.fields) :
    ∀ setting ∈ settings, setting.field ∈ schema.fields :=
  fun _ here => leading.subset (List.mem_map_of_mem here)

theorem Lawful.nodup_of_leading (lawful : schema.Lawful) {settings : List (Setting α)}
    (leading : settings.map Setting.field <+: schema.fields) :
    (settings.map Setting.key).Nodup := by
  rw [map_key_settings]
  exact lawful.distinct.sublist (leading.sublist.map Field.key)

/-! ## The first fields of a record -/

/-- The settings that make some fields as they are in a record. -/
def settingsOf (record : α) (fields : List (Field α)) : List (Setting α) :=
  fields.map fun field => ⟨field, field.get record⟩

/-- A record with the first fields of another one, and the others as a document starts with them. -/
def first (schema : Schema α) (count : Nat) (record : α) : α :=
  schema.overridden (settingsOf record (schema.fields.take count))

theorem map_field_settingsOf (record : α) (fields : List (Field α)) :
    (settingsOf record fields).map Setting.field = fields := by
  rw [settingsOf, List.map_map]
  exact List.map_id fields

theorem leading_settingsOf (schema : Schema α) (record : α) (count : Nat) :
    (settingsOf record (schema.fields.take count)).map Setting.field <+: schema.fields := by
  rw [map_field_settingsOf]
  exact List.take_prefix count schema.fields

theorem Lawful.overrides_first (lawful : schema.Lawful) (count : Nat) (record : α) :
    schema.Overrides (settingsOf record (schema.fields.take count)) (schema.first count record) :=
  have leading := schema.leading_settingsOf record count
  lawful.overrides_overridden (listed_of_leading leading) (lawful.nodup_of_leading leading)

theorem Lawful.get_first_of_take (lawful : schema.Lawful) {count : Nat} {field : Field α}
    (here : field ∈ schema.fields.take count) (record : α) :
    field.get (schema.first count record) = field.get record :=
  (lawful.overrides_first count record).set ⟨field, field.get record⟩ (List.mem_map_of_mem here)

theorem Lawful.get_first_of_drop (lawful : schema.Lawful) {count : Nat} {field : Field α}
    (here : field ∈ schema.fields.drop count) (record : α) :
    field.get (schema.first count record) = field.get schema.initial := by
  apply (lawful.overrides_first count record).kept field (List.mem_of_mem_drop here)
  rw [map_key_settings, map_field_settingsOf]
  have distinct := lawful.distinct
  rw [← List.take_append_drop count schema.fields, List.map_append, List.nodup_append] at distinct
  intro before
  exact distinct.2.2 field.key before field.key (List.mem_map_of_mem here) rfl

theorem Lawful.first_length (lawful : schema.Lawful) (record : α) :
    schema.first schema.fields.length record = record := by
  apply lawful.ext
  intro field listed
  apply lawful.get_first_of_take
  rwa [List.take_length]

/-! ## Reading forms -/

section Given

variable {settings : List (Setting α)} {written : Field α → Value}
  (values : ∀ setting ∈ settings, ∀ text, (written setting.field).Spelled text →
    setting.field.kind.Reads text setting.value)
  {text : List Char}

include values

theorem Lawful.reads_spelled_list (lawful : schema.Lawful)
    (leading : settings.map Setting.field <+: schema.fields)
    (spelled : (Value.list (settings.map fun setting => written setting.field)).Spelled text) :
    schema.kind.Reads text (schema.overridden settings) := by
  obtain ⟨gap, slots, spaces, rfl, each⟩ := spelled.exists_slots
  rw [List.forall₂_map_left_iff] at each
  have both := (List.forall₂_and_left settings slots).mpr ⟨values, each⟩
  have inSlots : List.Forall₂ Setting.InSlot settings slots :=
    both.imp fun setting slot ⟨value, spaced, spelled⟩ =>
      ⟨spaced, spelled.isValue, value slot.value spelled⟩
  exact lawful.kind_reads_list spaces inSlots leading

theorem Lawful.reads_spelled_object (lawful : schema.Lawful)
    (leading : settings.map Setting.field <+: schema.fields)
    (spelled : (Value.object (settings.map fun setting =>
      (setting.key, written setting.field))).Spelled text) :
    schema.kind.Reads text (schema.overridden settings) := by
  obtain ⟨gap, members, spaces, rfl, each⟩ := spelled.exists_members
  rw [List.forall₂_map_left_iff] at each
  have own : ∀ setting ∈ settings, setting.field ∈ schema.fields ∧ ∀ text,
      (written setting.field).Spelled text → setting.field.kind.Reads text setting.value :=
    fun setting here => ⟨listed_of_leading leading setting here, values setting here⟩
  have fits : List.Forall₂ (fun setting member => schema.Fits ⟨member, some setting⟩) settings
      members := by
    refine ((List.forall₂_and_left settings members).mpr ⟨own, each⟩).imp ?_
    rintro setting member ⟨⟨listed, value⟩, spaced, named, spelled⟩
    constructor
    · exact spaced
    · intro same
      cases same
    · intro other same
      cases same
      exact ⟨listed, named, value member.slot.value spelled⟩
  obtain ⟨entries, rfl, rfl, entriesFit⟩ := exists_entries fits
  exact lawful.kind_reads spaces entriesFit (lawful.nodup_of_leading leading)

end Given

/-- If each field of a record is read from every text of what it is written as, so is, in both
forms, the record with the first fields. -/
theorem Lawful.reads_form (lawful : schema.Lawful) {record : α} {written : Field α → Value}
    (each : ∀ field ∈ schema.fields, ∀ text, (written field).Spelled text →
      field.kind.Reads text (field.get record)) {form : Form} {text : List Char}
    (spelled : (form.apply (.object (schema.fields.map fun field =>
      (field.key, written field)))).Spelled text) :
    schema.kind.Reads text (schema.first form.count record) := by
  have leading := schema.leading_settingsOf record form.count
  have values : ∀ setting ∈ settingsOf record (schema.fields.take form.count), ∀ text,
      (written setting.field).Spelled text → setting.field.kind.Reads text setting.value :=
    List.forall_mem_map.mpr fun field here => each field (List.mem_of_mem_take here)
  cases form with
  | keyed count =>
      apply lawful.reads_spelled_object values leading
      rw [settingsOf, List.map_map]
      rw [Form.apply, ← List.map_take] at spelled
      exact spelled
  | listed count =>
      apply lawful.reads_spelled_list values leading
      rw [settingsOf, List.map_map]
      rw [Form.apply, ← List.map_take, List.map_map] at spelled
      exact spelled

end Schema

/-! ## Whole values -/

/-- Each value of a kind is read from every text of what it is written as. -/
def Kind.ReadsSpelled {β : Type} (kind : Kind β) : Prop :=
  ∀ value text, (kind.write value).Spelled text → kind.Reads text value

theorem Kind.flag_readsSpelled : Kind.flag.ReadsSpelled := by
  intro value text spelled
  cases spelled with
  | boolean => exact Kind.flag_reads value

theorem Kind.text_readsSpelled (bytes : Nat) : (Kind.text bytes).ReadsSpelled := by
  intro value text spelled
  cases spelled with
  | text spells =>
      have reads := Kind.text_reads bytes spells
      rwa [String.ofList_toList] at reads

theorem Schema.Lawful.kind_readsSpelled {α : Type} {schema : Schema α} (lawful : schema.Lawful)
    (fields : ∀ field ∈ schema.fields, field.kind.ReadsSpelled) : schema.kind.ReadsSpelled := by
  intro record text spelled
  have each : ∀ field ∈ schema.fields, ∀ text, (field.kind.write (field.get record)).Spelled text →
      field.kind.Reads text (field.get record) :=
    fun field here => fields field here (field.get record)
  have whole : schema.kind.write record = (Form.keyed schema.fields.length).apply
      (.object (schema.fields.map (member record))) := by
    rw [Form.apply, List.take_of_length_le (Nat.le_of_eq (List.length_map _))]
    exact schema.write_eq_object record
  rw [whole] at spelled
  have reads := lawful.reads_form each spelled
  rwa [Form.count, lawful.first_length] at reads

end FileSearch.Json
