import FileSearch.Proofs.Json.Laws
import FileSearch.Proofs.Json.Spelling

/-!
# Objects in any order

An object may have the members of a record in any order, may leave some out, and may have others
among them. It is read as the record that a document starts from, overridden by those members.
-/

set_option autoImplicit false

namespace FileSearch.Json

/-! ## What members mean -/

/-- A field and a value for it. -/
structure Setting (α : Type) where
  field : Field α
  value : field.Content

def Setting.key {α : Type} (setting : Setting α) : String :=
  setting.field.key

/-- A member of an object, and what it sets if it belongs to a field. -/
structure Entry (α : Type) where
  member : Member
  setting? : Option (Setting α)

/-- A member has a key, however that is spelled. -/
def Member.Named (member : Member) (key : String) : Prop :=
  Spells member.key key.toList

namespace Schema

variable {α : Type} {schema : Schema α}

/-- A well-formed member that belongs to no field. -/
structure Foreign (schema : Schema α) (member : Member) : Prop where
  named : ∃ key, member.Named key ∧ ∀ field ∈ schema.fields, field.key ≠ key
  isValue : IsValue member.slot.value

def applied (settings : List (Setting α)) (record : α) : α :=
  settings.foldl (fun result setting => setting.field.set setting.value result) record

/-- The record that settings make of the one that a document starts from. -/
def overridden (schema : Schema α) (settings : List (Setting α)) : α :=
  applied settings schema.initial

/-- A record has the values of some settings, and in all other fields the values that a document
starts from. -/
structure Overrides (schema : Schema α) (settings : List (Setting α)) (record : α) : Prop where
  set : ∀ setting ∈ settings, setting.field.get record = setting.value
  kept : ∀ field ∈ schema.fields, field.key ∉ settings.map Setting.key →
    field.get record = field.get schema.initial

namespace Lawful

theorem get_applied_of_notMem (lawful : schema.Lawful) {settings : List (Setting α)}
    (listed : ∀ setting ∈ settings, setting.field ∈ schema.fields) {field : Field α}
    (listedField : field ∈ schema.fields) (other : field.key ∉ settings.map Setting.key)
    (record : α) : field.get (applied settings record) = field.get record := by
  induction settings generalizing record with
  | nil => rfl
  | cons setting rest ih =>
      obtain ⟨first, others⟩ := List.forall_mem_cons.mp listed
      rw [List.map_cons, List.mem_cons, not_or] at other
      have different : setting.field ≠ field := fun same => other.1 (congrArg Field.key same.symm)
      rw [applied, List.foldl_cons]
      refine (ih others other.2 _).trans ?_
      exact lawful.get_set_of_ne first listedField different setting.value record

theorem get_applied (lawful : schema.Lawful) {settings : List (Setting α)}
    (listed : ∀ setting ∈ settings, setting.field ∈ schema.fields)
    (once : (settings.map Setting.key).Nodup) (record : α) {setting : Setting α}
    (member : setting ∈ settings) : setting.field.get (applied settings record) = setting.value := by
  induction settings generalizing record with
  | nil => cases member
  | cons head rest ih =>
      obtain ⟨first, others⟩ := List.forall_mem_cons.mp listed
      rw [List.map_cons, List.nodup_cons] at once
      rcases List.mem_cons.mp member with rfl | later
      · have kept := lawful.get_applied_of_notMem others first once.1
          (setting.field.set setting.value record)
        exact kept.trans (lawful.get_set setting.field first setting.value record)
      · exact ih others once.2 _ later

/-- Settings of distinct fields all take effect, in any order, and have no other effect. -/
theorem overrides_overridden (lawful : schema.Lawful) {settings : List (Setting α)}
    (listed : ∀ setting ∈ settings, setting.field ∈ schema.fields)
    (once : (settings.map Setting.key).Nodup) :
    schema.Overrides settings (schema.overridden settings) where
  set _ member := lawful.get_applied listed once schema.initial member
  kept _ listedField other :=
    lawful.get_applied_of_notMem listed listedField other schema.initial

end Lawful

/-! ## Reading members -/

theorem skipColon_append {gap : List Char} (spaces : IsGap gap) (text : List Char) :
    skipColon (gap ++ ':' :: text) = .ok text := by
  rw [skipColon, dropSpaces_append spaces, dropSpaces_cons rfl]
  rfl

theorem field?_eq_none {key : String} (foreign : ∀ field ∈ schema.fields, field.key ≠ key) :
    schema.field? key = none := by
  rw [field?, List.find?_eq_none]
  intro field listed
  simpa using foreign field listed

theorem field?_of_mem (distinct : (schema.fields.map Field.key).Nodup) {field : Field α}
    (listed : field ∈ schema.fields) : schema.field? field.key = some field := by
  obtain ⟨front, back, split⟩ := List.append_of_mem listed
  exact field?_of_append distinct split

theorem readMember_foreign {member : Member} (spaced : member.Spaced) {key : String}
    (foreign : ∀ field ∈ schema.fields, field.key ≠ key) (isValue : IsValue member.slot.value)
    (seen : List String) (record : α) {rest : List Char} (ends : EndsNumber rest) :
    schema.readMember key seen record (member.behindKey ++ ':' :: (member.slot.text ++ rest)) =
      .ok ((seen, record), member.slot.back ++ rest) := by
  have value : skipValue (member.slot.text ++ rest) = .ok (member.slot.back ++ rest) := by
    rw [member.slot.text_append]
    apply isValue.isPassed _ _ _ _ spaced.slot.front (ends.gap_append spaced.slot.back)
    simp only [List.length_append]
    omega
  rw [readMember, field?_eq_none foreign]
  simp only [skipColon_append spaced.behindKey, value, bind, Except.bind]
  rfl

theorem readMember_own {member : Member} (spaced : member.Spaced)
    (distinct : (schema.fields.map Field.key).Nodup) {field : Field α}
    (listed : field ∈ schema.fields) {value : field.Content}
    (reads : field.kind.Reads member.slot.value value) {seen : List String}
    (fresh : field.key ∉ seen) (record : α) {rest : List Char} (ends : EndsNumber rest) :
    schema.readMember field.key seen record
        (member.behindKey ++ ':' :: (member.slot.text ++ rest)) =
      .ok ((field.key :: seen, field.set value record), member.slot.back ++ rest) := by
  have unseen : seen.contains field.key = false := by simpa using fresh
  have read := reads member.slot.front (member.slot.back ++ rest) spaced.slot.front
    (ends.gap_append spaced.slot.back)
  rw [readMember, field?_of_mem distinct listed, member.slot.text_append]
  simp only [unseen, skipColon_append spaced.behindKey, read, bind, Except.bind,
    Bool.false_eq_true, if_false]
  rfl

/-- Behind a comma stands the next member. -/
theorem readMemberEnd_member (schema : Schema α) {member : Member} (spaced : member.Spaced)
    (fuel : Nat) (seen : List String) (record : α) (rest : List Char) :
    schema.readMemberEnd fuel seen record (',' :: (member.text ++ rest)) =
      schema.readMembers fuel seen record (member.body ++ rest) := by
  rw [member.text_append, member.body_append, readMemberEnd_quote fuel seen record spaced.front]

/-- An entry that a schema reads: a member that belongs to no field, or a setting of a field. -/
structure Fits (schema : Schema α) (entry : Entry α) : Prop where
  spaced : entry.member.Spaced
  foreign : entry.setting? = none → schema.Foreign entry.member
  own : ∀ setting, entry.setting? = some setting → setting.field ∈ schema.fields ∧
    entry.member.Named setting.field.key ∧
    setting.field.kind.Reads entry.member.slot.value setting.value

/-- What one entry does: its field has been seen and set. -/
theorem readMembers_entry (distinct : (schema.fields.map Field.key).Nodup) {entry : Entry α}
    (fits : schema.Fits entry) {seen : List String}
    (fresh : ∀ setting ∈ entry.setting?, setting.field.key ∉ seen) (fuel : Nat) (record : α)
    {rest : List Char} (ends : EndsNumber rest) :
    schema.readMembers (fuel + 1) seen record (entry.member.body ++ rest) =
      schema.readMemberEnd fuel (entry.setting?.toList.map Setting.key ++ seen)
        (applied entry.setting?.toList record) rest := by
  rw [entry.member.body_append, ← readMemberEnd_append _ _ _ fits.spaced.slot.back]
  cases means : entry.setting? with
  | none =>
      obtain ⟨⟨key, named, foreign⟩, isValue⟩ := fits.foreign means
      exact readMembers_of_readTextTail (readTextTail_append named _)
        (readMember_foreign fits.spaced foreign isValue seen record ends)
  | some setting =>
      obtain ⟨listed, named, reads⟩ := fits.own setting means
      exact readMembers_of_readTextTail (readTextTail_append named _)
        (readMember_own fits.spaced distinct listed reads (fresh setting means) record ends)

/-- The settings among some entries. -/
def settings (entries : List (Entry α)) : List (Setting α) :=
  entries.filterMap Entry.setting?

theorem settings_cons (entry : Entry α) (entries : List (Entry α)) :
    settings (entry :: entries) = entry.setting?.toList ++ settings entries := by
  cases means : entry.setting? <;> simp [settings, means]

theorem Lawful.missing?_eq_none (lawful : schema.Lawful) (seen : List String) :
    schema.missing? seen = none := by
  rw [missing?, List.find?_eq_none]
  intro field listed
  simp [lawful.optional field listed]

theorem applied_append (settings others : List (Setting α)) (record : α) :
    applied (settings ++ others) record = applied others (applied settings record) :=
  List.foldl_append

/-- Fields that have not been seen are still unseen behind another one. -/
private theorem unseen_of_cons {entry : Entry α} {entries : List (Entry α)} {seen : List String}
    (once : ((settings (entry :: entries)).map Setting.key ++ seen).Nodup) :
    (∀ setting ∈ entry.setting?, setting.field.key ∉ seen) ∧
      ((settings entries).map Setting.key ++
        (entry.setting?.toList.map Setting.key ++ seen)).Nodup := by
  rw [settings_cons, List.map_append, List.append_assoc] at once
  constructor
  · intro setting means before
    refine (List.nodup_append.mp once).2.2 setting.field.key ?_ setting.field.key ?_ rfl
    · exact List.mem_map_of_mem (Option.mem_toList.mpr means)
    · exact List.mem_append_right _ before
  · have swapped : (entry.setting?.toList.map Setting.key ++
        (settings entries).map Setting.key).Perm ((settings entries).map Setting.key ++
          entry.setting?.toList.map Setting.key) := List.perm_append_comm
    rw [← List.append_assoc] at once ⊢
    exact (swapped.append_right seen).nodup_iff.mp once

/-- The entries from one on are read in turn, if no field among them has been seen. -/
theorem readMembers_entries (lawful : schema.Lawful) {entry : Entry α} {entries : List (Entry α)}
    (fits : ∀ other ∈ entry :: entries, schema.Fits other) {seen : List String}
    (once : ((settings (entry :: entries)).map Setting.key ++ seen).Nodup) {fuel : Nat}
    (enough : entries.length < fuel) (record : α) (rest : List Char) :
    schema.readMembers fuel seen record (entry.member.body ++
        (continued (entries.map (·.member.text)) ++ '}' :: rest)) =
      .ok (applied (settings (entry :: entries)) record, rest) := by
  -- Each entry moves its field from those that are still to come to those that have been seen.
  induction entries generalizing entry seen fuel record with
  | nil =>
      obtain ⟨fuel, rfl⟩ : ∃ less, fuel = less + 1 := ⟨fuel - 1, by omega⟩
      obtain ⟨fresh, -⟩ := unseen_of_cons once
      rw [readMembers_entry lawful.distinct (fits entry List.mem_cons_self) fresh fuel record
        (endsNumber_continued _ (endsNumber_brace rest)), settings_cons, applied_append]
      exact readMemberEnd_brace fuel _ (lawful.missing?_eq_none _) rest
  | cons next entries ih =>
      obtain ⟨fuel, rfl⟩ : ∃ less, fuel = less + 1 := ⟨fuel - 1, by omega⟩
      obtain ⟨first, others⟩ := List.forall_mem_cons.mp fits
      obtain ⟨fresh, onceBehind⟩ := unseen_of_cons once
      rw [readMembers_entry lawful.distinct first fresh fuel record
        (endsNumber_continued _ (endsNumber_brace rest)), settings_cons, applied_append,
        List.map_cons, continued_cons, List.cons_append, List.append_assoc,
        schema.readMemberEnd_member (others next List.mem_cons_self).spaced]
      exact ih others onceBehind (by simpa using enough) _

theorem length_le_length_continued (texts : List (List Char)) :
    texts.length ≤ (continued texts).length := by
  induction texts with
  | nil => exact Nat.le_refl _
  | cons text texts ih =>
      simp only [continued_cons, List.length_cons, List.length_append]
      omega

/-- An object whose members fit is read as what they override, in whatever order they come. -/
theorem Lawful.kind_reads (lawful : schema.Lawful) {gap : List Char} (spaces : IsGap gap)
    {entries : List (Entry α)} (fits : ∀ entry ∈ entries, schema.Fits entry)
    (once : ((settings entries).map Setting.key).Nodup) :
    schema.kind.Reads (objectText gap (entries.map Entry.member))
      (schema.overridden (settings entries)) := by
  intro front rest frontSpaces _
  change schema.read (front ++ _) = _
  rw [objectText_append, List.map_map, read, dropSpaces_append frontSpaces, dropSpaces_cons rfl]
  cases entries with
  | nil =>
      simp only [List.map_nil, separated, dropSpaces_append spaces]
      rw [dropSpaces_cons rfl]
      simp only [endObject, lawful.missing?_eq_none]
      rfl
  | cons entry entries =>
      have unseen : ((settings (entry :: entries)).map Setting.key ++ []).Nodup := by
        rwa [List.append_nil]
      have enough : entries.length < (entry.member.body ++
          (continued (entries.map (·.member.text)) ++ '}' :: rest)).length := by
        have bound := length_le_length_continued (entries.map (·.member.text))
        simp only [List.length_map, List.length_append, List.length_cons] at bound ⊢
        omega
      have members := readMembers_entries lawful fits unseen enough schema.initial rest
      simp only [List.map_cons, Function.comp_def, separated, List.append_assoc,
        entry.member.text_append, dropSpaces_append (fits entry List.mem_cons_self).spaced.front]
      exact members

/-- An object whose only member belongs to no field lacks the first field that is required. -/
theorem readDocument_foreign {member : Member}
    (distinct : (schema.fields.map Field.key).Nodup) (spaced : member.Spaced)
    (foreign : schema.Foreign member) {field : Field α}
    (missing : schema.missing? [] = some field) :
    schema.readDocument (String.ofList (objectText [] [member])) =
      .error (.missingField field.key) := by
  have fits : schema.Fits ⟨member, none⟩ := ⟨spaced, fun _ => foreign, fun _ means => nomatch means⟩
  have braces : EndsNumber ['}'] := endsNumber_brace []
  have read : schema.read (objectText [] [member]) = .error (.missingField field.key) := by
    have text : objectText [] [member] = '{' :: (member.front ++ (member.body ++ ['}'])) := by
      simp [objectText, separated, continued_nil, Member.text]
    rw [text, Schema.read, dropSpaces_cons rfl]
    simp only [dropSpaces_append spaced.front]
    have fresh : ∀ setting ∈ (none : Option (Setting α)), setting.field.key ∉ ([] : List String) :=
      by simp
    have members (fuel : Nat) := readMembers_entry distinct fits fresh fuel schema.initial braces
    simp only [member.body_append] at members ⊢
    rw [dropSpaces_cons rfl]
    refine (members _).trans ?_
    rw [readMemberEnd, dropSpaces_cons rfl]
    simp only [Option.toList_none, List.map_nil, List.nil_append, endObject, missing]
  rw [Schema.readDocument, Json.readDocument, String.toList_ofList, read]
  rfl

end Schema

end FileSearch.Json
