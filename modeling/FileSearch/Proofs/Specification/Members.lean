import FileSearch.Proofs.Json.Exact
import FileSearch.Proofs.Specification.Levels

/-!
# Documents of other programs

A document may leave fields out, may have them in any order, and may have members that only later
programs know. It is read as the specification that a new document starts from, overridden by the
members that are known, unless one of them is there twice.
-/

set_option autoImplicit false

namespace FileSearch

open Json

/-! ## Choices -/

namespace Choice

variable {β : Type} [Choice β] [BEq β]

theorem kind_reads {position : Nat} (small : position ≤ 65535) :
    (Choice.kind β).Reads (toString position).toList (ofOrdinal position) := by
  intro gap rest spaces ends
  have number := readInteger_toString 0 65535 position .unsigned16 spaces ends (by omega)
    (by omega) (by unfold maxInteger; omega)
  change (readOrdinal (gap ++ ((toString position).toList ++ rest))).map _ = _
  have written : toString (position : Int) = toString position := rfl
  rw [written] at number
  rw [readOrdinal, number]
  rfl

theorem kind_exact : (Choice.kind β).Exact := by
  apply Kind.exact_of_skip
  intro text value rest read fuel
  obtain ⟨_, ordinal, same⟩ := exists_of_map_eq_ok read
  cases same
  obtain ⟨_, integer, same⟩ := exists_of_map_eq_ok ordinal
  cases same
  exact skipValueWith_of_readInteger integer fuel

end Choice

namespace Specification

theorem Level.exact {α : Type} {schema : Schema α} (level : Level schema) : schema.Exact :=
  level.forall_fields (P := fun kind => kind.Exact) Kind.flag_exact Kind.text_exact
    (fun _ => Choice.kind_exact) fun level fields => Schema.Exact.kind fields level.faithful.distinct

/-! ## Spellings -/

/-- The spellings of values at all levels. An object of a level has each field at most once. It may
leave fields out, and may have well-formed members that belong to no field. -/
inductive Spelling : {β : Type} → Kind β → List Char → β → Prop where
  | flag {value : Bool} : Spelling Kind.flag (toString value).toList value
  | text {bytes : Nat} {body chars : List Char} : Spells body chars →
      Spelling (Kind.text bytes) (quoted body) (String.ofList chars)
  | choice {β : Type} [Choice β] [BEq β] {position : Nat} {option : β} :
      (Choice.options (β := β))[position]? = some option → position ≤ 65535 →
      Spelling (Choice.kind β) (toString position).toList option
  | unknown {β : Type} [Choice β] [BEq β] {position : Nat} :
      (Choice.options (β := β)).length ≤ position → position ≤ 65535 →
      Spelling (Choice.kind β) (toString position).toList Choice.usual
  | record {α : Type} {schema : Schema α} {gap : List Char} {entries : List (Entry α)} :
      Level schema → IsGap gap → (∀ entry ∈ entries, entry.member.Spaced) →
      (∀ entry ∈ entries, entry.setting? = none → schema.Foreign entry.member) →
      (∀ entry ∈ entries, ∀ setting ∈ entry.setting?,
        setting.field ∈ schema.fields ∧ entry.member.Named setting.key) →
      (∀ entry ∈ entries, ∀ setting ∈ entry.setting?,
        Spelling setting.field.kind entry.member.slot.value setting.value) →
      ((Schema.settings entries).map Setting.key).Nodup →
      Spelling schema.kind (objectText gap (entries.map Entry.member))
        (schema.overridden (Schema.settings entries))

theorem Spelling.reads {β : Type} {kind : Kind β} {text : List Char} {value : β}
    (spelling : Spelling kind text value) : kind.Reads text value := by
  induction spelling with
  | flag => exact Kind.flag_reads _
  | text spells => exact Kind.text_reads _ spells
  | @choice β _ _ _ _ listed small =>
      have reads := Choice.kind_reads (β := β) small
      rwa [Choice.ofOrdinal, listed, Option.getD_some] at reads
  | @unknown β _ _ _ beyond small =>
      have reads := Choice.kind_reads (β := β) small
      rwa [Choice.ofOrdinal, List.getElem?_eq_none beyond, Option.getD_none] at reads
  | record level spaces spaced foreign own _ once ih =>
      apply level.lawful.kind_reads spaces _ once
      intro entry here
      refine ⟨spaced entry here, foreign entry here, ?_⟩
      intro setting means
      obtain ⟨listed, named⟩ := own entry here setting means
      exact ⟨listed, named, ih entry here setting means⟩

theorem Spelling.isValue {β : Type} {kind : Kind β} {text : List Char} {value : β}
    (spelling : Spelling kind text value) : IsValue text := by
  induction spelling with
  | flag => exact .boolean
  | text spells => exact .text spells.isTextBody
  | choice _ _ => exact .magnitude (Json.isMagnitude_toString _)
  | unknown _ _ => exact .magnitude (Json.isMagnitude_toString _)
  | @record _ schema _ entries _ spaces spaced foreign own _ _ ih =>
      have wellFormed : ∀ member ∈ entries.map Entry.member, member.WellFormed := by
        intro member here
        obtain ⟨entry, listed, rfl⟩ := List.mem_map.mp here
        cases means : entry.setting? with
        | none =>
            obtain ⟨⟨_, named, -⟩, isValue⟩ := foreign entry listed means
            exact ⟨spaced entry listed, named.isTextBody, isValue⟩
        | some setting =>
            obtain ⟨-, named⟩ := own entry listed setting means
            exact ⟨spaced entry listed, named.isTextBody, ih entry listed setting means⟩
      exact .object spaces (fun member here => (wellFormed member here).spaced)
        (fun member here => (wellFormed member here).key)
        fun member here => (wellFormed member here).value

/-! ## Repeated fields -/

/-- Well-formed objects that have a field twice, in themselves or in the object of a group. -/
inductive Repeats : {β : Type} → Kind β → List Char → Prop where
  | here {α : Type} {schema : Schema α} {gap : List Char} {before behind : List Member}
      {first second : Member} {field : Json.Field α} : Level schema → IsGap gap →
      (∀ member ∈ before ++ second :: behind, member.WellFormed) → field ∈ schema.fields →
      first ∈ before → first.Named field.key → second.Named field.key →
      Repeats schema.kind (objectText gap (before ++ second :: behind))
  | inside {α : Type} {schema : Schema α} {gap : List Char} {members : List Member}
      {member : Member} {field : Json.Field α} : Level schema → IsGap gap →
      (∀ member ∈ members, member.WellFormed) → field ∈ schema.fields → member ∈ members →
      member.Named field.key → Repeats field.kind member.slot.value →
      Repeats schema.kind (objectText gap members)

/-- No value is read from an object that has a field twice. -/
theorem Repeats.read_ne_ok {β : Type} {kind : Kind β} {text : List Char}
    (repeats : Repeats kind text) {gap rest : List Char} (spaces : IsGap gap)
    (ends : EndsNumber rest) (result : β × List Char) :
    kind.read (gap ++ (text ++ rest)) ≠ .ok result := by
  -- A read of the outer object would have read the value of each known member, so also the object
  -- with the repeated field.
  induction repeats generalizing gap rest with
  | here level innerSpaces wellFormed listed earlier named namedAgain =>
      intro read
      obtain ⟨-, apart, -⟩ := Schema.of_read_object level.faithful.distinct level.exact innerSpaces
        wellFormed spaces read
      rw [List.pairwise_append] at apart
      exact apart.2.2 _ earlier _ List.mem_cons_self _ listed named namedAgain
  | inside level innerSpaces wellFormed listed here named _ ih =>
      intro read
      obtain ⟨-, -, values⟩ := Schema.of_read_object level.faithful.distinct level.exact innerSpaces
        wellFormed spaces read
      obtain ⟨rest, value, behind, ends, valueRead⟩ := values _ here _ listed named
      have spaced := (wellFormed _ here).spaced.slot
      rw [Slot.text_append] at valueRead
      exact ih spaced.front (ends.gap_append spaced.back) _ valueRead

/-! ## Documents -/

/-- A document whose members are spelled in any way, in any order and with others among them, is
read as the specification that the settings among them make of a new one: each setting takes effect
and nothing else changes, at every level. A document that has a field twice is refused. -/
theorem ofDocument_spelled :
    (∀ {text front back : List Char} {specification : Specification},
      Spelling schema.kind text specification → IsGap front → IsGap back →
      IsValue text ∧ ofDocument (String.ofList (front ++ (text ++ back))) = .ok specification) ∧
    (∀ {α : Type} {level : Schema α} {settings : List (Setting α)}, Level level →
      (∀ setting ∈ settings, setting.field ∈ level.fields) → (settings.map Setting.key).Nodup →
      level.Overrides settings (level.overridden settings)) ∧
    ∀ {text front back : List Char}, Repeats schema.kind text → IsGap front → IsGap back →
      ∃ error, ofDocument (String.ofList (front ++ (text ++ back))) = .error error := by
  refine ⟨?_, ?_, ?_⟩
  · intro text front back specification spelling frontSpaces backSpaces
    have read := spelling.reads front back frontSpaces (Schema.endsNumber_of_isGap backSpaces)
    exact ⟨spelling.isValue, Schema.readDocument_of_read read backSpaces⟩
  · intro α level settings isLevel listed once
    exact isLevel.lawful.overrides_overridden listed once
  · intro text front back repeats frontSpaces backSpaces
    have refused := repeats.read_ne_ok frontSpaces (Schema.endsNumber_of_isGap backSpaces)
    exact Schema.readDocument_of_read_ne_ok refused

/-- A member that only later programs know, and a name. -/
theorem ofDocument_spelled_later :
    ∃ specification : Specification,
      ofDocument "\x7b\"later\":[], \"specName\": \"a\"\x7d" = .ok specification ∧
      specification.name = "a" ∧ specification.startLocation = "." := by
  have noGap : IsGap [] := by simp [IsGap]
  have space : IsGap [' '] := by simp [IsGap, isSpace]
  have noSlots : IsValue (listText [] []) := .list noGap (by simp) (by simp)
  have later : Spells "later".toList "later".toList := .of_plain (by simp)
  have name : Spells "specName".toList "specName".toList := .of_plain (by simp)
  have value : Spells ['a'] ['a'] := .of_plain (by simp)
  have both {P : Entry Specification → Prop} {first second : Entry Specification}
      (ofFirst : P first) (ofSecond : P second) : ∀ entry ∈ [first, second], P entry := by
    simp [ofFirst, ofSecond]
  let setting : Setting Specification := ⟨.text "specName" Limit.name (·.name)
    fun value specification => { specification with name := value }, "a"⟩
  have spelling := @Spelling.record _ schema []
    [⟨⟨[], "later".toList, [], ⟨[], listText [] [], []⟩⟩, none⟩,
      ⟨⟨[' '], "specName".toList, [], ⟨[' '], quoted ['a'], []⟩⟩, some setting⟩]
    .root noGap
    (both ⟨noGap, noGap, noGap, noGap⟩ ⟨space, noGap, space, noGap⟩)
    (both (fun _ => ⟨⟨"later", later, by decide⟩, noSlots⟩)
      fun same => by cases same)
    (both (fun _ same => by cases same)
      fun _ same => by cases same; exact ⟨List.mem_cons_self, name⟩)
    (both (fun _ same => by cases same) fun _ same => by cases same; exact .text value)
    (by decide)
  exact ⟨_, (ofDocument_spelled.1 spelling noGap noGap).2, rfl, rfl⟩

/-- A well-formed member whose key is no text, because half of a surrogate pair is missing in it. -/
theorem ofDocument_surrogate_key :
    ∃ member : Member,
      "\x7b\"\\ud800\":null\x7d" = String.ofList (objectText [] [member]) ∧ member.WellFormed ∧
      (∀ field ∈ schema.fields, ¬ member.Named field.key) ∧
      ofDocument "\x7b\"\\ud800\":null\x7d" = .error .unfinishedSurrogatePair := by
  have noGap : IsGap [] := by simp [IsGap]
  have isKey : IsTextBody ['\\', 'u', 'd', '8', '0', '0'] :=
    .unit (show hexQuad? 'd' '8' '0' '0' = some 0xD800 by decide) .nil
  have written : "\x7b\"\\ud800\":null\x7d" = String.ofList (objectText []
      [⟨[], ['\\', 'u', 'd', '8', '0', '0'], [], ⟨[], "null".toList, []⟩⟩]) := by decide
  refine ⟨_, written, ⟨⟨noGap, noGap, noGap, noGap⟩, isKey, .null⟩, ?_, ?_⟩
  · intro field _ named
    have read := readTextTail_append named []
    cases read
  · change Json.readDocument schema.read _ = _
    rw [written, Json.readDocument, String.toList_ofList]
    rfl

end Specification

end FileSearch
