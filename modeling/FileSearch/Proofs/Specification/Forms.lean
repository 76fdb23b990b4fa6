import FileSearch.Proofs.Json.Forms
import FileSearch.Proofs.Specification.Members

/-!
# Specifications by position

A specification can be given by a list of its first fields, and each of its groups by an object or
by such a list. All forms with the same fields are read as the same specification, which has these
fields and in all others what a document starts with. A list that is longer than its fields is
refused.
-/

set_option autoImplicit false

namespace FileSearch

open Json (Schema Field Kind Form Slot Member Value IsGap IsValue EndsNumber Spells objectText
  listText)

theorem Choice.kind_readsSpelled {β : Type} [Choice β] [BEq β] [LawfulBEq β] [LawfulChoice β] :
    (Choice.kind β).ReadsSpelled := by
  intro option text spelled
  cases spelled with
  | integer =>
      have position : ordinal option < (options (β := β)).length :=
        List.idxOf_lt_length_of_mem (LawfulChoice.complete option)
      have few := LawfulChoice.few (β := β)
      have reads := kind_reads (β := β) (show ordinal option ≤ 65535 by omega)
      rwa [ofOrdinal_ordinal] at reads

namespace Specification

theorem Level.readsSpelled {α : Type} {schema : Schema α} (level : Level schema) :
    ∀ field ∈ schema.fields, field.kind.ReadsSpelled := by
  apply level.forall_fields (P := fun kind => kind.ReadsSpelled)
  · exact Json.Kind.flag_readsSpelled
  · exact Json.Kind.text_readsSpelled
  · exact fun _ => Choice.kind_readsSpelled
  · exact fun level fields => level.lawful.kind_readsSpelled fields

/-! ## Groups in forms -/

/-- The specification with the first fields of each of its groups, and the others of the groups as a
document starts with them. -/
def firstOfGroups (specification : Specification) (counts : String → Nat) : Specification :=
  { specification with
    text := TextOptions.schema.first (counts "textOptions") specification.text
    names := NameOptions.schema.first (counts "namePathOptions") specification.names
    times := TimeOptions.schema.first (counts "timeOptions") specification.times
    sizes := SizeOptions.schema.first (counts "sizeOptions") specification.sizes
    types := TypeOptions.schema.first (counts "typeOptions") specification.types
    ownership := OwnershipOptions.schema.first (counts "permissionOptions") specification.ownership
    traversal := TraversalOptions.schema.first (counts "traversalOptions") specification.traversal
    actions := ActionOptions.schema.first (counts "actionOptions") specification.actions }

/-- The field of a specification in a form of its own. -/
def fieldInForm (specification : Specification) (groups : String → Form)
    (field : Json.Field Specification) : Value :=
  (groups field.key).apply (field.kind.write (field.get specification))

/-- A specification as an object of its fields, with its groups in forms that their keys choose. -/
def inForms (specification : Specification) (groups : String → Form) : Value :=
  .object (schema.fields.map fun field => (field.key, specification.fieldInForm groups field))

theorem Level.reads_form {α : Type} {group : Schema α} (level : Level group) (form : Form)
    (record : α) (text : List Char)
    (spelled : (form.apply (group.kind.write record)).Spelled text) :
    group.kind.Reads text (group.first form.count record) := by
  have each : ∀ field ∈ group.fields, ∀ text,
      (field.kind.write (field.get record)).Spelled text →
        field.kind.Reads text (field.get record) :=
    fun field here => level.readsSpelled field here (field.get record)
  exact level.lawful.reads_form each spelled

/-- Flags and texts have only one form. -/
theorem reads_flag_form (form : Form) (value : Bool) (text : List Char)
    (spelled : (form.apply (Kind.flag.write value)).Spelled text) : Kind.flag.Reads text value := by
  apply Json.Kind.flag_readsSpelled
  cases form <;> exact spelled

theorem reads_text_form (bytes : Nat) (form : Form) (value : String) (text : List Char)
    (spelled : (form.apply ((Kind.text bytes).write value)).Spelled text) :
    (Kind.text bytes).Reads text value := by
  apply Json.Kind.text_readsSpelled
  cases form <;> exact spelled

/-- Each field is read in every form as the specification with the first fields of the groups has
it. -/
theorem reads_fieldInForm (specification : Specification) (groups : String → Form) :
    ∀ field ∈ schema.fields, ∀ text, (specification.fieldInForm groups field).Spelled text →
      field.kind.Reads text
        (field.get (specification.firstOfGroups fun key => (groups key).count)) := by
  simp only [schema, List.forall_mem_cons, List.not_mem_nil, false_imp_iff, implies_true, and_true,
    fieldInForm, firstOfGroups, Field.flag, Field.text, Field.group, Field.optional]
  repeat' first
    | apply And.intro
    | exact reads_flag_form _ _
    | exact reads_text_form _ _ _
    | exact Level.reads_form (by constructor) _ _

/-! ## Lists that are too long -/

/-- Well-formed values with a list that has more elements than the fields of its record. -/
inductive Overlong : {β : Type} → Kind β → List Char → Prop where
  | here {α : Type} {schema : Schema α} {gap : List Char} {slots : List Slot} : Level schema →
      IsGap gap → (∀ slot ∈ slots, slot.Spaced) → (∀ slot ∈ slots, IsValue slot.value) →
      schema.fields.length < slots.length → Overlong schema.kind (listText gap slots)
  | element {α : Type} {schema : Schema α} {gap : List Char} {slots : List Slot} {slot : Slot}
      {field : Json.Field α} : Level schema → IsGap gap → (∀ slot ∈ slots, slot.Spaced) →
      (∀ slot ∈ slots, IsValue slot.value) → (slot, field) ∈ slots.zip schema.fields →
      Overlong field.kind slot.value → Overlong schema.kind (listText gap slots)
  | member {α : Type} {schema : Schema α} {gap : List Char} {members : List Member}
      {member : Member} {field : Json.Field α} : Level schema → IsGap gap →
      (∀ member ∈ members, member.WellFormed) → member ∈ members → field ∈ schema.fields →
      member.Named field.key → Overlong field.kind member.slot.value →
      Overlong schema.kind (objectText gap members)

theorem Overlong.read_ne_ok {β : Type} {kind : Kind β} {text : List Char}
    (overlong : Overlong kind text) {gap rest : List Char} (spaces : IsGap gap)
    (ends : EndsNumber rest) (result : β × List Char) :
    kind.read (gap ++ (text ++ rest)) ≠ .ok result := by
  induction overlong generalizing gap rest with
  | here level innerSpaces spaced values tooMany =>
      intro read
      obtain ⟨-, few, -⟩ := Schema.of_read_list level.exact innerSpaces spaced values spaces read
      exact absurd tooMany (Nat.not_lt.mpr few)
  | element level innerSpaces spaced values here _ ih =>
      intro read
      obtain ⟨-, -, each⟩ := Schema.of_read_list level.exact innerSpaces spaced values spaces read
      obtain ⟨rest, value, ends, valueRead⟩ := each _ here
      have noGap : IsGap [] := by simp [IsGap]
      exact ih noGap ends _ valueRead
  | member level innerSpaces wellFormed here listed named _ ih =>
      intro read
      obtain ⟨-, -, values⟩ := Schema.of_read_object level.faithful.distinct level.exact innerSpaces
        wellFormed spaces read
      obtain ⟨rest, value, behind, ends, valueRead⟩ := values _ here _ listed named
      have spaced := (wellFormed _ here).spaced.slot
      rw [Slot.text_append] at valueRead
      exact ih spaced.front (ends.gap_append spaced.back) _ valueRead

/-! ## Documents -/

/-- A list of the first fields of a specification is read as the object with the same members is,
with each group in either form: these fields are set, and all others are as a document starts with
them, at every level. A document with a list that is too long is refused. -/
theorem ofDocument_inForms :
    (∀ (specification : Specification) (form : Form) (groups : String → Form)
      (text front back : List Char), (form.apply (specification.inForms groups)).Spelled text →
      IsGap front → IsGap back →
      ofDocument (String.ofList (front ++ (text ++ back))) =
        .ok (schema.first form.count
          (specification.firstOfGroups fun key => (groups key).count))) ∧
    (∀ {α : Type} {level : Schema α}, Level level → ∀ (count : Nat) (record : α),
      (∀ field ∈ level.fields.take count,
        field.get (level.first count record) = field.get record) ∧
      ∀ field ∈ level.fields.drop count,
        field.get (level.first count record) = field.get level.initial) ∧
    ∀ {text front back : List Char}, Overlong schema.kind text → IsGap front → IsGap back →
      ∃ error, ofDocument (String.ofList (front ++ (text ++ back))) = .error error := by
  refine ⟨?_, ?_, ?_⟩
  · intro specification form groups text front back spelled frontSpaces backSpaces
    have reads := Level.root.lawful.reads_form (specification.reads_fieldInForm groups) spelled
    have read := reads front back frontSpaces (Schema.endsNumber_of_isGap backSpaces)
    exact Schema.readDocument_of_read read backSpaces
  · intro α level isLevel count record
    exact ⟨fun field here => isLevel.lawful.get_first_of_take here record,
      fun field here => isLevel.lawful.get_first_of_drop here record⟩
  · intro text front back overlong frontSpaces backSpaces
    have refused := overlong.read_ne_ok frontSpaces (Schema.endsNumber_of_isGap backSpaces)
    exact Schema.readDocument_of_read_ne_ok refused

/-- Eighteen elements, the last one a list of its own, and a list with more elements than fields. -/
theorem ofDocument_inForms_regularExpression :
    ofDocument ("[\"a\",\".\",\"\",\"\",\"\",true,false,false,false,true,false,false,false," ++
        "false,false,false,true,[2,true]]") =
      .ok { name := "a", text := { mode := .regularExpression, matchCase := true } } ∧
    ∃ error, ofDocument "\x7b\"textOptions\":[0,true,true,true,true,true,true]\x7d" =
      .error error := by
  have noGap : IsGap [] := by simp [IsGap]
  constructor
  · let options : TextOptions :=
      { mode := .regularExpression, matchCase := true, treatBinaryAsText := true }
    let specification : Specification := { name := "a", text := options }
    let value := (Form.listed 18).apply (specification.inForms fun _ => .listed 2)
    have written : "[\"a\",\".\",\"\",\"\",\"\",true,false,false,false,true,false,false,false," ++
        "false,false,false,true,[2,true]]" =
          String.ofList ([] ++ (value.write .compact 0 ++ [])) := by decide
    have first : schema.first 18 (specification.firstOfGroups fun _ => 2) =
        { name := "a", text := { mode := .regularExpression, matchCase := true } } := by decide
    rw [written, ← first]
    exact ofDocument_inForms.1 specification (.listed 18) (fun _ => .listed 2) _ [] []
      (Value.spelled_write .compact 0 value) noGap noGap
  · let slots : List Slot := ⟨[], ['0'], []⟩ :: List.replicate 6 ⟨[], "true".toList, []⟩
    let member : Member := ⟨[], "textOptions".toList, [], ⟨[], listText [] slots, []⟩⟩
    have spaced : ∀ slot ∈ slots, slot.Spaced := by
      rw [List.forall_mem_cons, List.forall_mem_replicate]
      exact ⟨⟨noGap, noGap⟩, .inr ⟨noGap, noGap⟩⟩
    have values : ∀ slot ∈ slots, IsValue slot.value := by
      rw [List.forall_mem_cons, List.forall_mem_replicate]
      exact ⟨.magnitude (Json.isMagnitude_toString 0), .inr (@IsValue.boolean true)⟩
    have key : Spells "textOptions".toList "textOptions".toList := .of_plain (by simp)
    have wellFormed : member.WellFormed :=
      ⟨⟨noGap, noGap, noGap, noGap⟩, key.isTextBody, .list noGap spaced values⟩
    have written : "\x7b\"textOptions\":[0,true,true,true,true,true,true]\x7d" =
        String.ofList ([] ++ (objectText [] [member] ++ [])) := by decide
    have tooLong : Overlong TextOptions.schema.kind (listText [] slots) :=
      .here .text noGap spaced values (by decide)
    let field : Json.Field Specification := .group "textOptions" TextOptions.schema (·.text)
      fun value specification => { specification with text := value }
    have listed : field ∈ schema.fields := by simp [schema, field]
    have overlong : Overlong schema.kind (objectText [] [member]) :=
      .member .root noGap (List.forall_mem_singleton.mpr wellFormed) List.mem_cons_self listed
        (show member.Named field.key from key) tooLong
    rw [written]
    exact ofDocument_inForms.2.2 overlong noGap noGap

end Specification

end FileSearch
