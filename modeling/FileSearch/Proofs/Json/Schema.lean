import FileSearch.Json.Schema
import FileSearch.Proofs.Json.Number
import FileSearch.Proofs.Json.Text

/-!
# Records read back

A record is read from its own object as it was written, in both layouts, if this holds of the kinds
of its fields, no key is used twice, and setting every field restores the record.
-/

set_option autoImplicit false

namespace FileSearch.Json

/-! ## Layouts -/

theorem isGap_line (layout : Layout) (level : Nat) : IsGap (layout.line level) := by
  intro c member
  cases layout with
  | compact => cases member
  | pretty =>
      rcases List.mem_cons.mp member with rfl | space
      · rfl
      · rw [List.eq_of_mem_replicate space]
        rfl

theorem exists_colon_eq_cons (layout : Layout) : ∃ gap, layout.colon = ':' :: gap ∧ IsGap gap := by
  cases layout with
  | compact => exact ⟨[], rfl, by simp [IsGap]⟩
  | pretty => exact ⟨[' '], rfl, by simp [IsGap, isSpace]⟩

theorem endsNumber_line_append (layout : Layout) (level : Nat) {rest : List Char}
    (ends : EndsNumber rest) : EndsNumber (layout.line level ++ rest) :=
  ends.gap_append (isGap_line layout level)

/-! ## Kinds -/

/-- A value is read back as what it was written for, in both layouts and at every level. -/
def ReadsBack {β : Type} (read : Reader β) (written : Value) (value : β) : Prop :=
  ∀ (layout : Layout) (level : Nat) (gap rest : List Char), IsGap gap → EndsNumber rest →
    read (gap ++ (written.write layout level ++ rest)) = .ok (value, rest)

/-- Every value of a kind is read as it was written, in both layouts and at every level. -/
def Kind.Faithful {β : Type} (kind : Kind β) : Prop :=
  ∀ (value : β) (layout : Layout) (level : Nat) (gap rest : List Char),
    IsGap gap → EndsNumber rest →
    kind.read (gap ++ ((kind.write value).write layout level ++ rest)) = .ok (value, rest)

theorem Kind.flag_faithful : Kind.flag.Faithful := by
  intro value layout level gap rest spaces _
  cases value with
  | false =>
      change readBoolean (gap ++ 'f' :: 'a' :: 'l' :: 's' :: 'e' :: rest) = _
      rw [readBoolean, dropSpaces_append spaces, dropSpaces_cons rfl]
      rfl
  | true =>
      change readBoolean (gap ++ 't' :: 'r' :: 'u' :: 'e' :: rest) = _
      rw [readBoolean, dropSpaces_append spaces, dropSpaces_cons rfl]
      rfl

theorem readsBack_text (expected : Expected) (value : String) :
    ReadsBack (readTextAs expected) (.text value) value := by
  intro layout level gap rest spaces _
  obtain ⟨tail, written, read⟩ := writeText_eq_cons value rest
  change readTextAs expected (gap ++ (writeText value ++ rest)) = _
  rw [readTextAs, dropSpaces_append spaces, written, dropSpaces_cons rfl]
  simp [read, Except.map]

theorem Kind.text_faithful (bytes : Nat) : (Kind.text bytes).Faithful :=
  readsBack_text .text

/-! ## Members -/

namespace Schema

variable {α : Type}

/-- What a record becomes when some fields are set as they are in another. -/
def restored (schema : Schema α) (fields : List (Field α)) (record : α) : α :=
  fields.foldl (fun result field => field.set (field.get record) result) schema.initial

/-- What makes records of a schema come back as they were written. -/
structure Faithful (schema : Schema α) : Prop where
  distinct : (schema.fields.map Field.key).Nodup
  kinds : ∀ field ∈ schema.fields, field.kind.Faithful
  restores : ∀ record, schema.restored schema.fields record = record

/-- What makes one record come back as it was written. -/
structure ComesBack (schema : Schema α) (record : α) : Prop where
  distinct : (schema.fields.map Field.key).Nodup
  values : ∀ field ∈ schema.fields,
    ReadsBack field.kind.read (field.kind.write (field.get record)) (field.get record)
  restores : schema.restored schema.fields record = record

theorem Faithful.comesBack {schema : Schema α} (faithful : schema.Faithful) (record : α) :
    schema.ComesBack record where
  distinct := faithful.distinct
  values field listed := faithful.kinds field listed (field.get record)
  restores := faithful.restores record

/-- The member that a field is written as. -/
def member (record : α) (field : Field α) : String × Value :=
  (field.key, field.kind.write (field.get record))

theorem write_eq_object (schema : Schema α) (record : α) :
    schema.write record = .object (schema.fields.map (member record)) := rfl

/-- Distinct keys find each field again. -/
theorem field?_of_append {schema : Schema α} {front back : List (Field α)} {field : Field α}
    (distinct : (schema.fields.map Field.key).Nodup)
    (split : schema.fields = front ++ field :: back) : schema.field? field.key = some field := by
  rw [field?, List.find?_eq_some_iff_append]
  refine ⟨beq_self_eq_true _, front, back, split, ?_⟩
  intro earlier before
  rw [split, List.map_append, List.map_cons, List.nodup_append] at distinct
  have different := distinct.2.2 earlier.key (List.mem_map_of_mem before) field.key
    List.mem_cons_self
  simp [different]

theorem readMember_write {schema : Schema α} {field : Field α} {seen : List String}
    (record result : α) (layout : Layout) (level : Nat) {rest : List Char}
    (found : schema.field? field.key = some field)
    (readsBack : ReadsBack field.kind.read (field.kind.write (field.get record)) (field.get record))
    (fresh : field.key ∉ seen) (ends : EndsNumber rest) :
    schema.readMember field.key seen result
        (layout.colon ++ ((member record field).2.write layout level ++ rest)) =
      .ok ((field.key :: seen, field.set (field.get record) result), rest) := by
  obtain ⟨gap, colon, spaces⟩ := exists_colon_eq_cons layout
  have value : field.kind.read (gap ++ ((member record field).2.write layout level ++ rest)) =
      .ok (field.get record, rest) := readsBack layout level gap rest spaces ends
  have unseen : seen.contains field.key = false := by simpa using fresh
  have behindColon : skipColon (':' :: (gap ++ ((member record field).2.write layout level ++ rest)))
      = .ok (gap ++ ((member record field).2.write layout level ++ rest)) := rfl
  rw [readMember, found, colon, List.cons_append]
  simp only [unseen, behindColon, value, bind, Except.bind, Bool.false_eq_true, if_false]
  rfl

/-- The rest of an object behind a member. -/
def readMemberEnd (schema : Schema α) (fuel : Nat) (seen : List String) (record : α) : Reader α :=
  fun text =>
    match dropSpaces text with
    | [] => .error .endInObject
    | '}' :: rest => schema.endObject seen record rest
    | ',' :: rest =>
      match dropSpaces rest with
      | [] => .error .endInValue
      | '}' :: _ => .error .trailingComma
      | rest => schema.readMembers fuel seen record rest
    | _ => .error .memberEndExpected

/-- A member that has been read leaves what stands behind it. -/
theorem readMembers_of_readTextTail {schema : Schema α} {fuel : Nat} {key : String}
    {seen nextSeen : List String} {record nextRecord : α}
    {text behindKey behindMember : List Char}
    (keyRead : readTextTail text = .ok (key.toList, behindKey))
    (read : schema.readMember key seen record behindKey =
      .ok ((nextSeen, nextRecord), behindMember)) :
    schema.readMembers (fuel + 1) seen record ('"' :: text) =
      schema.readMemberEnd fuel nextSeen nextRecord behindMember := by
  rw [readMembers]
  simp only [keyRead, bind, Except.bind, String.ofList_toList, read]
  rfl

theorem readMembers_of_readMember {schema : Schema α} {fuel : Nat} {key : String}
    {seen nextSeen : List String} {record nextRecord : α} {behindKey behindMember : List Char}
    (read : schema.readMember key seen record behindKey =
      .ok ((nextSeen, nextRecord), behindMember)) :
    schema.readMembers (fuel + 1) seen record (writeText key ++ behindKey) =
      schema.readMemberEnd fuel nextSeen nextRecord behindMember := by
  obtain ⟨tail, written, keyRead⟩ := writeText_eq_cons key behindKey
  rw [written, readMembers_of_readTextTail keyRead read]

theorem readMemberEnd_append {schema : Schema α} (fuel : Nat) (seen : List String) (record : α)
    {gap : List Char} (spaces : IsGap gap) (text : List Char) :
    schema.readMemberEnd fuel seen record (gap ++ text) =
      schema.readMemberEnd fuel seen record text := by
  rw [readMemberEnd, dropSpaces_append spaces, readMemberEnd]

theorem readMemberEnd_brace {schema : Schema α} (fuel : Nat) {seen : List String} (record : α)
    (complete : schema.missing? seen = none) (rest : List Char) :
    schema.readMemberEnd fuel seen record ('}' :: rest) = .ok (record, rest) := by
  rw [readMemberEnd, dropSpaces_cons rfl]
  simp only [endObject, complete]

theorem readMemberEnd_quote {schema : Schema α} (fuel : Nat) (seen : List String) (record : α)
    {gap : List Char} (spaces : IsGap gap) (text : List Char) :
    schema.readMemberEnd fuel seen record (',' :: (gap ++ '"' :: text)) =
      schema.readMembers fuel seen record ('"' :: text) := by
  rw [readMemberEnd, dropSpaces_cons rfl]
  simp only [dropSpaces_append spaces]
  rw [dropSpaces_cons rfl]
  rfl

theorem readMemberEnd_comma {schema : Schema α} (fuel : Nat) {seen : List String} (record : α)
    {gap : List Char} (spaces : IsGap gap) (key : String) (rest : List Char) :
    schema.readMemberEnd fuel seen record (',' :: (gap ++ (writeText key ++ rest))) =
      schema.readMembers fuel seen record (writeText key ++ rest) := by
  obtain ⟨tail, written, _⟩ := writeText_eq_cons key rest
  rw [written, readMemberEnd_quote fuel seen record spaces]

/-- Nothing is missing once all fields have been seen. -/
theorem missing?_eq_none_of_seen {schema : Schema α} {seen : List String}
    (all : ∀ field ∈ schema.fields, field.key ∈ seen) : schema.missing? seen = none := by
  rw [missing?, List.find?_eq_none]
  intro field listed
  simp [all field listed]

/-! ## Objects -/

/-- What is written behind a member: the other members, and the end of the object. -/
def tail (record : α) (layout : Layout) (level : Nat) (fields : List (Field α))
    (rest : List Char) : List Char :=
  writeMembers layout (level + 1) (fields.map (member record)) ++ (layout.line level ++ '}' :: rest)

theorem endsNumber_tail (record : α) (layout : Layout) (level : Nat) (fields : List (Field α))
    (rest : List Char) : EndsNumber (tail record layout level fields rest) := by
  cases fields with
  | nil => exact endsNumber_line_append layout level (endsNumber_brace rest)
  | cons field fields => exact endsNumber_comma _

/-- Reading one member as it was written leaves the other members, and a record with one field
more restored. -/
theorem readMembers_step {schema : Schema α} {record : α} (comesBack : schema.ComesBack record)
    (layout : Layout) (level : Nat) (rest : List Char) {front todo : List (Field α)}
    {field : Field α} (fuel : Nat) (split : schema.fields = front ++ field :: todo) :
    schema.readMembers (fuel + 1) (front.map Field.key).reverse (schema.restored front record)
        (writeText field.key ++ (layout.colon ++
          ((member record field).2.write layout (level + 1) ++
            tail record layout level todo rest))) =
      schema.readMemberEnd fuel ((front ++ [field]).map Field.key).reverse
        (schema.restored (front ++ [field]) record) (tail record layout level todo rest) := by
  have fresh : field.key ∉ (front.map Field.key).reverse := by
    have distinct := comesBack.distinct
    rw [split, List.map_append, List.map_cons, List.nodup_append] at distinct
    intro before
    exact distinct.2.2 field.key (List.mem_reverse.mp before) field.key List.mem_cons_self rfl
  have read := readMember_write record (schema.restored front record) layout (level + 1)
    (field?_of_append comesBack.distinct split) (comesBack.values field (by simp [split])) fresh
    (endsNumber_tail record layout level todo rest)
  rw [readMembers_of_readMember read]
  simp [restored]

/-- The members from one on are read as they were written, if those in front of it have been. -/
theorem readMembers_write {schema : Schema α} {record : α} (comesBack : schema.ComesBack record)
    (layout : Layout) (level : Nat) (rest : List Char) (front : List (Field α))
    {todo : List (Field α)} {field : Field α} (fuel : Nat)
    (split : schema.fields = front ++ field :: todo) (enough : todo.length < fuel) :
    schema.readMembers fuel (front.map Field.key).reverse (schema.restored front record)
        (writeText field.key ++ (layout.colon ++
          ((member record field).2.write layout (level + 1) ++
            tail record layout level todo rest))) = .ok (record, rest) := by
  induction todo generalizing front field fuel with
  | nil =>
      obtain ⟨fuel, rfl⟩ : ∃ more, fuel = more + 1 := ⟨fuel - 1, by simp at enough; omega⟩
      have all : schema.fields = front ++ [field] := split
      rw [readMembers_step comesBack layout level rest fuel split, ← all, comesBack.restores]
      rw [show tail record layout level [] rest = layout.line level ++ '}' :: rest from rfl,
        readMemberEnd_append fuel _ record (isGap_line layout level)]
      exact readMemberEnd_brace fuel record (missing?_eq_none_of_seen fun field listed => by
        simpa using ⟨field, listed, rfl⟩) rest
  | cons next todo ih =>
      obtain ⟨fuel, rfl⟩ : ∃ more, fuel = more + 1 := ⟨fuel - 1, by simp at enough; omega⟩
      have shape : tail record layout level (next :: todo) rest =
          ',' :: (layout.line (level + 1) ++ (writeText next.key ++ (layout.colon ++
            ((member record next).2.write layout (level + 1) ++
              tail record layout level todo rest)))) := by
        simp [tail, writeMembers, member]
      rw [readMembers_step comesBack layout level rest fuel split, shape,
        readMemberEnd_comma fuel _ (isGap_line layout (level + 1))]
      exact ih (front ++ [field]) fuel (by simp [split]) (by simpa using enough)

theorem length_lt_length_tail (record : α) (layout : Layout) (level : Nat)
    (fields : List (Field α)) (rest : List Char) :
    fields.length < (tail record layout level fields rest).length := by
  induction fields with
  | nil =>
      simp only [tail, List.length_append, List.length_cons, List.length_nil]
      omega
  | cons field fields ih =>
      simp only [tail, List.map_cons, writeMembers, List.length_append, List.length_cons] at ih ⊢
      omega

/-- A record is read from its own object as it was written. -/
theorem ComesBack.readsBack {schema : Schema α} {record : α} (comesBack : schema.ComesBack record) :
    ReadsBack schema.read (schema.write record) record := by
  intro layout level gap rest spaces _
  rw [read, dropSpaces_append spaces, write_eq_object]
  cases fields : schema.fields with
  | nil =>
      have initial : schema.initial = record := by
        have restores := comesBack.restores
        rwa [fields] at restores
      change schema.endObject [] schema.initial rest = _
      simp [endObject, missing?, fields, initial]
  | cons field todo =>
      have shape : (Value.object ((field :: todo).map (member record))).write layout level ++ rest =
          '{' :: (layout.line (level + 1) ++ (writeText field.key ++ (layout.colon ++
            ((member record field).2.write layout (level + 1) ++
              tail record layout level todo rest)))) := by
        simp [Value.write, tail, member]
      obtain ⟨behind, written, _⟩ := writeText_eq_cons field.key (layout.colon ++
        ((member record field).2.write layout (level + 1) ++ tail record layout level todo rest))
      have enough : todo.length < ('"' :: behind).length := by
        have bound := length_lt_length_tail record layout level todo rest
        rw [← written]
        simp only [List.length_append]
        omega
      have members := readMembers_write comesBack layout level rest [] _ fields enough
      rw [shape, dropSpaces_cons rfl]
      simp only [dropSpaces_append (isGap_line layout (level + 1)), written]
      rw [dropSpaces_cons rfl]
      rw [written] at members
      exact members

theorem Faithful.kind {schema : Schema α} (faithful : schema.Faithful) : schema.kind.Faithful :=
  fun record => (faithful.comesBack record).readsBack

theorem endsNumber_of_isGap {gap : List Char} (spaces : IsGap gap) : EndsNumber gap := by
  have ends : EndsNumber [] := by intro c head; cases head
  have behind := ends.gap_append spaces
  rwa [List.append_nil] at behind

theorem readDocument_of_read {β : Type} {read : Reader β} {text gap : List Char} {value : β}
    (taken : read text = .ok (value, gap)) (spaces : IsGap gap) :
    Json.readDocument read (String.ofList text) = .ok value := by
  have nothing : dropSpaces gap = [] := by
    have dropped := dropSpaces_append spaces []
    rwa [List.append_nil] at dropped
  rw [Json.readDocument, String.toList_ofList, taken]
  simp only [bind, Except.bind, nothing, List.isEmpty_nil, if_true]
  rfl

/-- The document of a record, with any spaces behind it, is the document of that record. -/
theorem ComesBack.readDocument_write {schema : Schema α} {record : α}
    (comesBack : schema.ComesBack record) (layout : Layout) {gap : List Char} (spaces : IsGap gap) :
    schema.readDocument (String.ofList ((schema.write record).write layout 0 ++ gap)) =
      .ok record := by
  have read : schema.read ((schema.write record).write layout 0 ++ gap) = .ok (record, gap) :=
    comesBack.readsBack layout 0 [] gap (by simp [IsGap]) (endsNumber_of_isGap spaces)
  exact readDocument_of_read read spaces

theorem Faithful.readDocument_write {schema : Schema α} (faithful : schema.Faithful) (record : α)
    (layout : Layout) {gap : List Char} (spaces : IsGap gap) :
    schema.readDocument (String.ofList ((schema.write record).write layout 0 ++ gap)) =
      .ok record :=
  (faithful.comesBack record).readDocument_write layout spaces

/-- Records that the first cut makes equal stay equal under the others. -/
theorem limit_eq_of_head {schema : Schema α} {field : Field α} {rest : List (Field α)}
    (fields : schema.fields = field :: rest) {left right : α}
    (same : field.set (field.kind.limit (field.get left)) left =
      field.set (field.kind.limit (field.get right)) right) :
    schema.limit left = schema.limit right := by
  rw [limit, limit, fields, List.foldl_cons, List.foldl_cons, same]

end Schema

end FileSearch.Json
