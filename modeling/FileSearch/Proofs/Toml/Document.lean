import FileSearch.Proofs.Lookup
import FileSearch.Proofs.Toml.Quoted
import FileSearch.Toml.Reader

/-!
# Tables that are written and read

Tables with a line for each of their fields. What is read from such lines are the tables, with their
fields in order.
-/

set_option autoImplicit false

namespace FileSearch.Toml

inductive Field where
  | text (chars : List Char)
  | flag (value : Bool)

namespace Field

def written : Field → List Char
  | text chars => writeString chars
  | flag true => ['t', 'r', 'u', 'e']
  | flag false => ['f', 'a', 'l', 's', 'e']

def value : Field → Value
  | text chars => .text chars
  | flag value => .boolean value

end Field

/-- Names that are written as they are. -/
structure IsBareKey (key : List Char) : Prop where
  ne_nil : key ≠ []
  bare : ∀ c ∈ key, isBare c = true

/-- A table with a name and fields with distinct names. -/
structure Table where
  name : List Char
  fields : List (List Char × Field)
  isKey : IsBareKey name
  areKeys : ∀ field ∈ fields, IsBareKey field.1
  distinct : (fields.map Prod.fst).Nodup

namespace Table

def fieldLine (field : List Char × Field) : List Char :=
  field.1 ++ ' ' :: '=' :: ' ' :: (field.2.written ++ ['\n'])

theorem fieldLine_append (key : List Char) (field : Field) (rest : List Char) :
    fieldLine (key, field) ++ rest =
      key ++ ' ' :: '=' :: ' ' :: (field.written ++ '\n' :: rest) := by
  simp [fieldLine]

def written (table : Table) : List Char :=
  '[' :: (table.name ++ ']' :: '\n' :: table.fields.flatMap fieldLine)

theorem written_append (table : Table) (rest : List Char) :
    table.written ++ rest =
      '[' :: (table.name ++ ']' :: '\n' :: (table.fields.flatMap fieldLine ++ rest)) := by
  simp [written]

def entries (table : Table) : Entries :=
  table.fields.map fun field => (field.1, field.2.value)

/-- The lines of a table, as they are read. -/
def lines (table : Table) : List Line :=
  .header [] table.name :: table.entries.map fun entry => .entry [] entry.1 entry.2

end Table

/-- Tables with an empty line between each two. -/
def writeTables : List Table → List Char
  | [] => []
  | [table] => table.written
  | table :: rest => table.written ++ '\n' :: writeTables rest

/-! ## Parts of lines -/

section

variable {key rest text : List Char}

theorem skipBlanks_eq_self (solid : ∀ c back, text = c :: back → c ≠ ' ' ∧ c ≠ '\t') :
    skipBlanks text = text := by
  cases text with
  | nil => rfl
  | cons c back =>
      obtain ⟨noSpace, noTab⟩ := solid c back rfl
      exact List.dropWhile_cons_of_neg (by simp [noSpace, noTab])

theorem IsBareKey.exists_eq_cons (isKey : IsBareKey key) :
    ∃ c tail, key = c :: tail ∧ isBare c = true := by
  cases key with
  | nil => exact absurd rfl isKey.ne_nil
  | cons c tail => exact ⟨c, tail, rfl, isKey.bare c List.mem_cons_self⟩

theorem ne_of_isBare {c d : Char} (bare : isBare c = true) (different : isBare d = false) :
    c ≠ d := by
  rintro rfl
  rw [bare] at different
  cases different

theorem IsBareKey.skipBlanks_append (isKey : IsBareKey key) (rest : List Char) :
    skipBlanks (key ++ rest) = key ++ rest := by
  obtain ⟨c, tail, rfl, bare⟩ := isKey.exists_eq_cons
  apply skipBlanks_eq_self
  rintro _ _ ⟨⟩
  exact ⟨ne_of_isBare bare (by decide), ne_of_isBare bare (by decide)⟩

theorem readKeyPart_append (isKey : IsBareKey key) {d : Char} (stops : isBare d = false)
    (rest : List Char) : readKeyPart (key ++ d :: rest) = some (key, d :: rest) := by
  have behind : ¬ isBare d = true := by simp [stops]
  have taken : (key ++ d :: rest).takeWhile isBare = key := by
    rw [List.takeWhile_append_of_pos isKey.bare, List.takeWhile_cons_of_neg behind,
      List.append_nil]
  have left : (key ++ d :: rest).dropWhile isBare = d :: rest := by
    rw [List.dropWhile_append_of_pos isKey.bare, List.dropWhile_cons_of_neg behind]
  obtain ⟨c, tail, rfl, bare⟩ := isKey.exists_eq_cons
  rw [readKeyPart, taken, left]
  · rfl
  · exact fun _ same => ne_of_isBare bare (by decide) (List.cons.inj same).1
  · exact fun _ same => ne_of_isBare bare (by decide) (List.cons.inj same).1

theorem readKey_append (isKey : IsBareKey key) {d : Char} (stops : isBare d = false)
    (noPath : ∀ back, skipBlanks (d :: rest) ≠ '.' :: back) (fuel : Nat) :
    readKey (fuel + 1) (key ++ d :: rest) = some (([], key), skipBlanks (d :: rest)) := by
  rw [readKey, isKey.skipBlanks_append, readKeyPart_append isKey stops]
  simp only [Option.bind_eq_bind, Option.bind_some]
  rfl

theorem readLine_header (isKey : IsBareKey key) (rest : List Char) :
    readLine ('[' :: (key ++ ']' :: rest)) = some (.header [] key, rest) := by
  have stays : skipBlanks (']' :: rest) = ']' :: rest := rfl
  have noPath (back : List Char) : skipBlanks (']' :: rest) ≠ '.' :: back := by
    rw [stays]
    simp
  rw [readLine, readKey_append isKey (by decide) noPath, stays]
  · rfl
  · intro back same
    obtain ⟨c, tail, rfl, bare⟩ := isKey.exists_eq_cons
    exact ne_of_isBare bare (by decide) (List.cons.inj same).1

theorem exists_writeString_eq_cons (chars : List Char) :
    ∃ c tail, writeString chars = c :: tail ∧ (c = '"' ∨ c = '\'') := by
  rw [writeString]
  cases StringForm.of chars with
  | basic => exact ⟨_, _, rfl, .inl rfl⟩
  | literal => exact ⟨_, _, rfl, .inr rfl⟩
  | multilineBasic => exact ⟨_, _, rfl, .inl rfl⟩
  | multilineLiteral => exact ⟨_, _, rfl, .inr rfl⟩

theorem endsString_lineEnd (rest : List Char) : EndsString ('\n' :: rest) := by
  rintro _ _ ⟨⟩
  exact ⟨by decide, by decide⟩

theorem readWord_flag (flag : Bool) (rest : List Char) :
    readWord ((Field.flag flag).written ++ '\n' :: rest) =
      some (.boolean flag, '\n' :: rest) := by
  have behind : ¬ isWordChar '\n' = true := by decide
  have word : (Field.flag flag).written.all isWordChar = true := by
    cases flag <;> rfl
  have taken : ((Field.flag flag).written ++ '\n' :: rest).takeWhile isWordChar =
      (Field.flag flag).written := by
    rw [List.takeWhile_append_of_pos (List.all_eq_true.mp word),
      List.takeWhile_cons_of_neg behind, List.append_nil]
  have left : ((Field.flag flag).written ++ '\n' :: rest).dropWhile isWordChar = '\n' :: rest := by
    rw [List.dropWhile_append_of_pos (List.all_eq_true.mp word),
      List.dropWhile_cons_of_neg behind]
  have noDate : takeDate (Field.flag flag).written = none := by
    cases flag <;> rfl
  rw [readWord, taken, left, noDate]
  cases flag <;> rfl

theorem readValue_written (fuel : Nat) (field : Field) (rest : List Char) :
    readValue (fuel + 1) (field.written ++ '\n' :: rest) = some (field.value, '\n' :: rest) := by
  cases field with
  | text chars =>
      have read := readString_writeString chars (endsString_lineEnd rest)
      obtain ⟨c, tail, first, quote⟩ := exists_writeString_eq_cons chars
      rw [first, List.cons_append] at read
      rw [Field.written, first, List.cons_append, readValue, if_pos (by simpa using quote), read]
      rfl
  | flag flag =>
      have read := readWord_flag flag rest
      cases flag <;> exact read

theorem skipBlanks_written (field : Field) (rest : List Char) :
    skipBlanks (' ' :: (field.written ++ rest)) = field.written ++ rest := by
  change skipBlanks (field.written ++ rest) = _
  apply skipBlanks_eq_self
  cases field with
  | text chars =>
      obtain ⟨c, tail, first, quote⟩ := exists_writeString_eq_cons chars
      rw [Field.written, first]
      rintro _ _ ⟨⟩
      rcases quote with rfl | rfl <;> decide
  | flag flag =>
      cases flag <;>
      · rintro _ _ ⟨⟩
        decide

theorem readLine_field (isKey : IsBareKey key) (field : Field) (rest : List Char) :
    readLine (key ++ ' ' :: '=' :: ' ' :: (field.written ++ '\n' :: rest)) =
      some (.entry [] key field.value, '\n' :: rest) := by
  generalize behind : ' ' :: (field.written ++ '\n' :: rest) = text
  have equals : skipBlanks (' ' :: '=' :: text) = '=' :: text := rfl
  have noPath (back : List Char) : skipBlanks (' ' :: '=' :: text) ≠ '.' :: back := by
    rw [equals]
    simp
  have noBracket (back : List Char) : key ++ ' ' :: '=' :: text ≠ '[' :: back := by
    obtain ⟨c, tail, rfl, bare⟩ := isKey.exists_eq_cons
    exact fun same => ne_of_isBare bare (by decide) (List.cons.inj same).1
  rw [readLine, readKey_append isKey (by decide) noPath, equals]
  · simp only [Option.bind_eq_bind, Option.bind_some, ← behind, skipBlanks_written,
      readValue_written]
    rfl
  · exact fun _ same => noBracket _ same
  · exact fun _ same => noBracket _ same

end

/-! ## Lines -/

/-- A text with the given lines in it. -/
structure Spells (text : List Char) (lines : List Line) : Prop where
  length : lines.length ≤ text.length
  read : ∀ fuel, lines.length < fuel → readLines fuel text = some lines

theorem Spells.nil : Spells [] [] where
  length := Nat.le_refl 0
  read fuel more := by
    cases fuel with
    | zero => exact absurd more (Nat.not_lt_zero _)
    | succ fuel => rfl

theorem Spells.blank {text : List Char} {lines : List Line} (spells : Spells text lines) :
    Spells ('\n' :: text) lines where
  length := Nat.le_succ_of_le spells.length
  read fuel more := by
    rw [← spells.read fuel more]
    cases fuel with
    | zero => rfl
    | succ fuel => rfl

/-- Characters that no empty line begins with. -/
def OpensLine (c : Char) : Prop :=
  c ≠ ' ' ∧ c ≠ '\t' ∧ c ≠ '#' ∧ c ≠ '\n' ∧ c ≠ '\r'

theorem skipLines_eq_self {c : Char} (opens : OpensLine c) (fuel : Nat) (text : List Char) :
    skipLines fuel (c :: text) = c :: text := by
  obtain ⟨noSpace, noTab, noMark, noLineEnd, noReturn⟩ := opens
  have blanks : skipBlanks (c :: text) = c :: text := by
    apply skipBlanks_eq_self
    rintro _ _ ⟨⟩
    exact ⟨noSpace, noTab⟩
  have comment : skipComment (c :: text) = c :: text := by
    rw [skipComment, blanks]
    split
    · next same => exact absurd (List.cons.inj same).1 noMark
    · rfl
  cases fuel with
  | zero => rfl
  | succ fuel =>
      rw [skipLines, comment]
      split
      · next same => exact absurd (List.cons.inj same).1 noLineEnd
      · next same => exact absurd (List.cons.inj same).1 noReturn
      · rfl

theorem Spells.line {front text : List Char} {c : Char} {line : Line} {lines : List Line}
    (opens : OpensLine c) (read : readLine (c :: front ++ '\n' :: text) = some (line, '\n' :: text))
    (spells : Spells text lines) : Spells (c :: front ++ '\n' :: text) (line :: lines) where
  length := by
    have length := spells.length
    rw [List.length_append, List.length_cons, List.length_cons, List.length_cons]
    omega
  read fuel more := by
    cases fuel with
    | zero => exact absurd more (Nat.not_lt_zero _)
    | succ fuel =>
        have others := spells.read fuel (Nat.lt_of_succ_lt_succ more)
        have ends : lineEnd? (skipComment ('\n' :: text)) = some text := rfl
        rw [List.cons_append] at read ⊢
        rw [readLines, skipLines_eq_self opens]
        simp only [Option.bind_eq_bind, read, Option.bind_some, ends, others]
        rfl

theorem opensLine_of_isBare {c : Char} (bare : isBare c = true) : OpensLine c :=
  ⟨ne_of_isBare bare (by decide), ne_of_isBare bare (by decide), ne_of_isBare bare (by decide),
    ne_of_isBare bare (by decide), ne_of_isBare bare (by decide)⟩

theorem Spells.field {key text : List Char} {lines : List Line} (spells : Spells text lines)
    (isKey : IsBareKey key) (field : Field) :
    Spells (Table.fieldLine (key, field) ++ text) (.entry [] key field.value :: lines) := by
  have read := readLine_field isKey field text
  obtain ⟨c, tail, rfl, bare⟩ := isKey.exists_eq_cons
  have line : Table.fieldLine (c :: tail, field) ++ text =
      c :: (tail ++ ' ' :: '=' :: ' ' :: field.written) ++ '\n' :: text := by
    simp [Table.fieldLine]
  rw [line]
  refine .line (opensLine_of_isBare bare) ?_ spells
  simpa using read

theorem Spells.fields {text : List Char} {lines : List Line} (spells : Spells text lines)
    {fields : List (List Char × Field)} (areKeys : ∀ field ∈ fields, IsBareKey field.1) :
    Spells (fields.flatMap Table.fieldLine ++ text)
      (fields.map (fun field => .entry [] field.1 field.2.value) ++ lines) := by
  induction fields with
  | nil => exact spells
  | cons field fields ih =>
      obtain ⟨isKey, others⟩ := List.forall_mem_cons.mp areKeys
      rw [List.flatMap_cons, List.append_assoc]
      exact (ih others).field isKey field.2

theorem Spells.table {text : List Char} {lines : List Line} (spells : Spells text lines)
    (table : Table) : Spells (table.written ++ text) (table.lines ++ lines) := by
  have line : table.written ++ text =
      '[' :: (table.name ++ [']']) ++ '\n' :: (table.fields.flatMap Table.fieldLine ++ text) := by
    simp [Table.written]
  have entries : table.lines ++ lines = .header [] table.name ::
      (table.fields.map (fun field => .entry [] field.1 field.2.value) ++ lines) := by
    simp [Table.lines, Table.entries, Function.comp_def]
  rw [line, entries]
  refine .line ⟨by decide, by decide, by decide, by decide, by decide⟩ ?_
    (spells.fields table.areKeys)
  have read := readLine_header table.isKey ('\n' :: (table.fields.flatMap Table.fieldLine ++ text))
  simpa using read

theorem spells_writeTables (tables : List Table) :
    Spells (writeTables tables) (tables.flatMap Table.lines) := by
  fun_induction writeTables tables with
  | case1 => exact .nil
  | case2 table =>
      have spells := Spells.nil.table table
      simpa using spells
  | case3 table rest _ ih => exact ih.blank.table table

/-! ## Entries -/

section

variable {entries inner : Entries} {name key : List Char} {value other : Value}

theorem replace_append_singleton (absent : name ∉ entries.map Prod.fst) :
    Entries.replace (entries ++ [(name, value)]) name other = entries ++ [(name, other)] := by
  have kept : entries.map (fun entry => if entry.1 == name then (name, other) else entry) =
      entries := by
    refine (List.map_congr_left ?_).trans (List.map_id entries)
    intro entry member
    have different : ¬ (entry.1 == name) = true := by
      rw [beq_iff_eq]
      exact fun same => absent (same ▸ List.mem_map_of_mem member)
    rw [if_neg different, id]
  rw [Entries.replace, List.map_append, kept, List.map_singleton, if_pos (beq_self_eq_true name)]

/-- A field is added to the table that was opened last. -/
theorem read_entry (absent : name ∉ entries.map Prod.fst) (fresh : key ∉ inner.map Prod.fst) :
    Progress.read ⟨entries ++ [(name, .table .header inner)], [name]⟩ (.entry [] key value) =
      some ⟨entries ++ [(name, .table .header (inner ++ [(key, value)]))], [name]⟩ := by
  have added : Entries.assign [] key value inner = some (inner ++ [(key, value)]) := by
    rw [Entries.assign, Entries.descend, Entries.add, Lookup.lookup_eq_none fresh]
    rfl
  have extended : Value.extend false (Entries.descend false (Entries.assign [] key value) [])
      (.table .header inner) = some (.table .header (inner ++ [(key, value)])) := by
    simp only [Value.extend, Entries.descend, added]
    rfl
  rw [Progress.read, Entries.descend, Lookup.lookup_append_singleton absent]
  simp only [extended, Option.map_some, replace_append_singleton absent]

theorem read_fields (absent : name ∉ entries.map Prod.fst) (fields : Entries)
    (distinct : ((inner ++ fields).map Prod.fst).Nodup) :
    (fields.map fun field => Line.entry [] field.1 field.2).foldlM Progress.read
        ⟨entries ++ [(name, .table .header inner)], [name]⟩ =
      some ⟨entries ++ [(name, .table .header (inner ++ fields))], [name]⟩ := by
  induction fields generalizing inner with
  | nil => rw [List.append_nil]; rfl
  | cons field fields ih =>
      have regrouped : inner ++ field :: fields = inner ++ [field] ++ fields := by simp
      have fresh : field.1 ∉ inner.map Prod.fst := by
        rw [List.map_append, List.nodup_append] at distinct
        intro member
        exact distinct.2.2 field.1 member field.1 List.mem_cons_self rfl
      rw [List.map_cons, List.foldlM_cons, read_entry absent fresh, Option.bind_eq_bind,
        Option.bind_some, regrouped]
      rw [regrouped] at distinct
      exact ih distinct

theorem read_table (progress : Progress) (table : Table)
    (absent : table.name ∉ progress.entries.map Prod.fst) :
    table.lines.foldlM Progress.read progress =
      some ⟨progress.entries ++ [(table.name, .table .header table.entries)], [table.name]⟩ := by
  have opened : progress.read (.header [] table.name) =
      some ⟨progress.entries ++ [(table.name, .table .header [])], [table.name]⟩ := by
    rw [Progress.read, Entries.descend, Entries.openTable, Lookup.lookup_eq_none absent]
    rfl
  have distinct : (([] ++ table.entries : Entries).map Prod.fst).Nodup := by
    simpa [Table.entries, Function.comp_def] using table.distinct
  rw [Table.lines, List.foldlM_cons, opened, Option.bind_eq_bind, Option.bind_some]
  exact read_fields absent table.entries distinct

theorem read_tables (progress : Progress) (tables : List Table)
    (distinct : (progress.entries.map Prod.fst ++ tables.map Table.name).Nodup) :
    ∃ path, (tables.flatMap Table.lines).foldlM Progress.read progress =
      some ⟨progress.entries ++ tables.map fun table =>
        (table.name, .table .header table.entries), path⟩ := by
  induction tables generalizing progress with
  | nil =>
      refine ⟨progress.path, ?_⟩
      rw [List.map_nil, List.append_nil]
      rfl
  | cons table tables ih =>
      have absent : table.name ∉ progress.entries.map Prod.fst := by
        rw [List.nodup_append] at distinct
        intro member
        exact distinct.2.2 table.name member table.name List.mem_cons_self rfl
      have others : (((progress.entries ++ [(table.name, Value.table .header table.entries)] :
          Entries).map Prod.fst) ++ tables.map Table.name).Nodup := by
        simpa using distinct
      obtain ⟨path, read⟩ := ih ⟨_, [table.name]⟩ others
      refine ⟨path, ?_⟩
      rw [List.flatMap_cons, List.foldlM_append, read_table progress table absent,
        Option.bind_eq_bind, Option.bind_some, read, List.map_cons, List.append_assoc,
        List.singleton_append]

end

/-- Tables that are written are read again. -/
theorem ofDocument?_writeTables (tables : List Table) (distinct : (tables.map Table.name).Nodup) :
    ofDocument? (String.ofList (writeTables tables)) =
      some (tables.map fun table => (table.name, .table .header table.entries)) := by
  have noMark : dropMark (writeTables tables) = writeTables tables := by
    cases tables with
    | nil => rfl
    | cons table tables => cases tables <;> rfl
  -- There are no more lines than characters, so the reader has fuel left at the end.
  have spells := spells_writeTables tables
  obtain ⟨path, read⟩ := read_tables {} tables distinct
  simp only [ofDocument?, String.toList_ofList, noMark,
    spells.read _ (Nat.lt_succ_of_le spells.length), Option.bind_eq_bind, Option.bind_some, read]
  rfl

end FileSearch.Toml
