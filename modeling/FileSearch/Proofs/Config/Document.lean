import FileSearch.Config.Document
import FileSearch.Proofs.Text.Bytes
import FileSearch.Proofs.Toml.Document

/-!
# Configurations that are written and read

The document of a configuration is read as that configuration. What is left out of a document has
its default, and all else stays.
-/

set_option autoImplicit false

namespace FileSearch

/-! ## Documents with parts left out -/

namespace Toml

/-- A table with some of its entries only. Other values stay. -/
def Value.restrict (keeps : List Char → Bool) : Value → Value
  | .table origin entries => .table origin (entries.filter fun entry => keeps entry.1)
  | value => value

/-- Entries with some of the tables among them, and some of the entries in these. What is kept are
paths of one or two keys. -/
def Entries.restrict (keeps : List (List Char) → Bool) (entries : Entries) : Entries :=
  (entries.filter fun entry => keeps [entry.1]).map fun entry =>
    (entry.1, entry.2.restrict fun key => keeps [entry.1, key])

theorem Entries.lookup_restrict (keeps : List (List Char) → Bool) (entries : Entries)
    (key : List Char) :
    (entries.restrict keeps).lookup key =
      if keeps [key] then
        (entries.lookup key).map (Value.restrict fun inner => keeps [key, inner])
      else none := by
  have mapped := Lookup.lookup_map (fun name => Value.restrict fun inner => keeps [name, inner])
    (entries.filter fun entry => keeps [entry.1]) key
  rw [restrict, mapped, Lookup.lookup_filter _ fun name => keeps [name]]
  split <;> rfl

def Table.restrict (keeps : List Char → Bool) (table : Table) : Table where
  name := table.name
  fields := table.fields.filter fun field => keeps field.1
  isKey := table.isKey
  areKeys field member := table.areKeys field (List.mem_of_mem_filter member)
  distinct := table.distinct.sublist (List.filter_sublist.map Prod.fst)

def restrictTables (keeps : List (List Char) → Bool) (tables : List Table) : List Table :=
  (tables.filter fun table => keeps [table.name]).map fun table =>
    table.restrict fun key => keeps [table.name, key]

theorem ofDocument?_restrictTables (keeps : List (List Char) → Bool) {tables : List Table}
    (distinct : (tables.map Table.name).Nodup) :
    ofDocument? (String.ofList (writeTables (restrictTables keeps tables))) =
      some (Entries.restrict keeps (tables.map fun table =>
        (table.name, .table .header table.entries))) := by
  have names : (restrictTables keeps tables).map Table.name =
      (tables.filter fun table => keeps [table.name]).map Table.name := by
    rw [restrictTables, List.map_map]
    rfl
  rw [ofDocument?_writeTables]
  · rw [restrictTables, Entries.restrict, List.filter_map, List.map_map, List.map_map]
    refine congrArg some (List.map_congr_left fun table _ => ?_)
    have entries : (table.restrict fun key => keeps [table.name, key]).entries =
        table.entries.filter fun entry => keeps [table.name, entry.1] := by
      rw [Table.entries, Table.restrict, Table.entries, List.filter_map]
      rfl
    exact congrArg (fun inner => (table.name, Value.table .header inner)) entries
  · rw [names]
    exact distinct.sublist (List.filter_sublist.map Table.name)

def Entries.field? (entries : Entries) (name key : String) : Option Value :=
  match entries.lookup name.toList with
  | some (.table _ inner) => inner.lookup key.toList
  | _ => none

/-- A name stands for a table, if for anything. -/
def Entries.IsTable (entries : Entries) (name : String) : Prop :=
  ∀ value, entries.lookup name.toList = some value → ∃ origin inner, value = .table origin inner

theorem Entries.field?_restrict (keeps : List (List Char) → Bool) (entries : Entries)
    (name key : String) :
    (entries.restrict keeps).field? name key =
      if keeps [name.toList] && keeps [name.toList, key.toList] then entries.field? name key
      else none := by
  rw [field?, field?, lookup_restrict]
  cases keeps [name.toList] with
  | false => rfl
  | true =>
      rw [if_pos rfl, Bool.true_and]
      cases entries.lookup name.toList with
      | none => exact (ite_self _).symm
      | some value =>
          cases value with
          | table origin inner =>
              exact Lookup.lookup_filter inner (fun key => keeps [name.toList, key]) key.toList
          | _ => exact (ite_self _).symm

theorem Entries.IsTable.restrict {entries : Entries} {name : String}
    (isTable : entries.IsTable name) (keeps : List (List Char) → Bool) :
    (entries.restrict keeps).IsTable name := by
  intro value found
  rw [lookup_restrict, Option.ite_none_right_eq_some, Option.map_eq_some_iff] at found
  obtain ⟨-, whole, foundWhole, rfl⟩ := found
  obtain ⟨origin, inner, rfl⟩ := isTable whole foundWhole
  exact ⟨origin, _, rfl⟩

theorem isTable_tables (tables : List Table) (name : String) :
    Entries.IsTable (tables.map fun table => (table.name, .table .header table.entries)) name := by
  intro value found
  obtain ⟨front, back, split, -⟩ := List.lookup_eq_some_iff.mp found
  have member : (name.toList, value) ∈ tables.map fun table =>
      (table.name, Value.table .header table.entries) := by
    rw [split]
    exact List.mem_append_right front List.mem_cons_self
  obtain ⟨table, -, same⟩ := List.mem_map.mp member
  exact ⟨_, _, (Prod.mk.inj same).2.symm⟩

end Toml

theorem Format.ofValue?_name (format : Format) :
    ofValue? (.text format.name.toList) = some format := by
  cases format <;> rfl

namespace Config

/-- A configuration with defaults for all that is not kept. -/
def restrict (keeps : List (List Char) → Bool) (config : Config) : Config :=
  let shows (table key : String) : Bool := keeps [table.toList] && keeps [table.toList, key.toList]
  let default : Config := {}
  { program := if shows "search" "program" then config.program else default.program
    captureMatches :=
      if shows "search" "capture_matches" then config.captureMatches else default.captureMatches
    filterContent :=
      if shows "search" "filter_content" then config.filterContent else default.filterContent
    defaultFormat :=
      if shows "search" "default_format" then config.defaultFormat else default.defaultFormat
    specsDirectory? :=
      if shows "storage" "specs_dir" then config.specsDirectory? else default.specsDirectory? }

def ofEntries? (entries : Toml.Entries) : Option Config := do
  let config : Config := {}
  let config ← ((entries.lookup "search".toList).map config.readSearch).getD (some config)
  ((entries.lookup "storage".toList).map config.readStorage).getD (some config)

theorem ofDocument?_eq (document : String) :
    ofDocument? document = (Toml.ofDocument? document).bind ofEntries? :=
  rfl

theorem fieldOr_restrict {α : Type} {read : Toml.Value → Option α} {default value : α}
    {found : Option Toml.Value} (reads : fieldOr read default found = some value) (keeps : Bool) :
    fieldOr read default (if keeps then found else none) =
      some (if keeps then value else default) := by
  cases keeps with
  | true => exact reads
  | false => rfl

theorem readSearch_table_iff (base config : Config) (origin : Toml.Origin)
    (entries : Toml.Entries) :
    base.readSearch (.table origin entries) = some config ↔
      fieldOr Toml.Value.text? base.program (entries.lookup "program".toList) =
          some config.program ∧
        fieldOr Toml.Value.boolean? base.captureMatches (entries.lookup "capture_matches".toList) =
          some config.captureMatches ∧
        fieldOr Toml.Value.boolean? base.filterContent (entries.lookup "filter_content".toList) =
          some config.filterContent ∧
        fieldOr Format.ofValue? base.defaultFormat (entries.lookup "default_format".toList) =
          some config.defaultFormat ∧
        config.specsDirectory? = base.specsDirectory? := by
  cases config with
  | mk program captureMatches filterContent defaultFormat specsDirectory? =>
      simp only [readSearch, Toml.Value.group?, searchKeys, List.map_cons, List.map_nil,
        Option.bind_eq_bind, Option.bind_some, Option.bind_eq_some_iff, Option.pure_def,
        Option.some.injEq, Config.mk.injEq]
      constructor
      · rintro ⟨_, first, _, second, _, third, _, fourth, rfl, rfl, rfl, rfl, rfl⟩
        exact ⟨first, second, third, fourth, rfl⟩
      · rintro ⟨first, second, third, fourth, rfl⟩
        exact ⟨_, first, _, second, _, third, _, fourth, rfl, rfl, rfl, rfl, rfl⟩

theorem readStorage_table_iff (base config : Config) (origin : Toml.Origin)
    (entries : Toml.Entries) :
    base.readStorage (.table origin entries) = some config ↔
      fieldOr (fun value => value.text?.map fun text => some (Path.ofText text))
          base.specsDirectory? (entries.lookup "specs_dir".toList) =
          some config.specsDirectory? ∧
        config = { base with specsDirectory? := config.specsDirectory? } := by
  simp only [readStorage, Toml.Value.group?, storageKeys, List.map_cons, List.map_nil,
    Option.bind_eq_bind, Option.bind_some, Option.bind_eq_some_iff, Option.pure_def,
    Option.some.injEq]
  constructor
  · rintro ⟨directory, found, rfl⟩
    exact ⟨found, rfl⟩
  · rintro ⟨found, same⟩
    exact ⟨_, found, same.symm⟩

/-- A configuration has for each field what its document has for it, and the default where that has
nothing. -/
structure IsIn (entries : Toml.Entries) (config : Config) : Prop where
  program : fieldOr Toml.Value.text? ({} : Config).program (entries.field? "search" "program") =
    some config.program
  captureMatches : fieldOr Toml.Value.boolean? ({} : Config).captureMatches
    (entries.field? "search" "capture_matches") = some config.captureMatches
  filterContent : fieldOr Toml.Value.boolean? ({} : Config).filterContent
    (entries.field? "search" "filter_content") = some config.filterContent
  defaultFormat : fieldOr Format.ofValue? ({} : Config).defaultFormat
    (entries.field? "search" "default_format") = some config.defaultFormat
  specsDirectory? : fieldOr (fun value => value.text?.map fun text => some (Path.ofText text))
    ({} : Config).specsDirectory? (entries.field? "storage" "specs_dir") =
      some config.specsDirectory?

theorem search_iff {entries : Toml.Entries} (search : entries.IsTable "search")
    (base config : Config) :
    ((entries.lookup "search".toList).map base.readSearch).getD (some base) = some config ↔
      fieldOr Toml.Value.text? base.program (entries.field? "search" "program") =
          some config.program ∧
        fieldOr Toml.Value.boolean? base.captureMatches
          (entries.field? "search" "capture_matches") = some config.captureMatches ∧
        fieldOr Toml.Value.boolean? base.filterContent
          (entries.field? "search" "filter_content") = some config.filterContent ∧
        fieldOr Format.ofValue? base.defaultFormat (entries.field? "search" "default_format") =
          some config.defaultFormat ∧
        config.specsDirectory? = base.specsDirectory? := by
  simp only [Toml.Entries.field?]
  cases found : entries.lookup "search".toList with
  | none =>
      cases base
      cases config
      simp only [Option.map_none, Option.getD_none, fieldOr, Option.some.injEq, Config.mk.injEq]
      grind
  | some value =>
      obtain ⟨origin, inner, rfl⟩ := search value found
      exact readSearch_table_iff base config origin inner

theorem storage_iff {entries : Toml.Entries} (storage : entries.IsTable "storage")
    (base config : Config) :
    ((entries.lookup "storage".toList).map base.readStorage).getD (some base) = some config ↔
      fieldOr (fun value => value.text?.map fun text => some (Path.ofText text))
          base.specsDirectory? (entries.field? "storage" "specs_dir") =
          some config.specsDirectory? ∧
        config = { base with specsDirectory? := config.specsDirectory? } := by
  simp only [Toml.Entries.field?]
  cases found : entries.lookup "storage".toList with
  | none =>
      simp only [Option.map_none, Option.getD_none, fieldOr, Option.some.injEq]
      constructor
      · rintro rfl
        exact ⟨rfl, rfl⟩
      · rintro ⟨same, rest⟩
        rw [rest, ← same]
  | some value =>
      obtain ⟨origin, inner, rfl⟩ := storage value found
      exact readStorage_table_iff base config origin inner

theorem ofEntries?_iff {entries : Toml.Entries} (search : entries.IsTable "search")
    (storage : entries.IsTable "storage") (config : Config) :
    ofEntries? entries = some config ↔ IsIn entries config := by
  rw [ofEntries?, Option.bind_eq_bind, Option.bind_eq_some_iff]
  constructor
  · rintro ⟨middle, searched, stored⟩
    obtain ⟨program, captureMatches, filterContent, defaultFormat, kept⟩ :=
      (search_iff search {} middle).mp searched
    obtain ⟨directory, rest⟩ := (storage_iff storage middle config).mp stored
    rw [kept] at directory
    rw [rest]
    exact ⟨program, captureMatches, filterContent, defaultFormat, directory⟩
  · intro isIn
    -- The table about searches leaves the directory as it is.
    refine ⟨{ config with specsDirectory? := ({} : Config).specsDirectory? }, ?_, ?_⟩
    · exact (search_iff search {} _).mpr ⟨isIn.program, isIn.captureMatches, isIn.filterContent,
        isIn.defaultFormat, rfl⟩
    · exact (storage_iff storage _ config).mpr ⟨isIn.specsDirectory?, rfl⟩

theorem IsIn.restrict {entries : Toml.Entries} {config : Config} (isIn : IsIn entries config)
    (keeps : List (List Char) → Bool) : IsIn (entries.restrict keeps) (config.restrict keeps) where
  program := by
    rw [Toml.Entries.field?_restrict]
    exact fieldOr_restrict isIn.program _
  captureMatches := by
    rw [Toml.Entries.field?_restrict]
    exact fieldOr_restrict isIn.captureMatches _
  filterContent := by
    rw [Toml.Entries.field?_restrict]
    exact fieldOr_restrict isIn.filterContent _
  defaultFormat := by
    rw [Toml.Entries.field?_restrict]
    exact fieldOr_restrict isIn.defaultFormat _
  specsDirectory? := by
    rw [Toml.Entries.field?_restrict]
    exact fieldOr_restrict isIn.specsDirectory? _

/-- A document that leaves out parts of another one has defaults for them. -/
theorem ofDocument?_restrict {document other : String} {entries : Toml.Entries} {config : Config}
    (parsed : Toml.ofDocument? document = some entries) (search : entries.IsTable "search")
    (storage : entries.IsTable "storage") (read : ofDocument? document = some config)
    (keeps : List (List Char) → Bool) (parsedOther : Toml.ofDocument? other =
      some (entries.restrict keeps)) : ofDocument? other = some (config.restrict keeps) := by
  rw [ofDocument?_eq, parsed, Option.bind_some, ofEntries?_iff search storage] at read
  rw [ofDocument?_eq, parsedOther, Option.bind_some,
    ofEntries?_iff (search.restrict keeps) (storage.restrict keeps)]
  exact read.restrict keeps

/-! ## Written configurations -/

/-- The directory of saved specifications as a text, if there is one. A path that is no text has
none. -/
def directoryText? (config : Config) : Option (Option String) :=
  match config.specsDirectory? with
  | none => some none
  | some directory => directory.toText?.map some

theorem isBareKey_of_all {key : String} (solid : key ≠ "")
    (bare : key.toList.all Toml.isBare = true) : Toml.IsBareKey key.toList where
  ne_nil empty := solid (String.toList_inj.mp (by rw [empty]; rfl))
  bare := List.all_eq_true.mp bare

def searchFields (config : Config) : List (List Char × Toml.Field) := [
  ("program".toList, .text config.program.toList),
  ("capture_matches".toList, .flag config.captureMatches),
  ("filter_content".toList, .flag config.filterContent),
  ("default_format".toList, .text config.defaultFormat.name.toList)]

theorem isBareKey_search (config : Config) :
    ∀ field ∈ config.searchFields, Toml.IsBareKey field.1 := by
  simp only [searchFields, List.forall_mem_cons]
  exact ⟨isBareKey_of_all (by decide) (by decide), isBareKey_of_all (by decide) (by decide),
    isBareKey_of_all (by decide) (by decide), isBareKey_of_all (by decide) (by decide),
    List.forall_mem_nil _⟩

theorem distinct_search (config : Config) : (config.searchFields.map Prod.fst).Nodup := by
  simp only [searchFields, List.map_cons, List.map_nil]
  decide

def storageFields (text? : Option String) : List (List Char × Toml.Field) :=
  text?.toList.map fun text => ("specs_dir".toList, .text text.toList)

def searchTable (config : Config) : Toml.Table where
  name := "search".toList
  fields := config.searchFields
  isKey := isBareKey_of_all (by decide) (by decide)
  areKeys := config.isBareKey_search
  distinct := config.distinct_search

def storageTable (text? : Option String) : Toml.Table where
  name := "storage".toList
  fields := storageFields text?
  isKey := isBareKey_of_all (by decide) (by decide)
  areKeys := by
    intro field member
    obtain ⟨text, -, rfl⟩ := List.mem_map.mp member
    exact isBareKey_of_all (by decide) (by decide)
  distinct := by cases text? <;> simp [storageFields]

theorem toList_quoted (text : String) : (quoted text).toList = Toml.writeString text.toList :=
  String.toList_ofList

theorem toList_flagText (flag : Bool) :
    (flagText flag).toList = (Toml.Field.flag flag).written := by
  cases flag <;> rfl

theorem fieldLines_searchFields (config : Config) (rest : List Char) :
    config.searchFields.flatMap Toml.Table.fieldLine ++ rest =
      "program".toList ++ ' ' :: '=' :: ' ' :: (Toml.writeString config.program.toList ++
      '\n' :: ("capture_matches".toList ++ ' ' :: '=' :: ' ' :: (
        (Toml.Field.flag config.captureMatches).written ++
      '\n' :: ("filter_content".toList ++ ' ' :: '=' :: ' ' :: (
        (Toml.Field.flag config.filterContent).written ++
      '\n' :: ("default_format".toList ++ ' ' :: '=' :: ' ' :: (
        Toml.writeString config.defaultFormat.name.toList ++ '\n' :: rest))))))) := by
  rw [searchFields, List.flatMap_cons, List.flatMap_cons, List.flatMap_cons, List.flatMap_cons,
    List.flatMap_nil, List.append_nil, List.append_assoc, List.append_assoc, List.append_assoc,
    Toml.Table.fieldLine_append, Toml.Table.fieldLine_append, Toml.Table.fieldLine_append,
    Toml.Table.fieldLine_append]
  rfl

theorem fieldLines_storageFields (text? : Option String) :
    (storageFields text?).flatMap Toml.Table.fieldLine =
      ((text?.map fun text => "specs_dir = " ++ quoted text ++ "\n").getD "").toList := by
  cases text? with
  | none => rfl
  | some text =>
      simp only [storageFields, Option.toList_some, List.map_cons, List.map_nil, List.flatMap_cons,
        List.flatMap_nil, Toml.Table.fieldLine_append, Option.map_some, Option.getD_some,
        String.toList_append, toList_quoted, List.append_assoc]
      rfl

/-- The text of a document is that of its tables. -/
theorem document_eq (config : Config) (text? : Option String) :
    "[search]\nprogram = " ++ quoted config.program
        ++ "\ncapture_matches = " ++ flagText config.captureMatches
        ++ "\nfilter_content = " ++ flagText config.filterContent
        ++ "\ndefault_format = " ++ quoted config.defaultFormat.name
        ++ "\n\n[storage]\n"
        ++ (text?.map fun text => "specs_dir = " ++ quoted text ++ "\n").getD "" =
      String.ofList (Toml.writeTables [config.searchTable, storageTable text?]) := by
  have tables : Toml.writeTables [config.searchTable, storageTable text?] =
      config.searchTable.written ++ '\n' :: (storageTable text?).written := rfl
  have storage : (storageTable text?).written =
      '[' :: ("storage".toList ++ ']' :: '\n' ::
        (storageFields text?).flatMap Toml.Table.fieldLine) := rfl
  -- Only the lines about storage depend on there being a directory, so they go first.
  apply String.toList_inj.mp
  rw [String.toList_ofList, tables, Toml.Table.written_append, storage, fieldLines_storageFields]
  change _ = '[' :: ("search".toList ++ ']' :: '\n' ::
    (config.searchFields.flatMap Toml.Table.fieldLine ++ _))
  rw [fieldLines_searchFields]
  simp only [String.toList_append, toList_quoted, toList_flagText, List.append_assoc]
  rfl

def tables? (config : Config) : Option (List Toml.Table) :=
  config.directoryText?.map fun text? => [config.searchTable, storageTable text?]

theorem document?_eq (config : Config) :
    config.document? =
      config.tables?.map fun tables => String.ofList (Toml.writeTables tables) := by
  rw [document?, tables?, directoryLine?, directoryText?]
  cases config.specsDirectory? with
  | none => exact congrArg some (config.document_eq none)
  | some directory =>
      dsimp only
      cases directory.toText? with
      | none => rfl
      | some text => exact congrArg some (config.document_eq (some text))

/-- A document with some of its tables and some of their lines. -/
def excerpt? (config : Config) (keeps : List (List Char) → Bool) : Option String :=
  config.tables?.map fun tables =>
    String.ofList (Toml.writeTables (Toml.restrictTables keeps tables))

section

variable {config : Config} {tables : List Toml.Table}

theorem document?_of_tables? (isTables : config.tables? = some tables) :
    config.document? = some (String.ofList (Toml.writeTables tables)) := by
  rw [document?_eq, isTables, Option.map_some]

theorem excerpt?_of_tables? (isTables : config.tables? = some tables)
    (keeps : List (List Char) → Bool) :
    config.excerpt? keeps =
      some (String.ofList (Toml.writeTables (Toml.restrictTables keeps tables))) := by
  rw [excerpt?, isTables, Option.map_some]

end

/-- The directory of saved specifications has a path that is text, if it is not the usual one. -/
def IsTextual (config : Config) : Prop :=
  ∀ directory, config.specsDirectory? = some directory → ∃ text, directory = Path.ofText text

theorem isTextual_iff (config : Config) :
    config.IsTextual ↔ ∃ tables, config.tables? = some tables := by
  rw [IsTextual, tables?, directoryText?]
  cases config.specsDirectory? with
  | none => simp
  | some directory =>
      simp only [Option.some.injEq, forall_eq', Option.map_map, Option.map_eq_some_iff,
        Path.ofText, ← Bytes.toText?_eq_some_iff]
      constructor
      · rintro ⟨text, decoded⟩
        exact ⟨_, text, decoded, rfl⟩
      · rintro ⟨_, text, decoded, -⟩
        exact ⟨text, decoded⟩

theorem document?_eq_none_iff (config : Config) :
    config.document? = none ↔ ¬ config.IsTextual := by
  rw [document?_eq, isTextual_iff]
  cases config.tables? <;> simp

theorem distinct_tables {config : Config} {tables : List Toml.Table}
    (textual : config.tables? = some tables) : (tables.map Toml.Table.name).Nodup := by
  rw [tables?, Option.map_eq_some_iff] at textual
  obtain ⟨text?, -, rfl⟩ := textual
  change ["search".toList, "storage".toList].Nodup
  decide

theorem isIn_tables {config : Config} {tables : List Toml.Table}
    (textual : config.tables? = some tables) :
    IsIn (tables.map fun table => (table.name, .table .header table.entries)) config := by
  rw [tables?, Option.map_eq_some_iff] at textual
  obtain ⟨text?, textual, rfl⟩ := textual
  constructor
  · change some (String.ofList config.program.toList) = _
    rw [String.ofList_toList]
  · rfl
  · rfl
  · exact Format.ofValue?_name config.defaultFormat
  · rw [directoryText?] at textual
    cases given : config.specsDirectory? with
    | none =>
        rw [given] at textual
        cases textual
        rfl
    | some directory =>
        simp only [given, Option.map_eq_some_iff] at textual
        obtain ⟨text, decoded, rfl⟩ := textual
        change some (some (Path.ofText (String.ofList text.toList))) = _
        rw [String.ofList_toList, Path.ofText, Bytes.ofText_of_toText? decoded]

/-- The document of a configuration is read as that configuration. -/
theorem ofDocument?_of_document? {config : Config} {document : String}
    (written : config.document? = some document) : ofDocument? document = some config := by
  rw [document?_eq, Option.map_eq_some_iff] at written
  obtain ⟨tables, textual, rfl⟩ := written
  rw [ofDocument?_eq, Toml.ofDocument?_writeTables tables (distinct_tables textual),
    Option.bind_some, ofEntries?_iff (Toml.isTable_tables _ _) (Toml.isTable_tables _ _)]
  exact isIn_tables textual

/-- What is left of a document is read as the configuration with defaults for the rest. -/
theorem ofDocument?_of_excerpt? {config : Config} {keeps : List (List Char) → Bool}
    {excerpt : String} (written : config.excerpt? keeps = some excerpt) :
    ofDocument? excerpt = some (config.restrict keeps) := by
  rw [excerpt?, Option.map_eq_some_iff] at written
  obtain ⟨tables, textual, rfl⟩ := written
  have distinct := distinct_tables textual
  exact ofDocument?_restrict (Toml.ofDocument?_writeTables tables distinct)
    (Toml.isTable_tables _ _) (Toml.isTable_tables _ _)
    (ofDocument?_of_document? (document?_of_tables? textual)) keeps
    (Toml.ofDocument?_restrictTables keeps distinct)

end Config

end FileSearch
