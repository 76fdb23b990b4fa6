import FileSearch.Proofs.Json.Laws
import FileSearch.Proofs.Specification.Document

/-!
# The levels of a specification

A specification is a record of records: its own fields and those of its eight groups. What holds at
each level is stated once.
-/

set_option autoImplicit false

namespace FileSearch

open Json (Schema Field Kind)

namespace Limit

/-- The keys of the texts of a specification, by the most bytes that the texts may have. -/
def table : List (Nat × List String) := [
  (7, ["maxDepth", "minDepth"]),
  (15, ["mtime", "atime", "ctime", "mmin", "amin", "cmin", "used", "typeLetters", "xtypeLetters",
    "permSpec", "linkCount"]),
  (31, ["customFrom", "customTo", "minSpec", "maxSpec", "exactSpec", "uid", "gid", "inode"]),
  (63, ["newermt", "newerat", "newerct", "user", "group", "fsType"]),
  (127, ["specName"]),
  (255, ["searchText", "includePatterns", "excludePatterns", "namePattern", "inamePattern",
    "pathPattern", "ipathPattern", "regexPattern", "iregexPattern", "lnamePattern",
    "ilnamePattern", "prunePattern", "extensions", "detectorTags", "printfFormat",
    "fprintfFormat"]),
  (511, ["execCommand"]),
  (4095, ["startLocation", "newer", "anewer", "cnewer", "filesFrom", "sameFile", "fprintFile",
    "fprint0File", "flsFile", "fprintfFile"])]

def ofKey? (key : String) : Option Nat :=
  (table.find? fun entry => entry.2.contains key).map Prod.fst

end Limit

namespace Specification

/-- The schemas of a specification and of its groups. -/
inductive Level : {α : Type} → Schema α → Prop where
  | root : Level schema
  | text : Level TextOptions.schema
  | names : Level NameOptions.schema
  | times : Level TimeOptions.schema
  | sizes : Level SizeOptions.schema
  | types : Level TypeOptions.schema
  | ownership : Level OwnershipOptions.schema
  | traversal : Level TraversalOptions.schema
  | actions : Level ActionOptions.schema

namespace Level

variable {α : Type} {schema : Schema α}

theorem faithful (level : Level schema) : schema.Faithful := by
  cases level with
  | root => exact schema_faithful
  | text => exact TextOptions.schema_faithful
  | names => exact NameOptions.schema_faithful
  | times => exact TimeOptions.schema_faithful
  | sizes => exact SizeOptions.schema_faithful
  | types => exact TypeOptions.schema_faithful
  | ownership => exact OwnershipOptions.schema_faithful
  | traversal => exact TraversalOptions.schema_faithful
  | actions => exact ActionOptions.schema_faithful

theorem optional (level : Level schema) : ∀ field ∈ schema.fields, field.required = false := by
  cases level <;> decide

theorem get_set (level : Level schema) : ∀ field ∈ schema.fields, ∀ value record,
    field.get (field.set value record) = value := by
  cases level <;> simp [Specification.schema, TextOptions.schema, NameOptions.schema,
    TimeOptions.schema, SizeOptions.schema, TypeOptions.schema, OwnershipOptions.schema,
    TraversalOptions.schema, ActionOptions.schema, Field.flag, Field.text, Field.choice,
    Field.group, Field.optional]

theorem independent (level : Level schema) : schema.fields.Pairwise Field.Independent := by
  cases level <;>
    simp only [Specification.schema, TextOptions.schema, NameOptions.schema, TimeOptions.schema,
      SizeOptions.schema, TypeOptions.schema, OwnershipOptions.schema, TraversalOptions.schema,
      ActionOptions.schema, List.pairwise_cons, List.forall_mem_cons, List.not_mem_nil,
      false_imp_iff, implies_true, and_true, List.Pairwise.nil] <;>
    simp only [Field.Independent, Field.flag, Field.text, Field.choice, Field.group,
      Field.optional, implies_true, and_self]

theorem lawful (level : Level schema) : schema.Lawful where
  toFaithful := level.faithful
  optional := level.optional
  get_set := level.get_set
  independent := level.independent

/-- What holds of flags, of texts whose limit is that of their key, of choices, and of records whose
fields it holds of, holds of every field at every level. -/
theorem forall_keyed {P : {β : Type} → String → Kind β → Prop} (flag : ∀ key, P key Kind.flag)
    (text : ∀ key bytes, Limit.ofKey? key = some bytes → P key (Kind.text bytes))
    (choice : ∀ (key : String) (β : Type) [Choice β] [BEq β] [LawfulBEq β] [LawfulChoice β],
      P key (Choice.kind β))
    (record : ∀ (key : String) {β : Type} {group : Schema β}, Level group →
      (∀ field ∈ group.fields, P field.key field.kind) → P key group.kind)
    (level : Level schema) : ∀ field ∈ schema.fields, P field.key field.kind := by
  -- Groups have no groups of their own, so what holds of their fields comes first.
  have inGroup {β : Type} {group : Schema β} (level : Level group)
      (notRoot : group.name ≠ Specification.schema.name) :
      ∀ field ∈ group.fields, P field.key field.kind := by
    cases level with
    | root => exact absurd rfl notRoot
    | _ =>
        simp only [TextOptions.schema, NameOptions.schema, TimeOptions.schema, SizeOptions.schema,
          TypeOptions.schema, OwnershipOptions.schema, TraversalOptions.schema,
          ActionOptions.schema, List.forall_mem_cons, List.not_mem_nil, false_imp_iff,
          implies_true, and_true, Field.flag, Field.text, Field.choice, Field.optional]
        repeat' first
          | apply And.intro
          | exact flag _
          | exact text _ _ (by decide)
          | exact choice _ _
  by_cases root : schema.name = Specification.schema.name
  · cases level with
    | root =>
        have groupKind (key : String) {β : Type} {group : Schema β} (level : Level group)
            (notRoot : group.name ≠ Specification.schema.name) : P key group.kind :=
          record key level (inGroup level notRoot)
        simp only [Specification.schema, List.forall_mem_cons, List.not_mem_nil, false_imp_iff,
          implies_true, and_true, Field.flag, Field.text, Field.group, Field.optional]
        repeat' first
          | apply And.intro
          | exact flag _
          | exact text _ _ (by decide)
          | exact groupKind _ (by constructor) (by decide)
    | _ => exact absurd root (by decide)
  · exact inGroup level root

theorem forall_fields {P : {β : Type} → Kind β → Prop} (flag : P Kind.flag)
    (text : ∀ bytes, P (Kind.text bytes))
    (choice : ∀ (β : Type) [Choice β] [BEq β] [LawfulBEq β] [LawfulChoice β], P (Choice.kind β))
    (record : ∀ {β : Type} {group : Schema β}, Level group →
      (∀ field ∈ group.fields, P field.kind) → P group.kind)
    (level : Level schema) : ∀ field ∈ schema.fields, P field.kind := by
  apply level.forall_keyed (P := fun _ kind => P kind)
  · exact fun _ => flag
  · exact fun _ bytes _ => text bytes
  · exact fun _ β => choice β
  · exact fun _ _ _ level fields => record level fields

end Level

end Specification

end FileSearch
