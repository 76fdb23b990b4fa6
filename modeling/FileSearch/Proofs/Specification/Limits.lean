import FileSearch.Proofs.Specification.Levels
import FileSearch.Proofs.Text.Truncate

/-!
# Specifications within their limits

Cutting changes nothing of a specification whose texts are within their limits, and the texts of a
specification that nobody has edited are.
-/

set_option autoImplicit false

namespace FileSearch.Specification

open Json (Schema Field Kind)

/-- Values in which no text is longer than its limit. -/
inductive Within : {β : Type} → Kind β → β → Prop where
  | flag {value : Bool} : Within Kind.flag value
  | choice {β : Type} [Choice β] [BEq β] {option : β} : Within (Choice.kind β) option
  | text {bytes : Nat} {value : String} : value.utf8ByteSize ≤ bytes →
      Within (Kind.text bytes) value
  | record {α : Type} {schema : Schema α} {record : α} : Level schema →
      (∀ field ∈ schema.fields, Within field.kind (field.get record)) →
      Within schema.kind record

theorem Within.limit_eq_self {β : Type} {kind : Kind β} {value : β}
    (within : Within kind value) : kind.limit value = value := by
  induction within with
  | flag => rfl
  | choice => rfl
  | text bound => exact Text.truncate_eq_self bound
  | record level _ ih => exact level.lawful.limit_eq_self ih

/-- Nothing is longer than its limit once the limits have been applied. -/
theorem Level.within_limit {α : Type} {schema : Schema α} (level : Level schema) :
    ∀ field ∈ schema.fields, ∀ value, Within field.kind (field.kind.limit value) := by
  refine level.forall_fields (P := fun kind => ∀ value, Within kind (kind.limit value)) ?_ ?_ ?_ ?_
  · exact fun _ => .flag
  · exact fun bytes value => .text (Text.utf8ByteSize_truncate_le value bytes)
  · exact fun _ _ _ _ _ _ => .choice
  · intro β group level within record
    refine .record level fun field listed => ?_
    change Within field.kind (field.get (group.limit record))
    rw [level.lawful.get_limit listed]
    exact within field listed _

theorem limited_limited (specification : Specification) :
    specification.limited.limited = specification.limited := by
  apply Level.root.lawful.limit_eq_self
  intro field listed
  have cut := Level.root.lawful.get_limit listed specification
  rw [limited, cut, (Level.root.within_limit field listed _).limit_eq_self]

private theorem Within.fresh_group {α : Type} {group : Schema α} (level : Level group)
    (notRoot : group.name ≠ schema.name) : Within group.kind group.initial := by
  apply Within.record level
  cases level with
  | root => exact absurd rfl notRoot
  | _ =>
      simp only [TextOptions.schema, NameOptions.schema, TimeOptions.schema, SizeOptions.schema,
        TypeOptions.schema, OwnershipOptions.schema, TraversalOptions.schema,
        ActionOptions.schema, List.forall_mem_cons, List.not_mem_nil, false_imp_iff, implies_true,
        and_true, Field.flag, Field.text, Field.choice, Field.optional]
      repeat' first
        | exact .flag
        | exact .choice
        | exact .text (by decide)
        | apply And.intro

/-- The texts that a specification starts with are within their limits. -/
theorem Within.fresh : ∀ field ∈ schema.fields, Within field.kind (field.get schema.initial) := by
  simp only [schema, List.forall_mem_cons, List.not_mem_nil, false_imp_iff, implies_true, and_true,
    Field.flag, Field.text, Field.optional, Field.group]
  repeat' first
    | exact .flag
    | exact .text (by decide)
    | exact fresh_group (by constructor) (by decide)
    | apply And.intro

/-- If all other texts of a specification are within their limits, only its name is cut. -/
theorem limited_eq_of_within {specification : Specification}
    (within : ∀ field ∈ schema.fields, field.key ≠ "specName" →
      Within field.kind (field.get specification)) :
    specification.limited =
      { specification with name := Text.truncate specification.name Limit.name } := by
  obtain ⟨rest, fields⟩ : ∃ rest, schema.fields = Field.text "specName" Limit.name (·.name)
      (fun value specification => { specification with name := value }) :: rest := ⟨_, rfl⟩
  have distinct := schema_faithful.distinct
  rw [fields, List.map_cons, List.nodup_cons] at distinct
  apply Level.root.lawful.limit_eq_set_of_head fields
  intro field listed
  have notName : field.key ≠ "specName" := fun same =>
    distinct.1 (List.mem_map.mpr ⟨field, listed, same⟩)
  exact (within field (fields ▸ List.mem_cons_of_mem _ listed) notName).limit_eq_self

end FileSearch.Specification
