import FileSearch.Proofs.Specification.Limits

/-!
# What the limits leave

Every text of a specification has a limit, by its key. Of each text the limits leave the longest
part from its beginning that is within its own one, and all else of a specification they leave as it
is. A specification is left whole exactly when all its texts are within their limits.
-/

set_option autoImplicit false

namespace FileSearch.Specification

open Json (Schema Kind)

/-- What the limits leave of the value of a field: of a text the longest part within the limit of
the key, flags and choices themselves, and of a record what they leave of its fields. -/
inductive CutTo : {β : Type} → String → Kind β → β → β → Prop where
  | flag {key : String} {value : Bool} : CutTo key Kind.flag value value
  | choice {β : Type} [Choice β] [BEq β] {key : String} {option : β} :
      CutTo key (Choice.kind β) option option
  | text {key : String} {bytes : Nat} {value part : String} :
      Limit.ofKey? key = some bytes → Text.IsCut bytes value part →
      CutTo key (Kind.text bytes) value part
  | record {α : Type} {schema : Schema α} {key : String} {record left : α} : Level schema →
      (∀ field ∈ schema.fields, CutTo field.key field.kind (field.get record) (field.get left)) →
      CutTo key schema.kind record left

/-- No field is forgotten: what is left of the fields of a record settles what is left of it. -/
theorem CutTo.limit_eq {β : Type} {key : String} {kind : Kind β} {value left : β}
    (cut : CutTo key kind value left) : kind.limit value = left := by
  induction cut with
  | flag => rfl
  | choice => rfl
  | text _ longest => exact longest.truncate_eq
  | record level _ ih =>
      apply level.lawful.ext
      intro field listed
      exact (level.lawful.get_limit listed _).trans (ih field listed)

theorem Level.cutTo_limit {α : Type} {schema : Schema α} (level : Level schema) :
    ∀ field ∈ schema.fields, ∀ value,
      CutTo field.key field.kind value (field.kind.limit value) := by
  apply level.forall_keyed (P := fun key kind => ∀ value, CutTo key kind value (kind.limit value))
  · exact fun _ _ => .flag
  · exact fun _ bytes limited value => .text limited (Text.isCut_truncate value bytes)
  · exact fun _ _ _ _ _ _ _ => .choice
  · intro key β group level fields record
    refine .record level fun field listed => ?_
    change CutTo field.key field.kind _ (field.get (group.limit record))
    rw [level.lawful.get_limit listed]
    exact fields field listed _

theorem cutTo_limited (specification : Specification) :
    CutTo "" schema.kind specification specification.limited := by
  refine .record .root fun field listed => ?_
  rw [limited, Level.root.lawful.get_limit listed]
  exact Level.root.cutTo_limit field listed _

/-- The limits leave the longest part of each text at all levels and all else, and nothing besides:
this settles every field. They leave a specification whole exactly when it is within them, and so
they do the second time. -/
theorem limited_eq_iff_cutTo (specification : Specification) :
    (∀ left, specification.limited = left ↔ CutTo "" schema.kind specification left) ∧
      (specification.limited = specification ↔ Within schema.kind specification) ∧
      specification.limited.limited = specification.limited := by
  refine ⟨fun left => ?_, ?_, limited_limited specification⟩
  · constructor
    · intro same
      rw [← same]
      exact cutTo_limited specification
    · exact CutTo.limit_eq
  · constructor
    · intro same
      refine .record .root fun field listed => ?_
      rw [← same, limited, Level.root.lawful.get_limit listed]
      exact Level.root.within_limit field listed _
    · exact Within.limit_eq_self

end FileSearch.Specification
