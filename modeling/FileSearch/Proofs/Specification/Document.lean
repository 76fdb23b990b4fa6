import FileSearch.Proofs.Json.Schema
import FileSearch.Specification.Document

/-!
# Specifications read back

The document of a specification is read as that specification: the keys of each group are distinct,
and its fields together make up the whole group.
-/

set_option autoImplicit false

namespace FileSearch

open Json (Schema Field Kind)

/-! ## Choices -/

/-- Choices that list all their options, at positions that a document can hold. -/
class LawfulChoice (β : Type) [Choice β] : Prop where
  complete : ∀ option : β, option ∈ Choice.options
  few : (Choice.options (β := β)).length ≤ 65536

namespace Choice

variable {β : Type} [Choice β] [BEq β] [LawfulBEq β] [LawfulChoice β]

theorem ofOrdinal_ordinal (option : β) : ofOrdinal (ordinal option) = option := by
  have position := List.idxOf_lt_length_of_mem (LawfulChoice.complete option)
  rw [ofOrdinal, ordinal, List.getElem?_eq_getElem position, Option.getD_some,
    List.getElem_idxOf position]

theorem kind_faithful : (Choice.kind β).Faithful := by
  intro option layout level gap rest spaces ends
  have position : ordinal option < (Choice.options (β := β)).length :=
    List.idxOf_lt_length_of_mem (LawfulChoice.complete option)
  have few := LawfulChoice.few (β := β)
  have number := Json.readInteger_toString 0 65535 (ordinal option) .unsigned16 spaces ends
    (by omega) (by omega) (by unfold Json.maxInteger; omega)
  change (Json.readOrdinal (gap ++ ((toString (ordinal option : Int)).toList ++ rest))).map _ = _
  rw [Json.readOrdinal, number]
  simp only [Except.map, Int.toNat_natCast, ofOrdinal_ordinal]

end Choice

instance : LawfulChoice MatchMode := ⟨by intro option; cases option <;> decide, by decide⟩

instance : LawfulChoice PathTest := ⟨by intro option; cases option <;> decide, by decide⟩

instance : LawfulChoice Period := ⟨by intro option; cases option <;> decide, by decide⟩

instance : LawfulChoice BitComparison := ⟨by intro option; cases option <;> decide, by decide⟩

instance : LawfulChoice LinkMode := ⟨by intro option; cases option <;> decide, by decide⟩

instance : LawfulChoice Warnings := ⟨by intro option; cases option <;> decide, by decide⟩

instance : LawfulChoice ExecMode := ⟨by intro option; cases option <;> decide, by decide⟩

/-! ## Fields -/

namespace Json.Field

variable {α β : Type}

@[simp] theorem flag_faithful (key : String) (get : α → Bool) (set : Bool → α → α) :
    (Field.flag key get set).kind.Faithful :=
  Kind.flag_faithful

@[simp] theorem text_faithful (key : String) (bytes : Nat) (get : α → String)
    (set : String → α → α) : (Field.text key bytes get set).kind.Faithful :=
  Kind.text_faithful bytes

@[simp] theorem choice_faithful [Choice β] [BEq β] [LawfulBEq β] [LawfulChoice β] (key : String)
    (get : α → β) (set : β → α → α) : (Field.choice key get set).kind.Faithful := by
  have faithful : (Choice.kind β).Faithful := Choice.kind_faithful
  exact faithful

theorem group_faithful {schema : Schema β} (faithful : schema.Faithful) (key : String)
    (get : α → β) (set : β → α → α) : (Field.group key schema get set).kind.Faithful :=
  faithful.kind

end Json.Field

/-! ## Groups -/

theorem TextOptions.schema_faithful : TextOptions.schema.Faithful where
  distinct := by decide
  kinds := by simp [TextOptions.schema]
  restores record := by
    simp only [Schema.restored, TextOptions.schema, List.foldl_cons, List.foldl_nil, Field.choice,
      Field.flag, Field.optional]

theorem NameOptions.schema_faithful : NameOptions.schema.Faithful where
  distinct := by decide
  kinds := by simp [NameOptions.schema]
  restores record := by
    simp only [Schema.restored, NameOptions.schema, List.foldl_cons, List.foldl_nil, Field.choice,
      Field.flag, Field.text, Field.optional]

theorem TimeOptions.schema_faithful : TimeOptions.schema.Faithful where
  distinct := by decide
  kinds := by simp [TimeOptions.schema]
  restores record := by
    simp only [Schema.restored, TimeOptions.schema, List.foldl_cons, List.foldl_nil, Field.choice,
      Field.flag, Field.text, Field.optional]

theorem SizeOptions.schema_faithful : SizeOptions.schema.Faithful where
  distinct := by decide
  kinds := by simp [SizeOptions.schema]
  restores record := by
    simp only [Schema.restored, SizeOptions.schema, List.foldl_cons, List.foldl_nil, Field.flag,
      Field.text, Field.optional]

theorem TypeOptions.schema_faithful : TypeOptions.schema.Faithful where
  distinct := by decide
  kinds := by simp [TypeOptions.schema]
  restores record := by
    simp only [Schema.restored, TypeOptions.schema, List.foldl_cons, List.foldl_nil, Field.flag,
      Field.text, Field.optional]

theorem OwnershipOptions.schema_faithful : OwnershipOptions.schema.Faithful where
  distinct := by decide
  kinds := by simp [OwnershipOptions.schema]
  restores record := by
    simp only [Schema.restored, OwnershipOptions.schema, List.foldl_cons, List.foldl_nil,
      Field.choice, Field.flag, Field.text, Field.optional]

theorem TraversalOptions.schema_faithful : TraversalOptions.schema.Faithful where
  distinct := by decide
  kinds := by simp [TraversalOptions.schema]
  restores record := by
    simp only [Schema.restored, TraversalOptions.schema, List.foldl_cons, List.foldl_nil,
      Field.choice, Field.flag, Field.text, Field.optional]

theorem ActionOptions.schema_faithful : ActionOptions.schema.Faithful where
  distinct := by decide
  kinds := by simp [ActionOptions.schema]
  restores record := by
    simp only [Schema.restored, ActionOptions.schema, List.foldl_cons, List.foldl_nil, Field.choice,
      Field.flag, Field.text, Field.optional]

namespace Specification

theorem schema_faithful : schema.Faithful where
  distinct := by decide
  kinds := by
    simp [schema, Field.group_faithful, TextOptions.schema_faithful, NameOptions.schema_faithful,
      TimeOptions.schema_faithful, SizeOptions.schema_faithful, TypeOptions.schema_faithful,
      OwnershipOptions.schema_faithful, TraversalOptions.schema_faithful,
      ActionOptions.schema_faithful]
  restores record := by
    simp only [Schema.restored, schema, List.foldl_cons, List.foldl_nil, Field.text, Field.flag,
      Field.group, Field.optional]

theorem ofDocument_document (specification : Specification) :
    ofDocument specification.document = .ok specification := by
  have lineEnd : Json.IsGap ['\n'] := by simp [Json.IsGap, Json.isSpace]
  have read := schema_faithful.readDocument_write specification .pretty lineEnd
  rwa [String.ofList_append] at read

/-- A specification comes back whole from its document, and from the same fields written in either
layout with nothing behind them. -/
theorem ofDocument_written (specification : Specification) :
    ofDocument specification.document = .ok specification ∧
      ∀ layout : Json.Layout,
        ofDocument ((schema.write specification).document layout) = .ok specification := by
  refine ⟨ofDocument_document specification, fun layout => ?_⟩
  have nothing : Json.IsGap [] := by simp [Json.IsGap]
  have read := schema_faithful.readDocument_write specification layout nothing
  rwa [List.append_nil] at read

end Specification

end FileSearch
