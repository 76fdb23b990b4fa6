import FileSearch.Proofs.Json.Schema
import Mathlib.Data.List.Basic
import Mathlib.Data.List.Nodup
import Mathlib.Data.List.Pairwise

/-!
# Fields as parts of records

The fields of a lawful schema are independent parts that together make up a record, and no document
has to mention any of them.
-/

set_option autoImplicit false

namespace FileSearch.Json

/-- Setting one of two fields leaves the other. -/
def Field.Independent {α : Type} (first second : Field α) : Prop :=
  (∀ value record, second.get (first.set value record) = second.get record) ∧
    ∀ value record, first.get (second.set value record) = first.get record

instance {α : Type} : Std.Symm (@Field.Independent α) where
  symm _ _ apart := apart.symm

namespace Schema

variable {α : Type} {schema : Schema α}

structure Lawful (schema : Schema α) : Prop extends schema.Faithful where
  optional : ∀ field ∈ schema.fields, field.required = false
  get_set : ∀ field ∈ schema.fields, ∀ value record, field.get (field.set value record) = value
  independent : schema.fields.Pairwise Field.Independent

/-- Records with the same fields are the same. -/
theorem Faithful.ext (faithful : schema.Faithful) {left right : α}
    (same : ∀ field ∈ schema.fields, field.get left = field.get right) : left = right := by
  have restored : schema.restored schema.fields left = schema.restored schema.fields right :=
    List.foldl_ext _ _ _ fun result field listed => by rw [same field listed]
  rwa [faithful.restores, faithful.restores] at restored

namespace Lawful

theorem get_set_of_ne (lawful : schema.Lawful) {field other : Field α}
    (listed : field ∈ schema.fields) (listedOther : other ∈ schema.fields)
    (different : field ≠ other) (value : field.Content) (record : α) :
    other.get (field.set value record) = other.get record := by
  exact (lawful.independent.forall listed listedOther different).1 value record

theorem set_get (lawful : schema.Lawful) {field : Field α} (listed : field ∈ schema.fields)
    (record : α) : field.set (field.get record) record = record := by
  apply lawful.ext
  intro other listedOther
  by_cases same : field = other
  · subst same
    exact lawful.get_set field listed _ record
  · exact lawful.get_set_of_ne listed listedOther same _ record

/-- Limits that leave each of some fields leave the record. -/
theorem foldl_limit_eq_self (lawful : schema.Lawful) {fields : List (Field α)}
    (listed : fields ⊆ schema.fields) {record : α}
    (within : ∀ field ∈ fields, field.kind.limit (field.get record) = field.get record) :
    fields.foldl (fun result field => field.set (field.kind.limit (field.get result)) result)
      record = record := by
  induction fields with
  | nil => rfl
  | cons field rest ih =>
      obtain ⟨first, others⟩ := List.cons_subset.mp listed
      obtain ⟨withinFirst, withinOthers⟩ := List.forall_mem_cons.mp within
      rw [List.foldl_cons, withinFirst, lawful.set_get first]
      exact ih others withinOthers

theorem limit_eq_self (lawful : schema.Lawful) {record : α}
    (within : ∀ field ∈ schema.fields, field.kind.limit (field.get record) = field.get record) :
    schema.limit record = record :=
  lawful.foldl_limit_eq_self (List.Subset.refl _) within

/-- Limits that leave every field but the first cut only that one. -/
theorem limit_eq_set_of_head (lawful : schema.Lawful) {field : Field α} {rest : List (Field α)}
    (fields : schema.fields = field :: rest) {record : α}
    (within : ∀ other ∈ rest, other.kind.limit (other.get record) = other.get record) :
    schema.limit record = field.set (field.kind.limit (field.get record)) record := by
  have first : field ∈ schema.fields := by rw [fields]; exact List.mem_cons_self
  have others : rest ⊆ schema.fields := by rw [fields]; exact List.subset_cons_self field rest
  have distinct := lawful.distinct
  rw [fields, List.map_cons, List.nodup_cons] at distinct
  rw [limit, fields, List.foldl_cons]
  apply lawful.foldl_limit_eq_self others
  intro other listed
  have different : field ≠ other := by
    rintro rfl
    exact distinct.1 (List.mem_map_of_mem listed)
  rw [lawful.get_set_of_ne first (others listed) different, within other listed]

/-- Limits of other fields leave a field. -/
theorem get_foldl_limit_of_notMem (lawful : schema.Lawful) {fields : List (Field α)}
    (listed : fields ⊆ schema.fields) {field : Field α} (listedField : field ∈ schema.fields)
    (notMem : field ∉ fields) (record : α) :
    field.get (fields.foldl
      (fun result other => other.set (other.kind.limit (other.get result)) result) record) =
        field.get record := by
  induction fields generalizing record with
  | nil => rfl
  | cons other rest ih =>
      obtain ⟨first, others⟩ := List.cons_subset.mp listed
      obtain ⟨different, notLater⟩ := not_or.mp (mt List.mem_cons.mpr notMem)
      rw [List.foldl_cons, ih others notLater,
        lawful.get_set_of_ne first listedField (Ne.symm different)]

theorem get_limit (lawful : schema.Lawful) {field : Field α} (listed : field ∈ schema.fields)
    (record : α) : field.get (schema.limit record) = field.kind.limit (field.get record) := by
  obtain ⟨front, back, fields⟩ := List.append_of_mem listed
  have distinct := List.Nodup.of_map Field.key lawful.distinct
  have inFront : front ⊆ schema.fields := by
    rw [fields]
    exact List.subset_append_left front _
  have inBack : back ⊆ schema.fields := by
    rw [fields]
    exact List.Subset.trans (List.subset_cons_self field back) (List.subset_append_right front _)
  rw [fields, List.nodup_append, List.nodup_cons] at distinct
  obtain ⟨-, ⟨notBack, -⟩, apart⟩ := distinct
  have notFront : field ∉ front := fun member => apart field member field List.mem_cons_self rfl
  rw [limit, fields, List.foldl_append, List.foldl_cons,
    lawful.get_foldl_limit_of_notMem inBack listed notBack, lawful.get_set field listed,
    lawful.get_foldl_limit_of_notMem inFront listed notFront]

end Lawful

end Schema

end FileSearch.Json
