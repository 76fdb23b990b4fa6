import FileSearch.Proofs.Specification.Document
import FileSearch.Proofs.Text.Slug
import FileSearch.Proofs.Text.Truncate
import FileSearch.Store.Basic

/-!
# Saved names and lists

The name that a specification is saved under is never blank, whatever is cut from it, and lists of
saved specifications are in order.
-/

set_option autoImplicit false

namespace FileSearch

/-! ## The order of lists -/

namespace SavedEntry

theorem comesBefore_iff {left right : SavedEntry} :
    comesBefore left right = true ↔
      left.name < right.name ∨ left.name = right.name ∧ left.slug ≤ right.slug := by
  simp only [comesBefore, Bool.or_eq_true, Bool.and_eq_true, decide_eq_true_eq, beq_iff_eq]

theorem comesBefore_trans {first second third : SavedEntry}
    (before : comesBefore first second = true) (after : comesBefore second third = true) :
    comesBefore first third = true := by
  rw [comesBefore_iff] at before after ⊢
  rcases before with less | ⟨same, slugs⟩ <;> rcases after with lessAfter | ⟨sameAfter, slugsAfter⟩
  · exact .inl (String.lt_trans less lessAfter)
  · exact .inl (sameAfter ▸ less)
  · exact .inl (same ▸ lessAfter)
  · exact .inr ⟨same.trans sameAfter, String.le_trans slugs slugsAfter⟩

theorem comesBefore_total (left right : SavedEntry) :
    (comesBefore left right || comesBefore right left) = true := by
  rw [Bool.or_eq_true, comesBefore_iff, comesBefore_iff]
  by_cases less : left.name < right.name
  · exact .inl (.inl less)
  · by_cases greater : right.name < left.name
    · exact .inr (.inl greater)
    · have same := String.le_antisymm greater less
      rcases String.le_total left.slug right.slug with slugs | slugs
      · exact .inl (.inr ⟨same, slugs⟩)
      · exact .inr (.inr ⟨same.symm, slugs⟩)

/-- The strict order of lists: by name, then by slug. -/
def Precedes (left right : SavedEntry) : Prop :=
  left.name < right.name ∨ left.name = right.name ∧ left.slug < right.slug

instance : Std.Irrefl Precedes where
  irrefl entry precedes := by
    rcases precedes with less | ⟨_, less⟩
    · exact String.lt_irrefl _ less
    · exact String.lt_irrefl _ less

instance : Std.Antisymm Precedes where
  antisymm left right before after := by
    rcases before with less | ⟨same, less⟩ <;> rcases after with greater | ⟨sameAfter, greater⟩
    · exact absurd (String.lt_trans less greater) (String.lt_irrefl _)
    · exact absurd (sameAfter ▸ less) (String.lt_irrefl _)
    · exact absurd (same ▸ greater) (String.lt_irrefl _)
    · exact absurd (String.lt_trans less greater) (String.lt_irrefl _)

theorem precedes_of_comesBefore {left right : SavedEntry}
    (before : comesBefore left right = true) (different : left.slug ≠ right.slug) :
    left.Precedes right := by
  rcases comesBefore_iff.mp before with less | ⟨same, atMost⟩
  · exact .inl less
  · refine .inr ⟨same, String.not_le.mp fun atLeast => ?_⟩
    exact different (String.le_antisymm atMost atLeast)

theorem pairwise_precedes_mergeSort {entries : List SavedEntry}
    (distinct : (entries.map SavedEntry.slug).Nodup) :
    (entries.mergeSort comesBefore).Pairwise Precedes := by
  have ordered := @List.pairwise_mergeSort SavedEntry comesBefore
    (fun _ _ _ => comesBefore_trans) comesBefore_total entries
  rw [← ((List.mergeSort_perm entries comesBefore).map SavedEntry.slug).nodup_iff] at distinct
  exact ordered.imp₂ (fun _ _ => precedes_of_comesBefore) (List.pairwise_map.mp distinct)

end SavedEntry

/-! ## Saved names -/

namespace Specification

theorem canonical_name (specification : Specification) (name : String) :
    (specification.canonical name).name = Text.truncate name Limit.name :=
  rfl

/-- The name is the first field to be cut, so it may as well be cut before. -/
theorem canonical_truncate (specification : Specification) (name : String) :
    specification.canonical (Text.truncate name Limit.name) = specification.canonical name := by
  have limited : ({ specification with name := Text.truncate name Limit.name } :
      Specification).limited = ({ specification with name } : Specification).limited := by
    refine Json.Schema.limit_eq_of_head (show schema.fields = _ :: _ from rfl) ?_
    change { specification with
      name := Text.truncate (Text.truncate name Limit.name) Limit.name } =
      { specification with name := Text.truncate name Limit.name }
    rw [Text.truncate_truncate]
  rw [canonical, canonical, limited]

theorem trim_canonical_name (specification : Specification) {name : String}
    (within : (Text.trim name).utf8ByteSize ≤ Limit.name) :
    Text.trim (specification.canonical (Text.trim name)).name = Text.trim name := by
  rw [canonical_name, Text.truncate_eq_self within, Text.trim_trim]

theorem savedName?_eq_some {specification : Specification} {name? : Option String} {name : String}
    (named : specification.savedName? name? = some name) :
    Text.trim name = name ∧ Text.trim name ≠ "" := by
  cases name? with
  | some given =>
      simp only [savedName?, String.isEmpty_iff, Option.ite_none_left_eq_some,
        Option.some.injEq] at named
      obtain ⟨solid, rfl⟩ := named
      rw [Text.trim_trim]
      exact ⟨rfl, solid⟩
  | none =>
      simp only [savedName?, String.isEmpty_iff, Option.some.injEq] at named
      by_cases blank : Text.trim specification.name = ""
      · rw [if_pos blank] at named
        subst named
        decide
      · rw [if_neg blank] at named
        subst named
        rw [Text.trim_trim]
        exact ⟨rfl, blank⟩

/-- What a store promises of a specification under a slug: its name is not blank and stands for the
slug. -/
structure IsKeptUnder (specification : Specification) (slug : String) : Prop where
  named : Text.trim specification.name ≠ ""
  slug_eq : Text.Slug.ofName specification.name = slug

theorem isKeptUnder_canonical {specification : Specification} {name? : Option String}
    {name : String} (named : specification.savedName? name? = some name) :
    (specification.canonical name).IsKeptUnder
      (Text.Slug.ofName (Text.truncate name Limit.name)) where
  named := by
    obtain ⟨trimmed, solid⟩ := savedName?_eq_some named
    rw [canonical_name]
    exact Text.trim_truncate_ne_empty (by decide) trimmed solid
  slug_eq := by rw [canonical_name]

end Specification

/-! ## Lists -/

namespace Storage

variable {State : Type} {storage : Storage State} {state : State}

theorem saved?_slug {slug : String} {entry : SavedEntry}
    (saved : storage.saved? state slug = some entry) : entry.slug = slug := by
  rw [saved?, Option.map_eq_some_iff] at saved
  obtain ⟨_, _, rfl⟩ := saved
  rfl

private theorem map_slug_filterMap_sublist (storage : Storage State) (state : State)
    (slugs : List String) :
    ((slugs.filterMap (storage.saved? state)).map SavedEntry.slug).Sublist slugs := by
  induction slugs with
  | nil => exact List.Sublist.slnil
  | cons slug rest ih =>
      cases saved : storage.saved? state slug with
      | none =>
          rw [List.filterMap_cons_none saved]
          exact ih.cons slug
      | some entry =>
          rw [List.filterMap_cons_some saved, List.map_cons, saved?_slug saved]
          exact ih.cons_cons slug

/-- A list that can be made is in order, has one record for each slug and has each specification
that can be read. -/
theorem list_spec {slugs : List String} (found : storage.slugs state = .ok slugs)
    (distinct : slugs.Nodup) :
    ∃ entries, storage.list state = .ok entries ∧ entries.Pairwise SavedEntry.Precedes ∧
      (entries.map SavedEntry.slug).Nodup ∧
      ∀ entry, entry ∈ entries ↔
        entry.slug ∈ slugs ∧ storage.saved? state entry.slug = some entry := by
  have perm := List.mergeSort_perm (slugs.filterMap (storage.saved? state)) SavedEntry.comesBefore
  have distinctSlugs := distinct.sublist
    (map_slug_filterMap_sublist storage state slugs)
  refine ⟨(slugs.filterMap (storage.saved? state)).mergeSort SavedEntry.comesBefore,
    by rw [list, found], SavedEntry.pairwise_precedes_mergeSort distinctSlugs, ?_, ?_⟩
  · rwa [(perm.map SavedEntry.slug).nodup_iff]
  · intro entry
    rw [perm.mem_iff, List.mem_filterMap]
    constructor
    · rintro ⟨slug, member, saved⟩
      rw [saved?_slug saved]
      exact ⟨member, saved⟩
    · rintro ⟨member, saved⟩
      exact ⟨entry.slug, member, saved⟩

end Storage

end FileSearch
