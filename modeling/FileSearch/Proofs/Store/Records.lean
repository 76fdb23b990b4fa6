import FileSearch.Proofs.Store.Catalog

/-!
# Records of saves

A save answers with a record, and lists show one for what it has stored. The two differ where the
name of the first ends in a blank: lists trim names once more.
-/

set_option autoImplicit false

namespace FileSearch

open Text (trim truncate)
open Text.Slug (ofName)

namespace Storage.Contract

open Catalog (Names Lists record)

variable {State : Type} {storage : Storage State} {contract : storage.Contract} {state : State}
  {catalog : Catalog}

/-- Names under which a save is not refused. -/
def Accepted (name? : Option String) : Prop :=
  ∀ name, name? = some name → trim name ≠ ""

theorem Accepted.exists_names {name? : Option String} (accepted : Accepted name?)
    (specification : Specification) : ∃ name, Names specification name? name := by
  rcases Catalog.names_or_blank specification name? with named | ⟨name, given, blank⟩
  · exact named
  · exact absurd blank (accepted name given)

/-- Behind a save, what is listed under its slug is its record with the name trimmed. -/
theorem Holds.mem_list_of_slug (holds : contract.Holds state catalog) {entries : List SavedEntry}
    (listed : storage.list state = .ok entries) {slug : String} {specification : Specification}
    (found : catalog.lookup slug = some specification) (entry : SavedEntry) :
    entry ∈ entries ∧ entry.slug = slug ↔ entry = record storage.location slug specification := by
  obtain ⟨others, listedOthers, lists⟩ := holds.list
  rw [listed, Except.ok.injEq] at listedOthers
  subst listedOthers
  rw [lists.exact]
  constructor
  · rintro ⟨⟨other, foundOther, written⟩, rfl⟩
    rw [found, Option.some.injEq] at foundOther
    rw [foundOther, written]
  · rintro rfl
    exact ⟨⟨specification, found, rfl⟩, rfl⟩

theorem Holds.save_listed (holds : contract.Holds state catalog) {specification : Specification}
    {name? : Option String} {name : String} (names : Names specification name? name) :
    ∃ entry after entries, storage.save specification name? state = (.ok entry, after) ∧
      storage.list after = .ok entries ∧ entry.name = name ∧
      (∀ other, other ∈ entries ∧ other.slug = entry.slug ↔
        other = { entry with name := trim name }) ∧
      contract.get? after entry.slug = some (specification.canonical name).document := by
  obtain ⟨after, saved, holdsAfter⟩ := holds.save names
  obtain ⟨entries, listed, -⟩ := holdsAfter.list
  have named : (specification.canonical name).name = name := names.truncate_eq
  refine ⟨_, after, entries, saved, listed, rfl, ?_, ?_⟩
  · intro other
    rw [holdsAfter.mem_list_of_slug listed (Finmap.lookup_insert catalog) other, record, named]
  · rw [holdsAfter.stored, Finmap.lookup_insert, Option.map_some]

/-- A record is listed if the one that is listed in its place has its name. -/
theorem mem_iff_of_trimmed {entry : SavedEntry} {entries : List SavedEntry}
    (shown : ∀ other, other ∈ entries ∧ other.slug = entry.slug ↔
      other = { entry with name := trim entry.name }) :
    entry ∈ entries ↔ trim entry.name = entry.name := by
  constructor
  · intro member
    exact (congrArg SavedEntry.name ((shown entry).mp ⟨member, rfl⟩)).symm
  · intro trimmed
    refine ((shown entry).mpr ?_).1
    rw [trimmed]

/-- The record of a save is listed exactly when its name has no blank at its end, as every name has
that need not be cut. Otherwise what is listed in its place has the name without that blank. -/
theorem saved_listed_iff (reached : contract.Reached state) (specification : Specification)
    {name? : Option String} (accepted : Accepted name?) :
    ∃ entry after entries stored, storage.save specification name? state = (.ok entry, after) ∧
      storage.list after = .ok entries ∧
      (∀ other, other ∈ entries ∧ other.slug = entry.slug ↔
        other = { entry with name := trim entry.name }) ∧
      (entry ∈ entries ↔ trim entry.name = entry.name) ∧
      (∀ name, specification.savedName? name? = some name →
        name.utf8ByteSize ≤ Limit.name → entry ∈ entries) ∧
      contract.get? after entry.slug = some (Specification.document stored) ∧
      stored.name = entry.name := by
  obtain ⟨catalog, holds⟩ := reached.exists_holds
  obtain ⟨name, names⟩ := accepted.exists_names specification
  obtain ⟨entry, after, entries, saved, listed, rfl, shown, stored⟩ := holds.save_listed names
  have mem := mem_iff_of_trimmed shown
  refine ⟨entry, after, entries, _, saved, listed, shown, mem, ?_, stored, names.truncate_eq⟩
  intro whole given within
  obtain ⟨other, givenOther, cut⟩ := names.exists_savedName?
  rw [given, Option.some.injEq] at givenOther
  subst givenOther
  rw [Text.truncate_eq_self within] at cut
  rw [mem, ← cut]
  exact (Specification.savedName?_eq_some given).1

/-- A name with a blank before and behind it. -/
theorem saved_listed_report :
    ∃ entry after entries, Documents.storage.save {} (some " My report ") {} = (.ok entry, after) ∧
      Documents.storage.list after = .ok entries ∧ entry ∈ entries := by
  have accepted : Accepted (some " My report ") := by
    rintro name ⟨⟩
    decide
  obtain ⟨entry, after, entries, _, saved, listed, -, -, within, -, -⟩ :=
    saved_listed_iff Documents.contract_empty.reached {} accepted
  exact ⟨entry, after, entries, saved, listed, within "My report" (by decide) (by decide)⟩

/-- A name that ends in a blank once it is cut. -/
theorem saved_not_listed_cut :
    ∃ entry after entries,
      Documents.storage.save {} (some (String.ofList (List.replicate 126 'a' ++ [' ', 'b']))) {} =
        (.ok entry, after) ∧
      Documents.storage.list after = .ok entries ∧ entry ∉ entries := by
  have solid : trim (String.ofList (List.replicate 126 'a' ++ [' ', 'b'])) ≠ "" := by
    rw [ne_eq, Text.trim_eq_empty_iff, String.toList_ofList]
    decide +kernel
  have untrimmed : trim (truncate (trim (String.ofList (List.replicate 126 'a' ++ [' ', 'b'])))
      Limit.name) ≠ truncate (trim (String.ofList (List.replicate 126 'a' ++ [' ', 'b'])))
      Limit.name := by
    simp only [trim, truncate, String.toList_ofList, ne_eq, String.ofList_inj]
    decide +kernel
  obtain ⟨entry, after, entries, saved, listed, named, shown, -⟩ :=
    Documents.contract_empty.holds.save_listed (.given solid)
  refine ⟨entry, after, entries, saved, listed, ?_⟩
  rw [← named] at shown untrimmed
  rw [mem_iff_of_trimmed shown]
  exact untrimmed

end Storage.Contract

end FileSearch
