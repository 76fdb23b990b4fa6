import FileSearch.Proofs.Store.Catalog

/-!
# Finding saved specifications again

Which slugs and names lead back to a document that was saved. A record's slug does unless it ends in
a dash, the name of a save does unless the cut of a long name changes its slug, and a document stays
until another is saved under a name with the same slug.
-/

set_option autoImplicit false

namespace FileSearch

open Text (trim truncate)
open Text.Slug (ofName dropTrailingDashes)

namespace Storage.Contract

variable {State : Type} {storage : Storage State} {contract : storage.Contract} {state : State}
  {catalog : Catalog}

/-! ## Slugs of records -/

/-- Loading and removing under some text concern the document with a slug, and no other. -/
structure ActsOn (contract : storage.Contract) (state : State) (nameOrSlug slug : String) :
    Prop where
  loads : storage.load state nameOrSlug = .ok (storage.specification? state slug)
  removes : ∃ after, storage.remove nameOrSlug state =
      (.ok (contract.get? state slug).isSome, after) ∧
    ∀ key, contract.get? after key = if key = slug then none else contract.get? state key

/-- A slug loads the document that is stored under it, and removes that document and no other. -/
structure LeadsBack (contract : storage.Contract) (state : State) (slug : String) : Prop where
  loads : ∃ specification : Specification,
    contract.get? state slug = some specification.document ∧
      storage.load state slug = .ok (some specification)
  removes : ∃ after, storage.remove slug state = (.ok true, after) ∧
    ∀ key, contract.get? after key = if key = slug then none else contract.get? state key

/-- The records that a store hands out: those that it lists, and those that it answers to saves. -/
inductive HandsOut (contract : storage.Contract) : State → SavedEntry → Prop where
  | listed {state : State} {entries : List SavedEntry} {entry : SavedEntry} :
      contract.Reached state → storage.list state = .ok entries → entry ∈ entries →
      HandsOut contract state entry
  | saved {before after : State} {specification : Specification} {name? : Option String}
      {entry : SavedEntry} :
      contract.Reached before →
      storage.save specification name? before = (.ok entry, after) →
      HandsOut contract after entry

theorem Holds.actsOn (holds : contract.Holds state catalog) {nameOrSlug : String}
    (solid : trim nameOrSlug ≠ "") : contract.ActsOn state nameOrSlug (ofName nameOrSlug) where
  loads := by
    rw [holds.load, holds.specification?, Catalog.find?, if_neg solid, Text.Slug.ofName_trim]
  removes := by
    obtain ⟨after, removed, holdsAfter⟩ := holds.remove nameOrSlug
    rw [Catalog.find?, if_neg solid, Text.Slug.ofName_trim] at removed
    rw [Catalog.discard, if_neg solid, Text.Slug.ofName_trim] at holdsAfter
    refine ⟨after, ?_, ?_⟩
    · rw [removed, holds.stored, Option.isSome_map]
    · intro key
      rw [holdsAfter.stored, Catalog.lookup_erase_eq, holds.stored]
      split <;> rfl

theorem Holds.leadsBack_iff (holds : contract.Holds state catalog) {slug : String}
    {specification : Specification} (found : catalog.lookup slug = some specification) :
    contract.LeadsBack state slug ↔ slug.toList.getLast? ≠ some '-' := by
  have kept := holds.kept slug specification found
  have fixed := Text.Slug.ofName_ofName_eq_iff specification.name
  have solid := Text.Slug.trim_ofName_ne_empty specification.name
  rw [kept.slug_eq] at fixed solid
  have acts := holds.actsOn solid
  have stored : contract.get? state slug = some specification.document := by
    rw [holds.stored, found, Option.map_some]
  rw [← fixed]
  constructor
  · -- Removing under another slug leaves this document.
    intro leadsBack
    by_contra elsewhere
    obtain ⟨after, removed, rest⟩ := leadsBack.removes
    obtain ⟨other, removedOther, restOther⟩ := acts.removes
    have same : after = other := congrArg Prod.snd (removed.symm.trans removedOther)
    have gone := rest slug
    have stays := restOther slug
    rw [if_pos rfl] at gone
    rw [if_neg (Ne.symm elsewhere), ← same, gone, stored] at stays
    cases stays
  · intro same
    obtain ⟨loads, removes⟩ := acts
    have read := holds.specification? slug
    rw [same, stored, Option.isSome_some] at removes
    rw [read, same, found] at loads
    exact ⟨⟨specification, stored, loads⟩, removes⟩

theorem HandsOut.exists_holds {entry : SavedEntry} (handsOut : contract.HandsOut state entry) :
    ∃ (catalog : Catalog) (specification : Specification), contract.Holds state catalog ∧
      catalog.lookup entry.slug = some specification := by
  cases handsOut with
  | listed reached listed member =>
      obtain ⟨catalog, holds⟩ := reached.exists_holds
      obtain ⟨entries, listedEntries, lists⟩ := holds.list
      rw [listed, Except.ok.injEq] at listedEntries
      subst listedEntries
      obtain ⟨specification, found, -⟩ := (lists.exact entry).mp member
      exact ⟨catalog, specification, holds, found⟩
  | saved reached saved =>
      obtain ⟨catalog, holds⟩ := reached.exists_holds
      obtain ⟨-, -, holdsAfter⟩ := holds.of_saved saved
      exact ⟨_, _, holdsAfter, Finmap.lookup_insert _⟩

/-- The slug of a record leads back to its document exactly when it does not end in a dash. In any
case it acts on the document whose slug is the one without that dash. -/
theorem leadsBack_slug_iff {entry : SavedEntry} (handsOut : contract.HandsOut state entry) :
    (contract.LeadsBack state entry.slug ↔ entry.slug.toList.getLast? ≠ some '-') ∧
      contract.ActsOn state entry.slug (String.ofList (dropTrailingDashes entry.slug.toList)) := by
  obtain ⟨catalog, specification, holds, found⟩ := handsOut.exists_holds
  have kept := holds.kept _ _ found
  have solid := Text.Slug.trim_ofName_ne_empty specification.name
  have stripped := Text.Slug.ofName_ofName specification.name
  rw [kept.slug_eq] at solid stripped
  have acts := holds.actsOn solid
  rw [stripped] at acts
  exact ⟨holds.leadsBack_iff found, acts⟩

theorem leadsBack_slug_report :
    ∃ (documents : Documents) (entry : SavedEntry),
      Documents.contract.HandsOut documents entry ∧ entry.slug = "my-report" ∧
      Documents.contract.LeadsBack documents entry.slug := by
  have names : Catalog.Names {} (some "My report") (truncate (trim "My report") Limit.name) :=
    .given (by decide)
  have slug : ofName (truncate (trim "My report") Limit.name) = "my-report" := by decide
  obtain ⟨after, saved, -⟩ := Documents.contract_empty.holds.save names
  have handsOut : Documents.contract.HandsOut after _ :=
    .saved Documents.contract_empty.reached saved
  refine ⟨after, _, handsOut, slug, (leadsBack_slug_iff handsOut).1.mpr ?_⟩
  rw [slug]
  decide

/-- A name whose slug is cut just behind a dash. -/
theorem not_leadsBack_slug_cut :
    ∃ (documents : Documents) (entry : SavedEntry),
      Documents.contract.HandsOut documents entry ∧
      entry.slug = String.ofList (List.replicate 63 'a' ++ ['-']) ∧
      ¬ Documents.contract.LeadsBack documents entry.slug := by
  have solid : trim (String.ofList (List.replicate 63 'a' ++ [' ', 'b'])) ≠ "" := by
    rw [ne_eq, Text.trim_eq_empty_iff, String.toList_ofList]
    decide +kernel
  have slug : ofName (truncate (trim (String.ofList (List.replicate 63 'a' ++ [' ', 'b'])))
      Limit.name) = String.ofList (List.replicate 63 'a' ++ ['-']) := by
    simp only [ofName, truncate, trim, String.toList_ofList, String.ofList_inj]
    decide +kernel
  have names : Catalog.Names {} _ _ := .given solid
  obtain ⟨after, saved, holds⟩ := Documents.contract_empty.holds.save names
  refine ⟨after, _, .saved Documents.contract_empty.reached saved, slug, ?_⟩
  rw [holds.leadsBack_iff (Finmap.lookup_insert _), slug, String.toList_ofList]
  decide +kernel

/-! ## Names of saves -/

/-- A save under a given name that is not blank. -/
theorem Holds.save_given (holds : contract.Holds state catalog) (specification : Specification)
    {name : String} (solid : trim name ≠ "") :
    ∃ entry after, storage.save specification (some name) state = (.ok entry, after) ∧
      entry.slug = ofName (truncate (trim name) Limit.name) ∧
      contract.Holds after (catalog.insert (ofName (truncate (trim name) Limit.name))
        (specification.canonical (trim name))) := by
  obtain ⟨after, saved, holdsAfter⟩ := holds.save (.given solid)
  rw [Specification.canonical_truncate] at holdsAfter
  exact ⟨_, after, saved, rfl, holdsAfter⟩

theorem Holds.load_of_solid (holds : contract.Holds state catalog) {name : String}
    (solid : trim name ≠ "") : storage.load state name = .ok (catalog.lookup (ofName name)) := by
  rw [holds.load, Catalog.find?, if_neg solid, Text.Slug.ofName_trim]

/-- Saving and then loading under one name gives back what was saved exactly when the cut of the
name does not change its slug. Otherwise the name loads what it loaded before. -/
theorem load_saved_name_iff (reached : contract.Reached state) (specification : Specification)
    {name : String} (solid : trim name ≠ "") :
    ∃ entry after, storage.save specification (some name) state = (.ok entry, after) ∧
      contract.get? after entry.slug = some (specification.canonical (trim name)).document ∧
      (storage.load after name = .ok (some (specification.canonical (trim name))) ↔
        ofName name = ofName (truncate (trim name) Limit.name)) ∧
      ((trim name).utf8ByteSize ≤ Limit.name →
        storage.load after name = .ok (some (specification.canonical (trim name)))) ∧
      (ofName name ≠ ofName (truncate (trim name) Limit.name) →
        storage.load after name = storage.load state name) := by
  obtain ⟨catalog, holds⟩ := reached.exists_holds
  obtain ⟨entry, after, saved, slug, holdsAfter⟩ := holds.save_given specification solid
  have found (same : ofName name = ofName (truncate (trim name) Limit.name)) :
      storage.load after name = .ok (some (specification.canonical (trim name))) := by
    rw [holdsAfter.load_of_solid solid, same, Finmap.lookup_insert]
  have missed (different : ofName name ≠ ofName (truncate (trim name) Limit.name)) :
      storage.load after name = storage.load state name := by
    rw [holdsAfter.load_of_solid solid, holds.load_of_solid solid,
      Finmap.lookup_insert_of_ne _ different]
  refine ⟨entry, after, saved, ?_, ⟨?_, found⟩, ?_, missed⟩
  · rw [slug, holdsAfter.stored, Finmap.lookup_insert, Option.map_some]
  · -- What was there before has a name with the slug it is kept under.
    intro loaded
    by_contra different
    rw [missed different, holds.load_of_solid solid, Except.ok.injEq] at loaded
    have kept := holds.kept _ _ loaded
    exact different kept.slug_eq.symm
  · intro within
    apply found
    rw [Text.truncate_eq_self within, Text.Slug.ofName_trim]

theorem load_saved_name_report :
    ∃ entry after, Documents.storage.save {} (some " My report") {} = (.ok entry, after) ∧
      Documents.storage.load after " My report" =
        .ok (some (({} : Specification).canonical "My report")) := by
  have solid : trim " My report" ≠ "" := by decide
  have trimmed : trim " My report" = "My report" := by decide
  obtain ⟨entry, after, saved, -, -, short, -⟩ :=
    load_saved_name_iff Documents.contract_empty.reached {} solid
  rw [trimmed] at short
  exact ⟨entry, after, saved, short (by decide)⟩

/-- A name whose only letter is cut away. -/
theorem load_saved_name_cut :
    ∃ entry after, Documents.storage.save {} (some (String.ofList (List.replicate 127 '-' ++ ['a'])))
        {} = (.ok entry, after) ∧
      Documents.storage.load after (String.ofList (List.replicate 127 '-' ++ ['a'])) = .ok none := by
  have solid : trim (String.ofList (List.replicate 127 '-' ++ ['a'])) ≠ "" := by
    rw [ne_eq, Text.trim_eq_empty_iff, String.toList_ofList]
    decide +kernel
  have different : ofName (String.ofList (List.replicate 127 '-' ++ ['a'])) ≠
      ofName (truncate (trim (String.ofList (List.replicate 127 '-' ++ ['a']))) Limit.name) := by
    simp only [ofName, truncate, trim, String.toList_ofList, ne_eq, String.ofList_inj]
    decide +kernel
  obtain ⟨entry, after, saved, -, holds⟩ := Documents.contract_empty.holds.save_given {} solid
  refine ⟨entry, after, saved, ?_⟩
  rw [holds.load_of_solid solid, Finmap.lookup_insert_of_ne _ different, Finmap.lookup_empty]

/-! ## Two saves -/

theorem Holds.save_within (holds : contract.Holds state catalog) (specification : Specification)
    {name : String} (solid : trim name ≠ "") (within : (trim name).utf8ByteSize ≤ Limit.name) :
    ∃ entry after, storage.save specification (some name) state = (.ok entry, after) ∧
      contract.Holds after
        (catalog.insert (ofName name) (specification.canonical (trim name))) := by
  obtain ⟨entry, after, saved, -, holdsAfter⟩ := holds.save_given specification solid
  rw [Text.truncate_eq_self within, Text.Slug.ofName_trim] at holdsAfter
  exact ⟨entry, after, saved, holdsAfter⟩

/-- No record has a name whose slug holds a specification of another name. -/
theorem Holds.not_mem_list_names (holds : contract.Holds state catalog)
    {entries : List SavedEntry} (listed : storage.list state = .ok entries) {name : String}
    {specification : Specification} (found : catalog.lookup (ofName name) = some specification)
    (different : trim specification.name ≠ name) : name ∉ entries.map SavedEntry.name := by
  rw [holds.mem_list_names_iff listed]
  rintro ⟨other, foundOther, named⟩
  rw [found, Option.some.injEq] at foundOther
  rw [foundOther] at different
  exact different named

/-- After two saves under different names, both documents are there exactly when the names have
different slugs. Otherwise the second has replaced the first. -/
theorem both_saved_iff (reached : contract.Reached state) (first second : Specification)
    {name other : String} (solid : trim name ≠ "") (solidOther : trim other ≠ "")
    (within : (trim name).utf8ByteSize ≤ Limit.name)
    (withinOther : (trim other).utf8ByteSize ≤ Limit.name) (different : trim name ≠ trim other) :
    ∃ entry between otherEntry after entries,
      storage.save first (some name) state = (.ok entry, between) ∧
      storage.save second (some other) between = (.ok otherEntry, after) ∧
      storage.list after = .ok entries ∧
      ((trim name ∈ entries.map SavedEntry.name ∧ trim other ∈ entries.map SavedEntry.name ∧
          storage.load after name = .ok (some (first.canonical (trim name)))) ↔
        ofName name ≠ ofName other) ∧
      (ofName name = ofName other →
        trim name ∉ entries.map SavedEntry.name ∧
          storage.load after name = .ok (some (second.canonical (trim other)))) := by
  obtain ⟨catalog, holds⟩ := reached.exists_holds
  obtain ⟨entry, between, saved, holdsBetween⟩ := holds.save_within first solid within
  obtain ⟨otherEntry, after, savedOther, holdsAfter⟩ :=
    holdsBetween.save_within second solidOther withinOther
  obtain ⟨entries, listed, -⟩ := holdsAfter.list
  have mem := holdsAfter.mem_list_names_iff listed
  have shown := first.trim_canonical_name within
  have shownOther := second.trim_canonical_name withinOther
  have replaced (same : ofName name = ofName other) :
      trim name ∉ entries.map SavedEntry.name ∧
        storage.load after name = .ok (some (second.canonical (trim other))) := by
    constructor
    · apply holdsAfter.not_mem_list_names listed
      · rw [Text.Slug.ofName_trim, same, Finmap.lookup_insert]
      · rw [shownOther]
        exact different.symm
    · rw [holdsAfter.load_of_solid solid, same, Finmap.lookup_insert]
  refine ⟨entry, between, otherEntry, after, entries, saved, savedOther, listed, ⟨?_, ?_⟩, replaced⟩
  · rintro ⟨listedName, -, -⟩ same
    exact (replaced same).1 listedName
  · intro apart
    refine ⟨?_, ?_, ?_⟩
    · rw [mem, Text.Slug.ofName_trim, Finmap.lookup_insert_of_ne _ apart, Finmap.lookup_insert]
      exact ⟨_, rfl, shown⟩
    · rw [mem, Text.Slug.ofName_trim, Finmap.lookup_insert]
      exact ⟨_, rfl, shownOther⟩
    · rw [holdsAfter.load_of_solid solid, Finmap.lookup_insert_of_ne _ apart, Finmap.lookup_insert]

theorem both_saved_reports :
    ∃ entry between otherEntry after entries,
      Documents.storage.save {} (some "first report") {} = (.ok entry, between) ∧
      Documents.storage.save {} (some "second report") between = (.ok otherEntry, after) ∧
      Documents.storage.list after = .ok entries ∧
      trim "first report" ∈ entries.map SavedEntry.name ∧
      trim "second report" ∈ entries.map SavedEntry.name := by
  have solid : trim "first report" ≠ "" := by decide
  have solidOther : trim "second report" ≠ "" := by decide
  have apart : ofName "first report" ≠ ofName "second report" := by decide
  obtain ⟨entry, between, otherEntry, after, entries, saved, savedOther, listed, both, -⟩ :=
    both_saved_iff Documents.contract_empty.reached {} {} solid solidOther (by decide) (by decide)
      (by decide)
  obtain ⟨listedName, listedOther, -⟩ := both.mpr apart
  exact ⟨entry, between, otherEntry, after, entries, saved, savedOther, listed, listedName,
    listedOther⟩

/-- Two names with one slug. -/
theorem replaced_name_of_space :
    ∃ entry between otherEntry after entries,
      Documents.storage.save {} (some "a b") {} = (.ok entry, between) ∧
      Documents.storage.save {} (some "a-b") between = (.ok otherEntry, after) ∧
      Documents.storage.list after = .ok entries ∧ "a b" ∉ entries.map SavedEntry.name := by
  have solid : trim "a b" ≠ "" := by decide
  have solidOther : trim "a-b" ≠ "" := by decide
  have within : (trim "a-b").utf8ByteSize ≤ Limit.name := by decide
  have same : ofName "a b" = ofName "a-b" := by decide
  obtain ⟨entry, between, saved, holdsBetween⟩ :=
    Documents.contract_empty.holds.save_within {} solid (by decide)
  obtain ⟨otherEntry, after, savedOther, holds⟩ := holdsBetween.save_within {} solidOther within
  obtain ⟨entries, listed, -⟩ := holds.list
  refine ⟨entry, between, otherEntry, after, entries, saved, savedOther, listed, ?_⟩
  apply holds.not_mem_list_names listed
  · rw [same, Finmap.lookup_insert]
  · rw [Specification.trim_canonical_name _ within]
    decide

end Storage.Contract

end FileSearch
