import FileSearch.Proofs.Store.Enumeration

/-!
# What a removal removes

Loading passes over a document that cannot be read, and looks for the name instead. Removing does
not: the document under the slug is removed if there is one, and only otherwise the one that has the
name.
-/

set_option autoImplicit false

namespace FileSearch.Storage.Contract

open Text (trim)
open Text.Slug (ofName)

variable {State : Type} {storage : Storage State} {contract : storage.Contract}
  {state other after : State} {nameOrSlug name slug : String}

/-! ## Documents that can be read -/

/-- The specification under a slug, if there is a document that can be read. -/
def parsed? (contract : storage.Contract) (state : State) (slug : String) :
    Option Specification :=
  (contract.get? state slug).bind fun document => (Specification.ofDocument document).toOption

/-- One document is gone, and all others are as they were. -/
def Deletes (contract : storage.Contract) (state : State) (slug : String) (after : State) : Prop :=
  ∀ key, contract.get? after key = if key = slug then none else contract.get? state key

theorem Deletes.parsed? (deletes : contract.Deletes state slug after) (key : String) :
    contract.parsed? after key = if key = slug then none else contract.parsed? state key := by
  rw [Contract.parsed?, Contract.parsed?, deletes]
  split <;> rfl

theorem Deletes.parsed?_of_none (deletes : contract.Deletes state slug after)
    (unreadable : contract.parsed? state slug = none) (key : String) :
    contract.parsed? after key = contract.parsed? state key := by
  rw [deletes.parsed?]
  split
  · next same => rw [same, unreadable]
  · rfl

theorem specification?_of_read
    (read : storage.read state slug = .ok (contract.get? state slug)) :
    storage.specification? state slug = contract.parsed? state slug := by
  rw [specification?, read, parsed?]
  cases contract.get? state slug <;> rfl

theorem specification?_ofName (sound : contract.Sound state) (name : String) :
    storage.specification? state (ofName name) = contract.parsed? state (ofName name) :=
  specification?_of_read (contract.read_spec sound name)

theorem isSome_of_parsed? {specification : Specification}
    (parsed : contract.parsed? state slug = some specification) :
    (contract.get? state slug).isSome = true := by
  obtain ⟨document, found, -⟩ := Option.bind_eq_some_iff.mp parsed
  rw [found, Option.isSome_some]

namespace Complete

theorem saved?_iff (complete : contract.Complete) (sound : contract.Sound state)
    {slugs : List String} (memSlugs : ∀ slug, slug ∈ slugs ↔
      (contract.get? state slug).isSome = true) {entry : SavedEntry} :
    (slug ∈ slugs ∧ storage.saved? state slug = some entry) ↔
      ∃ specification, contract.parsed? state slug = some specification ∧
        entry.name = (if trim specification.name = "" then slug else trim specification.name) ∧
        entry.slug = slug ∧ entry.path = storage.location slug := by
  have read (stored : (contract.get? state slug).isSome = true) :=
    specification?_of_read (complete.read_stored sound stored)
  rw [saved?_eq_some_iff, memSlugs]
  constructor
  · rintro ⟨stored, specification, parsed, shown⟩
    rw [read stored] at parsed
    exact ⟨specification, parsed, shown⟩
  · rintro ⟨specification, parsed, shown⟩
    have stored := isSome_of_parsed? parsed
    rw [← read stored] at parsed
    exact ⟨stored, specification, parsed, shown⟩

theorem findName_congr (complete : contract.Complete) (sound : contract.Sound state)
    (soundOther : contract.Sound other)
    (same : ∀ slug, contract.parsed? state slug = contract.parsed? other slug) (name : String) :
    storage.findName state name = storage.findName other name := by
  obtain ⟨slugs, found, distinct, mem⟩ := contract.slugs_spec sound
  obtain ⟨slugsOther, foundOther, distinctOther, memOther⟩ := contract.slugs_spec soundOther
  have lists : storage.list state = storage.list other := by
    refine list_congr found distinct foundOther distinctOther ?_
    intro slug entry
    rw [complete.saved?_iff sound mem, complete.saved?_iff soundOther memOther, same]
  rw [findName, findName, lists]

theorem exists_parsed?_of_findName (complete : contract.Complete) (sound : contract.Sound state)
    {key : String} (found : storage.findName state name = .ok (some key)) :
    ∃ specification, contract.parsed? state key = some specification := by
  obtain ⟨slugs, foundSlugs, distinct, mem⟩ := contract.slugs_spec sound
  obtain ⟨entries, listed, -, -, memEntries⟩ := list_spec foundSlugs distinct
  rw [findName, listed] at found
  obtain ⟨entry, first, rfl⟩ := Option.map_eq_some_iff.mp (Except.ok.inj found)
  have member := (memEntries entry).mp (List.mem_of_find?_eq_some first)
  obtain ⟨specification, parsed, -⟩ := (complete.saved?_iff sound mem).mp member
  exact ⟨specification, parsed⟩

end Complete

/-! ## Removing what is loaded -/

/-- A document under the slug of a text stands between the text and the document with a key. -/
structure Hides (contract : storage.Contract) (state : State) (nameOrSlug key : String) : Prop where
  different : key ≠ ofName nameOrSlug
  stored : (contract.get? state (ofName nameOrSlug)).isSome = true

theorem resolve_eq (sound : contract.Sound state) (solid : trim nameOrSlug ≠ "") :
    storage.resolve state nameOrSlug =
      if (contract.parsed? state (ofName nameOrSlug)).isSome then .ok (some (ofName nameOrSlug))
      else storage.findName state (trim nameOrSlug) := by
  simp only [resolve, String.isEmpty_iff, solid, if_false, specification?_ofName sound,
    Text.Slug.ofName_trim]

theorem solid_of_resolve {key : String}
    (resolved : storage.resolve state nameOrSlug = .ok (some key)) : trim nameOrSlug ≠ "" := by
  intro blank
  simp only [resolve, String.isEmpty_iff, blank, if_true] at resolved
  cases resolved

theorem Complete.specification?_of_resolve (complete : contract.Complete)
    (sound : contract.Sound state) {key : String}
    (resolved : storage.resolve state nameOrSlug = .ok (some key)) :
    storage.specification? state key = contract.parsed? state key := by
  rw [resolve_eq sound (solid_of_resolve resolved)] at resolved
  split at resolved
  · cases resolved
    exact specification?_ofName sound nameOrSlug
  · obtain ⟨specification, parsed⟩ := complete.exists_parsed?_of_findName sound resolved
    exact specification?_of_read (complete.read_stored sound (isSome_of_parsed? parsed))

theorem Complete.exists_resolve_of_load (complete : contract.Complete)
    (sound : contract.Sound state) {specification : Specification}
    (loaded : storage.load state nameOrSlug = .ok (some specification)) :
    ∃ key, storage.resolve state nameOrSlug = .ok (some key) ∧
      contract.parsed? state key = some specification := by
  rw [load] at loaded
  cases resolved : storage.resolve state nameOrSlug with
  | error error =>
      rw [resolved] at loaded
      cases loaded
  | ok key? =>
      rw [resolved] at loaded
      obtain ⟨key, rfl, found⟩ := Option.bind_eq_some_iff.mp (Except.ok.inj loaded)
      exact ⟨key, rfl, (complete.specification?_of_resolve sound resolved).symm.trans found⟩

/-- A document under the slug is removed whether or not it can be read. -/
theorem exists_remove_of_stored (sound : contract.Sound state) (solid : trim nameOrSlug ≠ "")
    (stored : (contract.get? state (ofName nameOrSlug)).isSome = true) :
    ∃ after, storage.remove nameOrSlug state = (.ok true, after) ∧ contract.Sound after ∧
      contract.Deletes state (ofName nameOrSlug) after := by
  obtain ⟨after, deleted, soundAfter, deletes⟩ := contract.deleteSlug_spec sound nameOrSlug
  refine ⟨after, ?_, soundAfter, deletes⟩
  simp only [remove, String.isEmpty_iff, solid, if_false, Text.Slug.ofName_trim, deleted, stored]

theorem Complete.exists_remove_of_named (complete : contract.Complete)
    (sound : contract.Sound state) (solid : trim nameOrSlug ≠ "")
    (absent : contract.get? state (ofName nameOrSlug) = none) {key : String}
    (found : storage.findName state (trim nameOrSlug) = .ok (some key)) :
    ∃ after, storage.remove nameOrSlug state = (.ok true, after) ∧
      contract.Deletes state key after := by
  obtain ⟨between, deleted, soundBetween, deletes⟩ := contract.deleteSlug_spec sound nameOrSlug
  -- The first deletion has changed nothing, so the name is found again.
  have same : ∀ key, contract.get? between key = contract.get? state key := by
    intro key
    rw [deletes]
    split
    · next same => rw [same, absent]
    · rfl
  have foundAgain : storage.findName between (trim nameOrSlug) = .ok (some key) := by
    rw [← found]
    refine complete.findName_congr soundBetween sound ?_ _
    intro slug
    rw [parsed?, parsed?, same]
  obtain ⟨specification, parsed⟩ := complete.exists_parsed?_of_findName soundBetween foundAgain
  obtain ⟨after, deletedKey, -, deletesKey⟩ :=
    complete.delete_stored soundBetween (isSome_of_parsed? parsed)
  have deletedSlug : storage.deleteSlug key between = (.ok true, after) := by
    rw [deleteSlug, deletedKey]
    rfl
  refine ⟨after, ?_, ?_⟩
  · rw [absent, Option.isSome_none] at deleted
    exact (remove_eq_of_findName solid deleted foundAgain).trans deletedSlug
  · intro slug
    rw [deletesKey, same]

theorem Complete.load_eq_of_deletes (complete : contract.Complete) (sound : contract.Sound state)
    (soundAfter : contract.Sound after) (solid : trim nameOrSlug ≠ "")
    (unreadable : contract.parsed? state (ofName nameOrSlug) = none)
    (deletes : contract.Deletes state (ofName nameOrSlug) after) :
    storage.load after nameOrSlug = storage.load state nameOrSlug := by
  -- A document that cannot be read is passed over, whether it is there or not.
  have same := deletes.parsed?_of_none unreadable
  have resolvedAfter : storage.resolve after nameOrSlug = storage.resolve state nameOrSlug := by
    rw [resolve_eq soundAfter solid, resolve_eq sound solid, same,
      complete.findName_congr soundAfter sound same]
  rw [load, load, resolvedAfter]
  cases resolved : storage.resolve state nameOrSlug with
  | error error => rfl
  | ok key? =>
      cases key? with
      | none => rfl
      | some key =>
          have before := complete.specification?_of_resolve sound resolved
          rw [resolved] at resolvedAfter
          have behind := complete.specification?_of_resolve soundAfter resolvedAfter
          exact congrArg Except.ok ((behind.trans (same key)).trans before.symm)

/-- What is loaded is removed, and nothing else, unless a document that cannot be read stands under
the slug. That one is removed instead, and the same is loaded as before. -/
theorem Complete.remove_loaded (complete : contract.Complete) (sound : contract.Sound state)
    {specification : Specification}
    (loaded : storage.load state nameOrSlug = .ok (some specification)) :
    ∃ key after, storage.resolve state nameOrSlug = .ok (some key) ∧
      contract.parsed? state key = some specification ∧
      storage.remove nameOrSlug state = (.ok true, after) ∧
      (¬ contract.Hides state nameOrSlug key → contract.Deletes state key after) ∧
      (contract.Hides state nameOrSlug key →
        contract.parsed? state (ofName nameOrSlug) = none ∧
          contract.Deletes state (ofName nameOrSlug) after ∧
          storage.load after nameOrSlug = .ok (some specification)) := by
  obtain ⟨key, resolved, parsed⟩ := complete.exists_resolve_of_load sound loaded
  have solid := solid_of_resolve resolved
  by_cases stored : (contract.get? state (ofName nameOrSlug)).isSome = true
  · obtain ⟨after, removed, soundAfter, deletes⟩ := exists_remove_of_stored sound solid stored
    refine ⟨key, after, resolved, parsed, removed, ?_, ?_⟩
    · intro shown
      have same : key = ofName nameOrSlug := by
        by_contra different
        exact shown ⟨different, stored⟩
      rw [same]
      exact deletes
    · intro hides
      have unreadable : contract.parsed? state (ofName nameOrSlug) = none := by
        rw [resolve_eq sound solid] at resolved
        split at resolved
        · cases resolved
          exact absurd rfl hides.different
        · next absent => exact Option.not_isSome_iff_eq_none.mp absent
      refine ⟨unreadable, deletes, ?_⟩
      rw [complete.load_eq_of_deletes sound soundAfter solid unreadable deletes, loaded]
  · have absent := Option.not_isSome_iff_eq_none.mp stored
    have found : storage.findName state (trim nameOrSlug) = .ok (some key) := by
      rw [resolve_eq sound solid, parsed?, absent] at resolved
      exact resolved
    obtain ⟨after, removed, deletes⟩ := complete.exists_remove_of_named sound solid absent found
    refine ⟨key, after, resolved, parsed, removed, fun _ => deletes, ?_⟩
    intro hides
    exact absurd hides.stored stored

/-! ## Documents under foreign slugs -/

private theorem resolve_of_single (sound : contract.Sound state) (solid : trim nameOrSlug ≠ "")
    (unreadable : contract.parsed? state (ofName nameOrSlug) = none) {slugs : List String}
    (found : storage.slugs state = .ok slugs) {entry : SavedEntry}
    (single : slugs.filterMap (storage.saved? state) = [entry])
    (named : entry.name = trim nameOrSlug) :
    storage.resolve state nameOrSlug = .ok (some entry.slug) := by
  rw [resolve_eq sound solid, unreadable, Option.isSome_none, if_neg Bool.false_ne_true]
  simp only [findName, list, found, single, List.mergeSort_singleton, ← named]
  simp [bind, Except.bind, pure, Except.pure]

private theorem specification?_legacy {documents : Documents}
    (found : documents.get? "legacy" = some ({ name := "report" } : Specification).document) :
    Documents.storage.specification? documents "legacy" = some { name := "report" } := by
  have read : Documents.storage.read documents "legacy" = .ok (documents.get? "legacy") := rfl
  rw [specification?, read, found]
  exact congrArg Except.toOption (Specification.ofDocument_document { name := "report" })

private theorem resolve_legacy (documents : Documents) (front : List String)
    (slugs : documents.slugs = front ++ ["legacy"])
    (unreadable : ∀ slug ∈ front, Documents.storage.specification? documents slug = none)
    (notFirst : Documents.contract.parsed? documents "report" = none)
    (found : documents.get? "legacy" = some ({ name := "report" } : Specification).document) :
    Documents.storage.resolve documents "report" = .ok (some "legacy") := by
  have slug : ofName "report" = "report" := by decide
  obtain ⟨entry, saved, name, slugEq⟩ : ∃ entry,
      Documents.storage.saved? documents "legacy" = some entry ∧
        entry.name = trim "report" ∧ entry.slug = "legacy" :=
    ⟨{ name := "report", slug := "legacy", path := Documents.storage.location "legacy" },
      saved?_eq_some_iff.mpr ⟨_, specification?_legacy found, by decide, rfl, rfl⟩, by decide, rfl⟩
  have others : front.filterMap (Documents.storage.saved? documents) = [] := by
    rw [List.filterMap_eq_nil_iff]
    intro slug member
    rw [saved?, unreadable slug member, Option.map_none]
  have single : documents.slugs.filterMap (Documents.storage.saved? documents) = [entry] := by
    rw [slugs, List.filterMap_append, others, List.nil_append,
      List.filterMap_cons_some saved, List.filterMap_nil]
  rw [← slug] at notFirst
  rw [← slugEq]
  exact resolve_of_single trivial (by decide) notFirst rfl single name

private theorem load_legacy {documents : Documents}
    (resolved : Documents.storage.resolve documents "report" = .ok (some "legacy"))
    (found : documents.get? "legacy" = some ({ name := "report" } : Specification).document) :
    Documents.storage.load documents "report" = .ok (some { name := "report" }) := by
  rw [load, resolved]
  exact congrArg Except.ok (specification?_legacy found)

/-- A document under a slug that is not that of its name, found by the name. -/
theorem Complete.remove_loaded_legacy :
    let documents : Documents :=
      { entries := [("legacy", ({ name := "report" } : Specification).document)] }
    Documents.storage.load documents "report" = .ok (some { name := "report" }) ∧
      ∃ after, Documents.storage.remove "report" documents = (.ok true, after) ∧
        after.get? "legacy" = none := by
  intro documents
  have resolved : Documents.storage.resolve documents "report" = .ok (some "legacy") :=
    resolve_legacy documents [] rfl (by simp) rfl rfl
  have loaded := load_legacy resolved rfl
  obtain ⟨key, after, resolvedKey, -, removed, shown, -⟩ :=
    Documents.contract_complete.remove_loaded trivial loaded
  rw [resolved] at resolvedKey
  cases resolvedKey
  have deletes := shown fun hides => absurd hides.stored (by decide)
  exact ⟨loaded, after, removed, (deletes "legacy").trans (if_pos rfl)⟩

/-- A document that cannot be read, under the slug of a name that another document has: the other is
loaded, and stays. -/
theorem remove_report_keeps_legacy :
    let documents : Documents :=
      { entries := [("report", "\x7b"),
          ("legacy", ({ name := "report" } : Specification).document)] }
    Documents.storage.resolve documents "report" = .ok (some "legacy") ∧
      Documents.storage.load documents "report" = .ok (some { name := "report" }) ∧
      ∃ after, Documents.storage.remove "report" documents = (.ok true, after) ∧
        after.get? "legacy" = some ({ name := "report" } : Specification).document ∧
        after.get? "report" = none ∧
        Documents.storage.load after "report" = .ok (some { name := "report" }) := by
  intro documents
  have slug : ofName "report" = "report" := by decide
  have unreadable : Documents.contract.parsed? documents "report" = none := by rfl
  have resolved : Documents.storage.resolve documents "report" = .ok (some "legacy") :=
    resolve_legacy documents ["report"] rfl (by simp; rfl) unreadable rfl
  have loaded := load_legacy resolved rfl
  have solid : trim "report" ≠ "" := by decide
  have stored : (Documents.contract.get? documents (ofName "report")).isSome = true := by decide
  obtain ⟨after, removed, -, deletes⟩ := exists_remove_of_stored trivial solid stored
  rw [← slug] at unreadable
  have loadedAfter := Documents.contract_complete.load_eq_of_deletes trivial trivial solid
    unreadable deletes
  refine ⟨resolved, loaded, after, removed, ?_, ?_, loadedAfter.trans loaded⟩
  · exact (deletes "legacy").trans (if_neg (by decide))
  · exact (deletes "report").trans (if_pos slug.symm)

end FileSearch.Storage.Contract
