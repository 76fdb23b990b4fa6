import FileSearch.Proofs.Store.Contract
import FileSearch.Proofs.Store.Memory
import Mathlib.Data.Finmap
import Mathlib.Data.List.Sort

/-!
# Stores as catalogs

To those who use it, a store is a finite map from slugs to specifications. The map is found again
behind every history of requests, because the name of a kept specification always stands for the
slug it is kept under: a search by name never finds what the slug did not.
-/

set_option autoImplicit false

namespace FileSearch

open Text (trim truncate)
open Text.Slug (ofName)

/-- A finite map from slugs to specifications. -/
abbrev Catalog := Finmap fun _ : String => Specification

namespace Catalog

/-! ## What requests mean -/

/-- The names that a specification is saved under: a given one or its own, without the blanks around
it and within its limit. Only a name of its own may be blank. -/
inductive Names (specification : Specification) : Option String → String → Prop where
  | given {name : String} : trim name ≠ "" →
      Names specification (some name) (truncate (trim name) Limit.name)
  | own : trim specification.name ≠ "" →
      Names specification none (truncate (trim specification.name) Limit.name)
  | unnamed : trim specification.name = "" → Names specification none "Unnamed"

/-- The specification that a name or slug stands for. -/
def find? (catalog : Catalog) (nameOrSlug : String) : Option Specification :=
  if trim nameOrSlug = "" then none else catalog.lookup (ofName (trim nameOrSlug))

/-- The catalog without the specification that a name or slug stands for. -/
def discard (catalog : Catalog) (nameOrSlug : String) : Catalog :=
  if trim nameOrSlug = "" then catalog else catalog.erase (ofName (trim nameOrSlug))

variable (location : String → Path)

/-- The record of a specification in lists. -/
def record (slug : String) (specification : Specification) : SavedEntry where
  name := trim specification.name
  slug := slug
  path := location slug

/-- A list of the records of a catalog, strictly in order and with distinct names. -/
structure Lists (catalog : Catalog) (entries : List SavedEntry) : Prop where
  ordered : entries.Pairwise SavedEntry.Precedes
  distinct : (entries.map SavedEntry.name).Nodup
  exact : ∀ entry, entry ∈ entries ↔
    ∃ specification, catalog.lookup entry.slug = some specification ∧
      record location entry.slug specification = entry

/-- The answers that a catalog gives to requests, and the catalogs that these leave. -/
inductive Answers (catalog : Catalog) : Request → Answer → Catalog → Prop where
  | saved {specification : Specification} {name? : Option String} {name : String} :
      Names specification name? name →
      Answers catalog (.save specification name?)
        (.saved { name, slug := ofName name, path := location (ofName name) })
        (catalog.insert (ofName name) (specification.canonical name))
  | refused {specification : Specification} {name : String} : trim name = "" →
      Answers catalog (.save specification (some name)) (.failed (.invalidName "")) catalog
  | unreadable {files : FileTree} {path : Path} {name? : Option String} {error : FileError} :
      files.readText path = .error error →
      Answers catalog (.importFrom files path name?) (.failed (.file error)) catalog
  | malformed {files : FileTree} {path : Path} {name? : Option String} {document : String}
      {error : Json.Error} : files.readText path = .ok document →
      Specification.ofDocument document = .error error →
      Answers catalog (.importFrom files path name?) (.failed (.document error)) catalog
  | imported {files : FileTree} {path : Path} {name? : Option String} {document : String}
      {specification : Specification} {answer : Answer} {after : Catalog} :
      files.readText path = .ok document →
      Specification.ofDocument document = .ok specification →
      Answers catalog (.save specification name?) answer after →
      Answers catalog (.importFrom files path name?) answer after
  | loaded {nameOrSlug : String} :
      Answers catalog (.load nameOrSlug) (.loaded (catalog.find? nameOrSlug)) catalog
  | removed {nameOrSlug : String} :
      Answers catalog (.remove nameOrSlug) (.removed (catalog.find? nameOrSlug).isSome)
        (catalog.discard nameOrSlug)
  | listed {entries : List SavedEntry} : Lists location catalog entries →
      Answers catalog .list (.listed entries) catalog

/-- The answers to requests in order. -/
inductive Runs : Catalog → List Request → List Answer → Catalog → Prop where
  | nil {catalog : Catalog} : Runs catalog [] [] catalog
  | cons {before between after : Catalog} {request : Request} {answer : Answer}
      {requests : List Request} {answers : List Answer} :
      Answers location before request answer between → Runs between requests answers after →
      Runs before (request :: requests) (answer :: answers) after

/-! ## Changes -/

theorem lookup_insert_eq (catalog : Catalog) (slug key : String) (specification : Specification) :
    Finmap.lookup key (catalog.insert slug specification) =
      if key = slug then some specification else catalog.lookup key := by
  by_cases same : key = slug
  · rw [if_pos same, same, Finmap.lookup_insert]
  · rw [if_neg same, Finmap.lookup_insert_of_ne _ same]

theorem lookup_erase_eq (catalog : Catalog) (slug key : String) :
    Finmap.lookup key (catalog.erase slug) = if key = slug then none else catalog.lookup key := by
  by_cases same : key = slug
  · rw [if_pos same, same, Finmap.lookup_erase]
  · rw [if_neg same, Finmap.lookup_erase_ne same]

/-! ## Saved names -/

theorem Names.exists_savedName? {specification : Specification} {name? : Option String}
    {name : String} (names : Names specification name? name) :
    ∃ whole, specification.savedName? name? = some whole ∧ truncate whole Limit.name = name := by
  cases names with
  | given solid =>
      refine ⟨_, ?_, rfl⟩
      simp only [Specification.savedName?, String.isEmpty_iff, solid, if_false]
  | own solid =>
      refine ⟨_, ?_, rfl⟩
      simp only [Specification.savedName?, String.isEmpty_iff, solid, if_false]
  | unnamed blank =>
      refine ⟨Specification.unnamed, ?_, by decide⟩
      simp only [Specification.savedName?, String.isEmpty_iff, blank, if_true]

theorem Names.truncate_eq {specification : Specification} {name? : Option String} {name : String}
    (names : Names specification name? name) : truncate name Limit.name = name := by
  obtain ⟨whole, _, rfl⟩ := names.exists_savedName?
  exact Text.truncate_truncate whole Limit.name

/-- There is a name for every save but one under a blank name. -/
theorem names_or_blank (specification : Specification) (name? : Option String) :
    (∃ name, Names specification name? name) ∨ ∃ name, name? = some name ∧ trim name = "" := by
  cases name? with
  | some name =>
      by_cases blank : trim name = ""
      · exact .inr ⟨name, rfl, blank⟩
      · exact .inl ⟨_, .given blank⟩
  | none =>
      by_cases blank : trim specification.name = ""
      · exact .inl ⟨_, .unnamed blank⟩
      · exact .inl ⟨_, .own blank⟩

/-! ## One meaning for each request -/

section

variable {location : String → Path}

theorem Names.unique {specification : Specification} {name? : Option String} {name other : String}
    (names : Names specification name? name) (others : Names specification name? other) :
    name = other := by
  cases names with
  | given solid => cases others with | given _ => rfl
  | own solid =>
      cases others with
      | own _ => rfl
      | unnamed blank => exact absurd blank solid
  | unnamed blank =>
      cases others with
      | own solid => exact absurd blank solid
      | unnamed _ => rfl

theorem Lists.unique {catalog : Catalog} {entries others : List SavedEntry}
    (lists : Lists location catalog entries) (listsOthers : Lists location catalog others) :
    entries = others :=
  lists.ordered.eq_of_mem_iff listsOthers.ordered fun entry =>
    (lists.exact entry).trans (listsOthers.exact entry).symm

theorem Answers.unique {catalog after otherAfter : Catalog} {request : Request}
    {answer other : Answer} (answers : Answers location catalog request answer after)
    (others : Answers location catalog request other otherAfter) :
    answer = other ∧ after = otherAfter := by
  induction answers generalizing other otherAfter with
  | saved names =>
      cases others with
      | saved otherNames =>
          obtain rfl := names.unique otherNames
          exact ⟨rfl, rfl⟩
      | refused blank => cases names with | given solid => exact absurd blank solid
  | refused blank =>
      cases others with
      | saved names => cases names with | given solid => exact absurd blank solid
      | refused _ => exact ⟨rfl, rfl⟩
  | unreadable failed =>
      cases others with
      | unreadable otherFailed =>
          rw [failed, Except.error.injEq] at otherFailed
          rw [otherFailed]
          exact ⟨rfl, rfl⟩
      | malformed read _ => rw [failed] at read; cases read
      | imported read _ _ => rw [failed] at read; cases read
  | malformed read failed =>
      cases others with
      | unreadable otherFailed => rw [read] at otherFailed; cases otherFailed
      | malformed otherRead otherFailed =>
          rw [read, Except.ok.injEq] at otherRead
          rw [← otherRead, failed, Except.error.injEq] at otherFailed
          rw [otherFailed]
          exact ⟨rfl, rfl⟩
      | imported otherRead parsed _ =>
          rw [read, Except.ok.injEq] at otherRead
          rw [← otherRead, failed] at parsed
          cases parsed
  | imported read parsed _ ih =>
      cases others with
      | unreadable failed => rw [read] at failed; cases failed
      | malformed otherRead failed =>
          rw [read, Except.ok.injEq] at otherRead
          rw [← otherRead, parsed] at failed
          cases failed
      | imported otherRead otherParsed otherAnswers =>
          rw [read, Except.ok.injEq] at otherRead
          rw [← otherRead, parsed, Except.ok.injEq] at otherParsed
          rw [← otherParsed] at otherAnswers
          exact ih otherAnswers
  | loaded => cases others with | loaded => exact ⟨rfl, rfl⟩
  | removed => cases others with | removed => exact ⟨rfl, rfl⟩
  | listed lists =>
      cases others with
      | listed otherLists =>
          rw [lists.unique otherLists]
          exact ⟨rfl, rfl⟩

/-- The answers to a history, and the catalog that it leaves, follow from the catalog it begins with.
-/
theorem Runs.unique {before after otherAfter : Catalog} {requests : List Request}
    {answers others : List Answer} (runs : Runs location before requests answers after)
    (otherRuns : Runs location before requests others otherAfter) :
    answers = others ∧ after = otherAfter := by
  induction runs generalizing others otherAfter with
  | nil => cases otherRuns with | nil => exact ⟨rfl, rfl⟩
  | cons answered _ ih =>
      cases otherRuns with
      | cons otherAnswered otherRest =>
          obtain ⟨rfl, rfl⟩ := answered.unique otherAnswered
          obtain ⟨rfl, rfl⟩ := ih otherRest
          exact ⟨rfl, rfl⟩

end

end Catalog

/-! ## The catalog behind a state -/

namespace Storage.Contract

open Catalog (Names Lists record)

/-- A state holds a catalog if its documents are those of the specifications, and each of these is
kept under the slug that its name stands for. -/
structure Holds {State : Type} {storage : Storage State} (contract : storage.Contract)
    (state : State) (catalog : Catalog) : Prop where
  sound : contract.Sound state
  stored : ∀ slug, contract.get? state slug = (catalog.lookup slug).map Specification.document
  kept : ∀ slug specification, catalog.lookup slug = some specification →
    specification.IsKeptUnder slug

theorem Empty.holds {State : Type} {storage : Storage State} {contract : storage.Contract}
    {state : State} (empty : contract.Empty state) : contract.Holds state ∅ where
  sound := empty.sound
  stored _ := by rw [Finmap.lookup_empty, empty.get?_eq_none, Option.map_none]
  kept _ _ found := by
    rw [Finmap.lookup_empty] at found
    cases found

namespace Holds

variable {State : Type} {storage : Storage State} {contract : storage.Contract} {state : State}
  {catalog : Catalog}

theorem write (holds : contract.Holds state catalog) {name : String}
    {specification : Specification} (kept : specification.IsKeptUnder (ofName name)) :
    ∃ after, storage.write (ofName name) specification.document state = (.ok (), after) ∧
      contract.Holds after (catalog.insert (ofName name) specification) := by
  obtain ⟨after, written, sound, rest⟩ :=
    contract.write_spec holds.sound name specification.document
  refine ⟨after, written, sound, ?_, ?_⟩
  · intro slug
    rw [rest, Catalog.lookup_insert_eq, holds.stored]
    split <;> rfl
  · intro slug other found
    rw [Catalog.lookup_insert_eq] at found
    split at found
    · next same =>
        rw [Option.some.injEq] at found
        rwa [same, ← found]
    · exact holds.kept slug other found

theorem delete (holds : contract.Holds state catalog) (name : String) :
    ∃ after, storage.deleteSlug (ofName name) state =
        (.ok (catalog.lookup (ofName name)).isSome, after) ∧
      contract.Holds after (catalog.erase (ofName name)) := by
  obtain ⟨after, deleted, sound, rest⟩ := contract.deleteSlug_spec holds.sound name
  refine ⟨after, ?_, sound, ?_, ?_⟩
  · rw [deleted, holds.stored, Option.isSome_map]
  · intro slug
    rw [rest, Catalog.lookup_erase_eq, holds.stored]
    split <;> rfl
  · intro slug other found
    rw [Catalog.lookup_erase_eq] at found
    split at found
    · cases found
    · exact holds.kept slug other found

theorem specification? (holds : contract.Holds state catalog) (name : String) :
    storage.specification? state (ofName name) = catalog.lookup (ofName name) := by
  rw [Storage.specification?, contract.read_spec holds.sound, holds.stored]
  cases catalog.lookup (ofName name) with
  | none => rfl
  | some specification => exact congrArg Except.toOption specification.ofDocument_document

theorem saved? (holds : contract.Holds state catalog) {slug : String}
    {specification : Specification} (found : catalog.lookup slug = some specification) :
    storage.saved? state slug = some (record storage.location slug specification) := by
  obtain ⟨named, slugEq⟩ := holds.kept slug specification found
  have read := holds.specification? specification.name
  rw [slugEq, found] at read
  simp only [Storage.saved?, read, Option.map_some, record, String.isEmpty_iff, named, if_false]

theorem slug_eq_of_record (holds : contract.Holds state catalog) {entry : SavedEntry}
    {specification : Specification} (found : catalog.lookup entry.slug = some specification)
    (listed : record storage.location entry.slug specification = entry) :
    entry.slug = ofName entry.name := by
  have named : trim specification.name = entry.name := congrArg SavedEntry.name listed
  rw [← named, Text.Slug.ofName_trim, (holds.kept _ _ found).slug_eq]

theorem find?_of_kept (holds : contract.Holds state catalog) {slug name : String}
    {specification : Specification} (found : catalog.lookup slug = some specification)
    (named : trim name = trim specification.name) : catalog.find? name = some specification := by
  have kept := holds.kept slug specification found
  rw [Catalog.find?, named, if_neg kept.named, Text.Slug.ofName_trim, kept.slug_eq, found]

theorem list (holds : contract.Holds state catalog) :
    ∃ entries, storage.list state = .ok entries ∧ Lists storage.location catalog entries := by
  obtain ⟨slugs, found, distinctSlugs, memSlugs⟩ := contract.slugs_spec holds.sound
  obtain ⟨entries, listed, ordered, distinct, exact⟩ := Storage.list_spec found distinctSlugs
  have mem (entry : SavedEntry) : entry ∈ entries ↔
      ∃ specification, catalog.lookup entry.slug = some specification ∧
        record storage.location entry.slug specification = entry := by
    rw [exact, memSlugs, holds.stored, Option.isSome_map]
    constructor
    · rintro ⟨stored, saved⟩
      obtain ⟨specification, found⟩ := Option.isSome_iff_exists.mp stored
      rw [holds.saved? found, Option.some.injEq] at saved
      exact ⟨specification, found, saved⟩
    · rintro ⟨specification, found, written⟩
      rw [holds.saved? found, written, found]
      exact ⟨rfl, rfl⟩
  refine ⟨entries, listed, ordered, ?_, mem⟩
  -- Records with one name would have one slug.
  have slugs : entries.map SavedEntry.slug = (entries.map SavedEntry.name).map ofName := by
    rw [List.map_map]
    apply List.map_congr_left
    intro entry member
    obtain ⟨specification, found, written⟩ := (mem entry).mp member
    exact holds.slug_eq_of_record found written
  rw [slugs] at distinct
  exact List.Nodup.of_map ofName distinct

theorem mem_list_names_iff (holds : contract.Holds state catalog) {entries : List SavedEntry}
    (listed : storage.list state = .ok entries) (name : String) :
    name ∈ entries.map SavedEntry.name ↔
      ∃ specification, catalog.lookup (ofName name) = some specification ∧
        trim specification.name = name := by
  obtain ⟨others, listedOthers, lists⟩ := holds.list
  rw [listed, Except.ok.injEq] at listedOthers
  subst listedOthers
  rw [List.mem_map]
  constructor
  · rintro ⟨entry, member, rfl⟩
    obtain ⟨specification, found, written⟩ := (lists.exact entry).mp member
    rw [holds.slug_eq_of_record found written] at found
    exact ⟨specification, found, congrArg SavedEntry.name written⟩
  · rintro ⟨specification, found, named⟩
    refine ⟨record storage.location (ofName name) specification, ?_, named⟩
    exact (lists.exact _).mpr ⟨specification, found, rfl⟩

/-- A search by name finds nothing where the slug of the name finds nothing. -/
theorem findName (holds : contract.Holds state catalog) {name : String}
    (absent : catalog.lookup (ofName name) = none) : storage.findName state name = .ok none := by
  obtain ⟨entries, listed, lists⟩ := holds.list
  have missing : entries.find? (fun entry => entry.name == name) = none := by
    rw [List.find?_eq_none]
    intro entry member named
    obtain ⟨specification, found, written⟩ := (lists.exact entry).mp member
    rw [holds.slug_eq_of_record found written, beq_iff_eq.mp named, absent] at found
    cases found
  rw [Storage.findName, listed]
  exact congrArg (fun found => Except.ok (Option.map SavedEntry.slug found)) missing

theorem load (holds : contract.Holds state catalog) (nameOrSlug : String) :
    storage.load state nameOrSlug = .ok (catalog.find? nameOrSlug) := by
  rw [Storage.load, Storage.resolve, Catalog.find?]
  by_cases blank : trim nameOrSlug = ""
  · simp only [String.isEmpty_iff, blank, if_true]
    rfl
  · simp only [String.isEmpty_iff, blank, if_false, holds.specification?]
    cases found : catalog.lookup (ofName (trim nameOrSlug)) with
    | none =>
        rw [holds.findName found]
        rfl
    | some specification =>
        exact congrArg Except.ok ((holds.specification? _).trans found)

theorem remove (holds : contract.Holds state catalog) (nameOrSlug : String) :
    ∃ after, storage.remove nameOrSlug state = (.ok (catalog.find? nameOrSlug).isSome, after) ∧
      contract.Holds after (catalog.discard nameOrSlug) := by
  rw [Catalog.find?, Catalog.discard]
  by_cases blank : trim nameOrSlug = ""
  · rw [if_pos blank, if_pos blank]
    refine ⟨state, ?_, holds⟩
    simp only [Storage.remove, String.isEmpty_iff, blank, if_true]
    rfl
  · rw [if_neg blank, if_neg blank]
    obtain ⟨after, deleted, erased⟩ := holds.delete (trim nameOrSlug)
    refine ⟨after, ?_, erased⟩
    simp only [Storage.remove, String.isEmpty_iff, blank, if_false, deleted]
    cases found : catalog.lookup (ofName (trim nameOrSlug)) with
    | none =>
        have absent := erased.findName (Finmap.lookup_erase _ _)
        simp only [Option.isSome_none, absent]
    | some specification => rfl

theorem save (holds : contract.Holds state catalog) {specification : Specification}
    {name? : Option String} {name : String} (names : Names specification name? name) :
    ∃ after, storage.save specification name? state =
        (.ok { name, slug := ofName name, path := storage.location (ofName name) }, after) ∧
      contract.Holds after (catalog.insert (ofName name) (specification.canonical name)) := by
  obtain ⟨whole, named, cut⟩ := names.exists_savedName?
  have kept := Specification.isKeptUnder_canonical named
  rw [cut] at kept
  obtain ⟨after, written, holdsAfter⟩ := holds.write kept
  subst cut
  rw [Specification.canonical_truncate]
  refine ⟨after, ?_, holdsAfter⟩
  simp only [Storage.save, named, Specification.canonical_name, written]

/-- What a save that succeeds has saved. -/
theorem of_saved (holds : contract.Holds state catalog) {specification : Specification}
    {name? : Option String} {entry : SavedEntry} {after : State}
    (saved : storage.save specification name? state = (.ok entry, after)) :
    Names specification name? entry.name ∧ entry.slug = ofName entry.name ∧
      contract.Holds after
        (catalog.insert entry.slug (specification.canonical entry.name)) := by
  rcases Catalog.names_or_blank specification name? with ⟨name, names⟩ | ⟨name, rfl, blank⟩
  · obtain ⟨other, stored, holdsAfter⟩ := holds.save names
    rw [stored, Prod.mk.injEq, Except.ok.injEq] at saved
    obtain ⟨rfl, rfl⟩ := saved
    exact ⟨names, rfl, holdsAfter⟩
  · simp only [Storage.save, Specification.savedName?, String.isEmpty_iff, blank, if_true,
      Prod.mk.injEq, reduceCtorEq, false_and] at saved

/-! ## Histories -/

private theorem answer_save (holds : contract.Holds state catalog) (specification : Specification)
    (name? : Option String) :
    ∃ after, catalog.Answers storage.location (.save specification name?)
        (storage.answer state (.save specification name?)).1 after ∧
      contract.Holds (storage.answer state (.save specification name?)).2 after := by
  rcases Catalog.names_or_blank specification name? with ⟨name, names⟩ | ⟨name, rfl, blank⟩
  · obtain ⟨after, saved, holdsAfter⟩ := holds.save names
    rw [Storage.answer, saved]
    exact ⟨_, .saved names, holdsAfter⟩
  · have refused : storage.answer state (.save specification (some name)) =
        (.failed (.invalidName ""), state) := by
      simp only [Storage.answer, Storage.save, Specification.savedName?, String.isEmpty_iff, blank,
        if_true]
      rfl
    rw [refused]
    exact ⟨catalog, .refused blank, holds⟩

/-- One request is answered as by the catalog that the state holds. -/
theorem answer (holds : contract.Holds state catalog) (request : Request) :
    ∃ after, catalog.Answers storage.location request (storage.answer state request).1 after ∧
      contract.Holds (storage.answer state request).2 after := by
  cases request with
  | save specification name? => exact holds.answer_save specification name?
  | importFrom files path name? =>
      cases read : files.readText path with
      | error error =>
          have answered : storage.answer state (.importFrom files path name?) =
              (.failed (.file error), state) := by
            simp only [Storage.answer, Storage.importFrom, read]
            rfl
          rw [answered]
          exact ⟨catalog, .unreadable read, holds⟩
      | ok document =>
          cases parsed : Specification.ofDocument document with
          | error error =>
              have answered : storage.answer state (.importFrom files path name?) =
                  (.failed (.document error), state) := by
                simp only [Storage.answer, Storage.importFrom, read, parsed]
                rfl
              rw [answered]
              exact ⟨catalog, .malformed read parsed, holds⟩
          | ok specification =>
              have answered : storage.answer state (.importFrom files path name?) =
                  storage.answer state (.save specification name?) := by
                simp only [Storage.answer, Storage.importFrom, read, parsed]
              rw [answered]
              obtain ⟨after, saved, holdsAfter⟩ := holds.answer_save specification name?
              exact ⟨after, .imported read parsed saved, holdsAfter⟩
  | load nameOrSlug =>
      refine ⟨catalog, ?_, holds⟩
      rw [Storage.answer, holds.load]
      exact .loaded
  | remove nameOrSlug =>
      obtain ⟨after, removed, holdsAfter⟩ := holds.remove nameOrSlug
      rw [Storage.answer, removed]
      exact ⟨_, .removed, holdsAfter⟩
  | list =>
      obtain ⟨entries, listed, lists⟩ := holds.list
      refine ⟨catalog, ?_, holds⟩
      rw [Storage.answer, listed]
      exact .listed lists

theorem answers (holds : contract.Holds state catalog) (requests : List Request) :
    ∃ after, catalog.Runs storage.location requests (storage.answers state requests).1 after ∧
      contract.Holds (storage.answers state requests).2 after := by
  induction requests generalizing catalog state with
  | nil => exact ⟨catalog, .nil, holds⟩
  | cons request rest ih =>
      obtain ⟨between, answered, holdsBetween⟩ := holds.answer request
      obtain ⟨after, others, holdsAfter⟩ := ih holdsBetween
      exact ⟨after, .cons answered others, holdsAfter⟩

end Holds

theorem Reached.exists_holds {State : Type} {storage : Storage State} {contract : storage.Contract}
    {state : State} (reached : contract.Reached state) :
    ∃ catalog : Catalog, contract.Holds state catalog := by
  obtain ⟨initial, requests, empty, rfl⟩ := reached
  obtain ⟨catalog, _, holds⟩ := empty.holds.answers requests
  exact ⟨catalog, holds⟩

end Storage.Contract

/-- To those who send requests to an empty store in memory, it is an empty catalog; and after a save,
the name in the answer loads what was saved. -/
theorem Documents.runs_answers (requests : List Request) :
    ∃ catalog : Catalog,
      Catalog.Runs storage.location ∅ requests (storage.answers {} requests).1 catalog ∧
      (∀ slug, (storage.answers {} requests).2.get? slug =
        (catalog.lookup slug).map Specification.document) ∧
      ∀ specification name? entry after,
        storage.save specification name? (storage.answers {} requests).2 = (.ok entry, after) →
          Catalog.Names specification name? entry.name ∧
            storage.load after entry.name = .ok (some (specification.canonical entry.name)) := by
  obtain ⟨catalog, runs, holds⟩ := contract_empty.holds.answers requests
  refine ⟨catalog, runs, holds.stored, ?_⟩
  intro specification name? entry after saved
  obtain ⟨names, -, holdsAfter⟩ := holds.of_saved saved
  refine ⟨names, ?_⟩
  rw [holdsAfter.load, holdsAfter.find?_of_kept (Finmap.lookup_insert _)]
  rw [Specification.canonical_name, names.truncate_eq]

end FileSearch
