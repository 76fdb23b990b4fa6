import FileSearch.Proofs.Store.Memory
import FileSearch.Store.Request
import Mathlib.Data.List.Nodup
import Mathlib.Data.List.Sort

/-!
# The order of enumeration

A storage may enumerate its documents in any order. A list of records does not show it, because the
records are strictly in order; and names are looked up in such a list only.
-/

set_option autoImplicit false

namespace FileSearch

open Text (trim)
open Text.Slug (ofName)

/-! ## Names in ordered lists -/

namespace SavedEntry

/-- The least slug among the records with a name. -/
structure IsLeastNamed (entries : List SavedEntry) (name slug : String) : Prop where
  named : ∃ entry ∈ entries, entry.name = name ∧ entry.slug = slug
  least : ∀ entry ∈ entries, entry.name = name → slug ≤ entry.slug

theorem Precedes.slug_lt {left right : SavedEntry} (precedes : left.Precedes right)
    (same : left.name = right.name) : left.slug < right.slug := by
  rcases precedes with less | ⟨_, less⟩
  · exact absurd (same ▸ less) (String.lt_irrefl _)
  · exact less

theorem find?_name_iff {entries : List SavedEntry} (ordered : entries.Pairwise Precedes)
    (name slug : String) :
    (entries.find? fun entry => entry.name == name).map SavedEntry.slug = some slug ↔
      IsLeastNamed entries name slug := by
  induction entries with
  | nil =>
      constructor
      · intro found
        cases found
      · rintro ⟨⟨entry, member, -⟩, -⟩
        cases member
  | cons head rest ih =>
      obtain ⟨before, orderedRest⟩ := List.pairwise_cons.mp ordered
      by_cases here : head.name = name
      · rw [List.find?_cons_of_pos (by simpa using here), Option.map_some, Option.some.injEq]
        -- Records of the same name come behind the first in the order of their slugs.
        have least : IsLeastNamed (head :: rest) name head.slug := by
          refine ⟨⟨head, List.mem_cons_self, here, rfl⟩, ?_⟩
          intro entry member named
          rcases List.mem_cons.mp member with rfl | later
          · exact String.le_refl _
          · have less := (before entry later).slug_lt (here.trans named.symm)
            exact (String.le_total _ _).resolve_right (String.not_le.mpr less)
        constructor
        · rintro rfl
          exact least
        · rintro ⟨⟨entry, member, named, rfl⟩, leastOther⟩
          exact String.le_antisymm (least.least entry member named)
            (leastOther head List.mem_cons_self here)
      · rw [List.find?_cons_of_neg (by simpa using here), ih orderedRest]
        constructor
        · rintro ⟨⟨entry, member, found⟩, least⟩
          refine ⟨⟨entry, List.mem_cons_of_mem _ member, found⟩, ?_⟩
          intro other memberOther named
          rcases List.mem_cons.mp memberOther with rfl | later
          · exact absurd named here
          · exact least other later named
        · rintro ⟨⟨entry, member, named, slugEq⟩, least⟩
          rcases List.mem_cons.mp member with rfl | later
          · exact absurd named here
          · exact ⟨⟨entry, later, named, slugEq⟩,
              fun other memberOther => least other (List.mem_cons_of_mem _ memberOther)⟩

end SavedEntry

namespace Storage

variable {State : Type}

/-! ## Storages that enumerate in other orders -/

/-- No document is enumerated twice. -/
def EnumeratesOnce (storage : Storage State) : Prop :=
  ∀ state slugs, storage.slugs state = .ok slugs → slugs.Nodup

/-- Two storages with the same documents at the same places, which they enumerate in any order. -/
structure Reordered (first second : Storage State) : Prop where
  root : first.root = second.root
  read : first.read = second.read
  write : first.write = second.write
  delete : first.delete = second.delete
  slugs : ∀ state,
    (∃ slugs others, first.slugs state = .ok slugs ∧ second.slugs state = .ok others ∧
      slugs.Perm others) ∨
    ∃ error, first.slugs state = .error error ∧ second.slugs state = .error error

/-- The records of the documents in a list of slugs, strictly in order: one for each document that
can be read, under its name or else under its slug. -/
structure Records (storage : Storage State) (state : State) (slugs : List String)
    (entries : List SavedEntry) : Prop where
  ordered : entries.Pairwise SavedEntry.Precedes
  slugs : (entries.map SavedEntry.slug).Perm
    (slugs.filter fun slug => (storage.specification? state slug).isSome)
  record : ∀ entry ∈ entries, ∃ specification,
    storage.specification? state entry.slug = some specification ∧
      entry.name = (if trim specification.name = "" then entry.slug else trim specification.name) ∧
      entry.path = storage.location entry.slug

/-- Where no document has the slug of a text, what is read and what is deleted is the document that
has the text as its name, of several documents the one with the least slug. -/
structure FindsLeast (storage : Storage State) (state : State) (entries : List SavedEntry)
    (nameOrSlug : String) : Prop where
  load : storage.specification? state (ofName nameOrSlug) = none →
    ∀ slug, SavedEntry.IsLeastNamed entries (trim nameOrSlug) slug →
      storage.load state nameOrSlug = .ok (storage.specification? state slug)
  load_unnamed : storage.specification? state (ofName nameOrSlug) = none →
    (∀ entry ∈ entries, entry.name ≠ trim nameOrSlug) → storage.load state nameOrSlug = .ok none
  remove : ∀ between, storage.deleteSlug (ofName nameOrSlug) state = (.ok false, between) →
    storage.list between = storage.list state →
      ∀ slug, SavedEntry.IsLeastNamed entries (trim nameOrSlug) slug →
        storage.remove nameOrSlug state = storage.deleteSlug slug between
  remove_unnamed : ∀ between, storage.deleteSlug (ofName nameOrSlug) state = (.ok false, between) →
    storage.list between = storage.list state →
      (∀ entry ∈ entries, entry.name ≠ trim nameOrSlug) →
        storage.remove nameOrSlug state = (.ok false, between)

theorem saved?_eq_some_iff {storage : Storage State} {state : State} {slug : String}
    {entry : SavedEntry} :
    storage.saved? state slug = some entry ↔ ∃ specification,
      storage.specification? state slug = some specification ∧
        entry.name = (if trim specification.name = "" then slug else trim specification.name) ∧
        entry.slug = slug ∧ entry.path = storage.location slug := by
  rw [saved?, Option.map_eq_some_iff]
  constructor
  · rintro ⟨specification, found, rfl⟩
    exact ⟨specification, found, by simp [String.isEmpty_iff], rfl, rfl⟩
  · obtain ⟨entryName, entrySlug, entryPath⟩ := entry
    rintro ⟨specification, found, name, rfl, path⟩
    refine ⟨specification, found, ?_⟩
    dsimp only at name path
    rw [name, path]
    simp [String.isEmpty_iff]

theorem isSome_saved? (storage : Storage State) (state : State) (slug : String) :
    (storage.saved? state slug).isSome = (storage.specification? state slug).isSome := by
  rw [saved?, Option.isSome_map]

theorem exists_records {storage : Storage State} {state : State} {slugs : List String}
    (found : storage.slugs state = .ok slugs) (distinct : slugs.Nodup) :
    ∃ entries, storage.list state = .ok entries ∧ storage.Records state slugs entries := by
  obtain ⟨entries, listed, ordered, distinctSlugs, mem⟩ := list_spec found distinct
  refine ⟨entries, listed, ordered, ?_, ?_⟩
  · rw [List.perm_ext_iff_of_nodup distinctSlugs (distinct.filter _)]
    intro slug
    rw [List.mem_map, List.mem_filter]
    constructor
    · rintro ⟨entry, member, rfl⟩
      obtain ⟨enumerated, saved⟩ := (mem entry).mp member
      refine ⟨enumerated, ?_⟩
      rw [← isSome_saved?, saved, Option.isSome_some]
    · rintro ⟨enumerated, parsed⟩
      rw [← isSome_saved?] at parsed
      obtain ⟨entry, saved⟩ := Option.isSome_iff_exists.mp parsed
      obtain rfl := saved?_slug saved
      exact ⟨entry, (mem entry).mpr ⟨enumerated, saved⟩, rfl⟩
  · intro entry member
    obtain ⟨specification, parsed, name, -, path⟩ :=
      saved?_eq_some_iff.mp ((mem entry).mp member).2
    exact ⟨specification, parsed, name, path⟩

section Lookup

variable {storage : Storage State} {state : State} {entries : List SavedEntry}
  {name nameOrSlug slug : String}

theorem findName_of_isLeastNamed (listed : storage.list state = .ok entries)
    (ordered : entries.Pairwise SavedEntry.Precedes)
    (least : SavedEntry.IsLeastNamed entries name slug) :
    storage.findName state name = .ok (some slug) := by
  rw [findName, listed, ← (SavedEntry.find?_name_iff ordered name slug).mpr least]
  rfl

theorem findName_of_unnamed (listed : storage.list state = .ok entries)
    (unnamed : ∀ entry ∈ entries, entry.name ≠ name) : storage.findName state name = .ok none := by
  have noEntry : entries.find? (fun entry => entry.name == name) = none :=
    List.find?_eq_none.mpr fun entry member => by simpa using unnamed entry member
  rw [findName, listed]
  exact congrArg (fun entry? => Except.ok (Option.map SavedEntry.slug entry?)) noEntry

/-- Where a text has no document under its slug, it is looked up as a name. -/
theorem load_eq_of_findName (solid : trim nameOrSlug ≠ "")
    (absent : storage.specification? state (ofName nameOrSlug) = none) {slug? : Option String}
    (found : storage.findName state (trim nameOrSlug) = .ok slug?) :
    storage.load state nameOrSlug = .ok (slug?.bind (storage.specification? state)) := by
  have resolved : storage.resolve state nameOrSlug = .ok slug? := by
    simp only [resolve, String.isEmpty_iff, solid, if_false, Text.Slug.ofName_trim, absent,
      Option.isSome_none, Bool.false_eq_true, found]
  rw [load, resolved]
  rfl

/-- Where nothing is deleted under its slug, a text is looked up as a name. -/
theorem remove_eq_of_findName {between : State} (solid : trim nameOrSlug ≠ "")
    (kept : storage.deleteSlug (ofName nameOrSlug) state = (.ok false, between))
    {slug? : Option String} (found : storage.findName between (trim nameOrSlug) = .ok slug?) :
    storage.remove nameOrSlug state =
      slug?.elim (.ok false, between) fun slug => storage.deleteSlug slug between := by
  simp only [remove, String.isEmpty_iff, solid, if_false, Text.Slug.ofName_trim, kept, found]
  cases slug? <;> rfl

theorem findsLeast (listed : storage.list state = .ok entries)
    (ordered : entries.Pairwise SavedEntry.Precedes) (solid : trim nameOrSlug ≠ "") :
    storage.FindsLeast state entries nameOrSlug where
  load absent _ least := load_eq_of_findName solid absent
    (findName_of_isLeastNamed listed ordered least)
  load_unnamed absent unnamed := load_eq_of_findName solid absent
    (findName_of_unnamed listed unnamed)
  remove _ kept same _ least := remove_eq_of_findName solid kept
    (findName_of_isLeastNamed (same.trans listed) ordered least)
  remove_unnamed _ kept same unnamed := remove_eq_of_findName solid kept
    (findName_of_unnamed (same.trans listed) unnamed)

end Lookup

/-- Lists are equal if the same records are among what is enumerated. -/
theorem list_congr {Other : Type} {first : Storage State} {second : Storage Other} {state : State}
    {other : Other} {slugs others : List String} (found : first.slugs state = .ok slugs)
    (distinct : slugs.Nodup) (foundOther : second.slugs other = .ok others)
    (distinctOther : others.Nodup)
    (same : ∀ slug entry, (slug ∈ slugs ∧ first.saved? state slug = some entry) ↔
      (slug ∈ others ∧ second.saved? other slug = some entry)) :
    first.list state = second.list other := by
  obtain ⟨entries, listed, ordered, -, mem⟩ := list_spec found distinct
  obtain ⟨entriesOther, listedOther, orderedOther, -, memOther⟩ :=
    list_spec foundOther distinctOther
  rw [listed, listedOther]
  refine congrArg Except.ok (ordered.eq_of_mem_iff orderedOther fun entry => ?_)
  rw [mem, memOther, same]

namespace Reordered

variable {first second : Storage State}

theorem specification? (reordered : first.Reordered second) :
    first.specification? = second.specification? := by
  funext state slug
  rw [Storage.specification?, Storage.specification?, reordered.read]

theorem saved? (reordered : first.Reordered second) : first.saved? = second.saved? := by
  funext state slug
  rw [Storage.saved?, Storage.saved?, reordered.specification?, location, location, reordered.root]

theorem list (reordered : first.Reordered second)
    (distinct : first.EnumeratesOnce) :
    first.list = second.list := by
  funext state
  rcases reordered.slugs state with
    ⟨slugs, others, found, foundOther, perm⟩ | ⟨error, fails, failsOther⟩
  · have distinctSlugs := distinct state slugs found
    refine list_congr found distinctSlugs foundOther (perm.nodup_iff.mp distinctSlugs) ?_
    intro slug entry
    rw [perm.mem_iff, reordered.saved?]
  · rw [Storage.list, Storage.list, fails, failsOther]

theorem findName (reordered : first.Reordered second)
    (distinct : first.EnumeratesOnce) :
    first.findName = second.findName := by
  funext state name
  rw [Storage.findName, Storage.findName, reordered.list distinct]

theorem load (reordered : first.Reordered second)
    (distinct : first.EnumeratesOnce) :
    first.load = second.load := by
  funext state nameOrSlug
  rw [Storage.load, Storage.load, resolve, resolve, reordered.specification?,
    reordered.findName distinct]

theorem remove (reordered : first.Reordered second)
    (distinct : first.EnumeratesOnce) :
    first.remove = second.remove := by
  have deleteSlug : first.deleteSlug = second.deleteSlug := by
    funext slug state
    rw [Storage.deleteSlug, Storage.deleteSlug, reordered.delete]
  funext nameOrSlug state
  rw [Storage.remove, Storage.remove, deleteSlug, reordered.findName distinct]

theorem save (reordered : first.Reordered second) : first.save = second.save := by
  funext specification name? state
  simp only [Storage.save, reordered.write, location, reordered.root]

/-- No history of requests tells in which order documents are enumerated. -/
theorem answers (reordered : first.Reordered second)
    (distinct : first.EnumeratesOnce) (state : State) (requests : List Request) :
    first.answers state requests = second.answers state requests := by
  have answer : first.answer = second.answer := by
    funext state request
    cases request with
    | save specification name? => rw [Storage.answer, Storage.answer, reordered.save]
    | importFrom files path name? =>
        simp only [Storage.answer, importFrom, reordered.save]
    | load nameOrSlug => rw [Storage.answer, Storage.answer, reordered.load distinct]
    | remove nameOrSlug => rw [Storage.answer, Storage.answer, reordered.remove distinct]
    | list => rw [Storage.answer, Storage.answer, reordered.list distinct]
  induction requests generalizing state with
  | nil => rfl
  | cons request rest ih => simp only [Storage.answers, answer, ih]

/-- The order in which documents are enumerated shows in no answer and in no state. The records are
strictly in order, one for each document that can be read, and among documents of one name the one
with the least slug is found: to be read and to be removed, where none has the name as its slug. -/
theorem indifferent (reordered : first.Reordered second)
    (distinct : first.EnumeratesOnce) (state : State) :
    first.list state = second.list state ∧
      (∀ nameOrSlug, first.load state nameOrSlug = second.load state nameOrSlug ∧
        first.remove nameOrSlug state = second.remove nameOrSlug state) ∧
      ∀ slugs, first.slugs state = .ok slugs →
        ∃ entries, first.list state = .ok entries ∧ first.Records state slugs entries ∧
          (∀ name, ∃ slug?, first.findName state name = .ok slug? ∧
            ∀ slug, slug? = some slug ↔ SavedEntry.IsLeastNamed entries name slug) ∧
          ∀ nameOrSlug, trim nameOrSlug ≠ "" → first.FindsLeast state entries nameOrSlug := by
  refine ⟨congrFun (reordered.list distinct) state, ?_, ?_⟩
  · intro nameOrSlug
    rw [reordered.load distinct, reordered.remove distinct]
    exact ⟨rfl, rfl⟩
  · intro slugs found
    obtain ⟨entries, listed, records⟩ := exists_records found (distinct state slugs found)
    refine ⟨entries, listed, records, ?_, fun _ solid => findsLeast listed records.ordered solid⟩
    intro name
    refine ⟨_, ?_, SavedEntry.find?_name_iff records.ordered name⟩
    rw [Storage.findName, listed]
    rfl

/-- Two documents of one name, and one that cannot be read, enumerated forwards and backwards. -/
theorem indifferent_backwards :
    let backwards : Storage Documents :=
      { Documents.storage with slugs := fun documents => .ok documents.slugs.reverse }
    let document := ({ name := " twin" } : Specification).document
    let documents : Documents := { entries := [("b", document), ("a", document), ("c", "\x7b")] }
    Documents.storage.list documents = backwards.list documents ∧
      (∀ nameOrSlug,
        Documents.storage.load documents nameOrSlug = backwards.load documents nameOrSlug ∧
        Documents.storage.remove nameOrSlug documents = backwards.remove nameOrSlug documents) ∧
      Documents.storage.findName documents "twin" = .ok (some "a") ∧
      Documents.storage.load documents "twin" = .ok (some { name := " twin" }) ∧
      Documents.storage.remove "twin" documents = (.ok true, documents.erase "a") := by
  intro backwards document documents
  have reordered : Documents.storage.Reordered backwards :=
    { root := rfl
      read := rfl
      write := rfl
      delete := rfl
      slugs := fun documents => .inl ⟨_, _, rfl, rfl, documents.slugs.reverse_perm.symm⟩ }
  have distinct : Documents.storage.EnumeratesOnce := by
    intro documents slugs found
    cases found
    exact documents.distinct
  obtain ⟨lists, others, rest⟩ := indifferent reordered distinct documents
  obtain ⟨entries, -, records, lookups, findsLeast⟩ := rest documents.slugs rfl
  obtain ⟨slug?, found, least⟩ := lookups "twin"
  have read : Documents.storage.read documents "a" = .ok (some document) := rfl
  have parsed : Documents.storage.specification? documents "a" = some { name := " twin" } := by
    rw [Storage.specification?, read]
    exact congrArg Except.toOption (Specification.ofDocument_document { name := " twin" })
  have unique : SavedEntry.IsLeastNamed entries "twin" "a" := by
    constructor
    · have member : "a" ∈ entries.map SavedEntry.slug := by
        rw [records.slugs.mem_iff, List.mem_filter, parsed]
        exact ⟨by decide, rfl⟩
      obtain ⟨entry, listed, slug⟩ := List.mem_map.mp member
      obtain ⟨specification, parsedEntry, name, -⟩ := records.record entry listed
      rw [slug, parsed, Option.some.injEq] at parsedEntry
      subst parsedEntry
      rw [if_neg (by decide)] at name
      exact ⟨entry, listed, name.trans (by decide), slug⟩
    · intro entry listed _
      have member := List.mem_of_mem_filter
        (records.slugs.mem_iff.mp (List.mem_map_of_mem listed))
      have atLeast : ∀ slug ∈ documents.slugs, "a" ≤ slug := by decide
      exact atLeast entry.slug member
  rw [(least "a").mpr unique] at found
  have finds := findsLeast "twin" (by decide)
  have trimmed : trim "twin" = "twin" := by decide
  rw [← trimmed] at unique
  refine ⟨lists, others, found, ?_, ?_⟩
  · rw [finds.load (by rfl) "a" unique, parsed]
  · exact finds.remove documents rfl rfl "a" unique

end Reordered

end Storage

end FileSearch
