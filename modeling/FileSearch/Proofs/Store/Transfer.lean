import FileSearch.Proofs.Files.Access
import FileSearch.Proofs.Store.Meaning

/-!
# Documents from one store to another

A stored specification is in the form that saving gives it, so to save it again under its own name
changes nothing but that name: blanks that the limit of a name has left at its end are lost.
-/

set_option autoImplicit false

namespace FileSearch

open Text (trim truncate)
open Text.Slug (ofName)

/-! ## Saved forms -/

theorem ActionOptions.limit_withEffect {options : ActionOptions}
    (limited : ActionOptions.schema.limit options = options) :
    ActionOptions.schema.limit options.withEffect = options.withEffect := by
  by_cases effect : options.hasEffect = true
  · have unchanged : options.withEffect = options := if_pos effect
    rw [unchanged, limited]
  · have printing : options.withEffect = { options with print := true } := if_neg effect
    rw [printing]
    exact congrArg (fun options : ActionOptions => { options with print := true }) limited

namespace Specification

theorem limited_actions (specification : Specification) :
    specification.limited.actions = ActionOptions.schema.limit specification.actions :=
  rfl

theorem limited_with_actions (specification : Specification) (actions : ActionOptions) :
    ({ specification with actions } : Specification).limited =
      { specification.limited with actions := ActionOptions.schema.limit actions } :=
  rfl

theorem document_inj {specification other : Specification}
    (same : specification.document = other.document) : specification = other := by
  have read := specification.ofDocument_document
  rw [same, other.ofDocument_document, Except.ok.injEq] at read
  exact read.symm

/-- Specifications that saving leaves as they are, up to their names. -/
structure IsSettled (specification : Specification) : Prop where
  limited : specification.limited = specification
  actions : specification.actions.withEffect = specification.actions

theorem isSettled_withEffect {specification : Specification}
    (limited : specification.limited = specification) :
    IsSettled { specification with actions := specification.actions.withEffect } where
  limited := by
    have actions := specification.limited_actions
    rw [limited] at actions
    rw [limited_with_actions, limited, ActionOptions.limit_withEffect actions.symm]
  actions := ActionOptions.withEffect_withEffect specification.actions

theorem isSettled_canonical (specification : Specification) (name : String) :
    (specification.canonical name).IsSettled :=
  isSettled_withEffect (limited_limited { specification with name })

namespace IsSettled

variable {specification : Specification}

theorem size_name_le (settled : specification.IsSettled) :
    specification.name.utf8ByteSize ≤ Limit.name := by
  have cut : truncate specification.name Limit.name = specification.name :=
    congrArg Specification.name settled.limited
  rw [← cut]
  exact Text.utf8ByteSize_truncate_le _ _

theorem canonical_eq (settled : specification.IsSettled) {name : String}
    (within : name.utf8ByteSize ≤ Limit.name) :
    specification.canonical name = { specification with name } := by
  have limited : ({ specification with name } : Specification).limited =
      { specification with name } := by
    rw [limited_with_name, settled.limited, Text.truncate_eq_self within]
  rw [canonical, limited]
  exact congrArg (fun actions => { specification with name, actions }) settled.actions

end IsSettled

end Specification

/-! ## Exported documents -/

/-- Files among which there is one with a document. -/
def FileTree.shared (document : String) : FileTree where
  nodes := [([Path.ofText "shared.json"], .file (Bytes.ofText document) false)]

theorem FileTree.readText_shared (document : String) :
    (shared document).readText (Path.ofText "shared.json") = .ok document := by
  have isName : Path.IsName (Path.ofText "shared.json") :=
    ⟨by decide, by decide, by decide, by decide, by decide⟩
  have found : (shared document).node? ([] ++ [Path.ofText "shared.json"]) =
      some (.file (Bytes.ofText document) false) := rfl
  exact readText_of_text
    (locate_name rfl isName (by decide) (found ▸ by simp)) found

/-! ## Stored specifications -/

namespace Catalog

/-- Catalogs of specifications in the form that saving gives them. -/
def IsSettled (catalog : Catalog) : Prop :=
  ∀ slug specification, catalog.lookup slug = some specification → specification.IsSettled

variable {location : String → Path} {catalog after : Catalog}

theorem IsSettled.empty : IsSettled ∅ := by
  intro slug specification found
  rw [Finmap.lookup_empty] at found
  cases found

theorem IsSettled.insert (settled : catalog.IsSettled) {slug : String}
    {specification : Specification} (new : specification.IsSettled) :
    IsSettled (catalog.insert slug specification) := by
  intro key other found
  rw [lookup_insert_eq] at found
  split at found
  · rw [Option.some.injEq] at found
    exact found ▸ new
  · exact settled key other found

theorem IsSettled.erase (settled : catalog.IsSettled) (slug : String) :
    IsSettled (catalog.erase slug) := by
  intro key other found
  rw [lookup_erase_eq] at found
  split at found
  · cases found
  · exact settled key other found

/-- No request stores a specification in another form. -/
theorem Answers.isSettled {request : Request} {answer : Answer}
    (answers : catalog.Answers location request answer after) (settled : catalog.IsSettled) :
    after.IsSettled := by
  induction answers with
  | saved names => exact settled.insert (Specification.isSettled_canonical _ _)
  | refused _ => exact settled
  | unreadable _ => exact settled
  | malformed _ _ => exact settled
  | imported _ _ _ ih => exact ih
  | loaded => exact settled
  | removed =>
      unfold discard
      split
      · exact settled
      · exact settled.erase _
  | listed _ => exact settled

theorem Runs.isSettled {requests : List Request} {answers : List Answer}
    (runs : Runs location catalog requests answers after) (settled : catalog.IsSettled) :
    after.IsSettled := by
  induction runs with
  | nil => exact settled
  | cons answered _ ih => exact ih (answered.isSettled settled)

end Catalog

namespace Storage.Contract

variable {State Target : Type} {storage : Storage State} {targetStorage : Storage Target}
  {contract : storage.Contract} {target : targetStorage.Contract} {state : State}
  {targetState : Target}

theorem Reached.exists_settled (reached : contract.Reached state) :
    ∃ catalog : Catalog, contract.Holds state catalog ∧ catalog.IsSettled := by
  obtain ⟨initial, requests, empty, rfl⟩ := reached
  obtain ⟨catalog, runs, holds⟩ := empty.holds.answers requests
  exact ⟨catalog, holds, runs.isSettled Catalog.IsSettled.empty⟩

theorem exists_import_of_settled (sound : target.Sound targetState) {specification : Specification}
    (settled : specification.IsSettled) (solid : trim specification.name ≠ "") {files : FileTree}
    {path : Path} (read : files.readText path = .ok specification.document) :
    ∃ entry after, targetStorage.importFrom files path none targetState = (.ok entry, after) ∧
      entry.slug = ofName specification.name ∧
      ∀ key, target.get? after key = if key = ofName specification.name then
          some ({ specification with name := trim specification.name } : Specification).document
        else target.get? targetState key := by
  -- To be saved again takes the blanks off the name, and nothing else is cut.
  have within := (Text.utf8ByteSize_trim_le specification.name).trans settled.size_name_le
  have canonical := settled.canonical_eq within
  obtain ⟨after, written, -, rest⟩ := target.write_spec sound (trim specification.name)
    ({ specification with name := trim specification.name } : Specification).document
  rw [Text.Slug.ofName_trim] at written rest
  let entry : SavedEntry :=
    { name := trim specification.name
      slug := ofName specification.name
      path := targetStorage.location (ofName specification.name) }
  refine ⟨entry, after, ?_, rfl, rest⟩
  simp only [importFrom, read, specification.ofDocument_document, save, Specification.savedName?,
    String.isEmpty_iff, solid, if_false, canonical, Text.Slug.ofName_trim, written]
  rfl

/-- A stored document that is exported to a file and imported from it, into the same store or any
other, comes under the slug it has, and all but its name is the same. It is the same document
exactly when its name does not end in a blank. -/
theorem imported_iff (reached : contract.Reached state) {slug document : String}
    (stored : contract.get? state slug = some document) (sound : target.Sound targetState)
    {files : FileTree} {path : Path} (read : files.readText path = .ok document) :
    ∃ specification entry after, Specification.ofDocument document = .ok specification ∧
      specification.document = document ∧
      targetStorage.importFrom files path none targetState = (.ok entry, after) ∧
      entry.slug = slug ∧
      (∀ key, target.get? after key = if key = slug then
          some ({ specification with name := trim specification.name } : Specification).document
        else target.get? targetState key) ∧
      (target.get? after slug = some document ↔
        trim specification.name = specification.name) := by
  obtain ⟨catalog, holds, settled⟩ := reached.exists_settled
  rw [holds.stored, Option.map_eq_some_iff] at stored
  obtain ⟨specification, found, rfl⟩ := stored
  have kept := holds.kept slug specification found
  obtain ⟨entry, after, imported, entrySlug, rest⟩ :=
    exists_import_of_settled sound (settled slug specification found) kept.named read
  rw [kept.slug_eq] at entrySlug rest
  refine ⟨specification, entry, after, specification.ofDocument_document, rfl, imported, entrySlug,
    rest, ?_⟩
  rw [rest, if_pos rfl, Option.some.injEq]
  constructor
  · intro same
    exact congrArg Specification.name (Specification.document_inj same)
  · intro trimmed
    rw [trimmed]

/-! ## One document exported -/

theorem Empty.reached_save (empty : contract.Empty state) {specification : Specification}
    {name? : Option String} {result : Except StoreError SavedEntry} {after : State}
    (saved : storage.save specification name? state = (result, after)) :
    contract.Reached after := by
  refine ⟨state, [.save specification name?], empty, ?_⟩
  simp only [answers, answer, saved]
  rfl

theorem imported_report :
    ∃ (documents : Documents) (document : String) (entry : SavedEntry) (after : Documents),
      Documents.contract.Reached documents ∧ documents.get? "my-report" = some document ∧
      Documents.storage.importFrom (.shared document) (Path.ofText "shared.json") none {} =
        (.ok entry, after) ∧
      entry.slug = "my-report" ∧ after.get? "my-report" = some document := by
  have names : Catalog.Names {} (some "My report") (truncate (trim "My report") Limit.name) :=
    .given (by decide)
  have name : truncate (trim "My report") Limit.name = "My report" := by decide
  have slug : ofName "My report" = "my-report" := by decide
  rw [name] at names
  obtain ⟨documents, saved, holds⟩ := Documents.contract_empty.holds.save names
  have reached := Documents.contract_empty.reached_save saved
  have stored := holds.stored "my-report"
  rw [slug, Finmap.lookup_insert, Option.map_some] at stored
  obtain ⟨specification, entry, after, parsed, -, imported, entrySlug, -, same⟩ :=
    imported_iff reached stored Documents.contract_empty.sound (FileTree.readText_shared _)
  rw [Specification.ofDocument_document, Except.ok.injEq] at parsed
  subst parsed
  refine ⟨documents, _, entry, after, reached, stored, imported, entrySlug, same.mpr ?_⟩
  rw [Specification.canonical_name]
  decide

/-- A name that ends in a blank once it is cut. -/
theorem imported_cut_name :
    ∃ (documents : Documents) (document : String) (entry : SavedEntry) (after : Documents),
      Documents.contract.Reached documents ∧
      documents.get? (String.ofList (List.replicate 64 'a')) = some document ∧
      Documents.storage.importFrom (.shared document) (Path.ofText "shared.json") none documents =
        (.ok entry, after) ∧
      after.get? (String.ofList (List.replicate 64 'a')) ≠ some document := by
  have solid : trim (String.ofList (List.replicate 126 'a' ++ [' ', 'b'])) ≠ "" := by
    rw [ne_eq, Text.trim_eq_empty_iff, String.toList_ofList]
    decide +kernel
  have cut : truncate (trim (String.ofList (List.replicate 126 'a' ++ [' ', 'b']))) Limit.name =
      String.ofList (List.replicate 126 'a' ++ [' ']) := by
    simp only [truncate, trim, String.toList_ofList, String.ofList_inj]
    decide +kernel
  have slug : ofName (String.ofList (List.replicate 126 'a' ++ [' '])) =
      String.ofList (List.replicate 64 'a') := by
    simp only [ofName, String.toList_ofList, String.ofList_inj]
    decide +kernel
  have trimmed : trim (String.ofList (List.replicate 126 'a' ++ [' '])) ≠
      String.ofList (List.replicate 126 'a' ++ [' ']) := by
    simp only [trim, String.toList_ofList, ne_eq, String.ofList_inj]
    decide +kernel
  have names : Catalog.Names {} _ _ := .given solid
  rw [cut] at names
  obtain ⟨documents, saved, holds⟩ := Documents.contract_empty.holds.save names
  have stored := holds.stored (String.ofList (List.replicate 64 'a'))
  rw [slug, Finmap.lookup_insert, Option.map_some] at stored
  have named : (({} : Specification).canonical
      (String.ofList (List.replicate 126 'a' ++ [' ']))).name =
        String.ofList (List.replicate 126 'a' ++ [' ']) := by
    rw [Specification.canonical_name, ← cut, Text.truncate_truncate]
  have kept := holds.kept _ _ (Finmap.lookup_insert _)
  have reached := Documents.contract_empty.reached_save saved
  obtain ⟨entry, after, imported, -, rest⟩ :=
    exists_import_of_settled holds.sound (Specification.isSettled_canonical {} _) kept.named
      (FileTree.readText_shared _)
  refine ⟨documents, _, entry, after, reached, stored, imported, ?_⟩
  have written := rest (String.ofList (List.replicate 64 'a'))
  rw [named, if_pos slug.symm] at written
  intro same
  change after.get? _ = _ at written
  rw [written, Option.some.injEq] at same
  exact trimmed ((congrArg Specification.name (Specification.document_inj same)).trans named)

end Storage.Contract

end FileSearch
