import FileSearch.Command.Basic
import FileSearch.Proofs.Specification.Limits
import FileSearch.Proofs.Store.Recall

/-!
# What saved specifications do

The form in which a specification is saved has the same command as the specification within its
limits: neither its name nor the printing that is selected for want of anything else shows in it.
-/

set_option autoImplicit false

namespace FileSearch

open Text (trim truncate)
open Text.Slug (ofName)

/-! ## Commands of saved forms -/

theorem ActionOptions.withEffect_withEffect (options : ActionOptions) :
    options.withEffect.withEffect = options.withEffect := by
  by_cases effect : options.hasEffect = true
  · have unchanged : options.withEffect = options := if_pos effect
    rw [unchanged, unchanged]
  · have printing : options.withEffect = { options with print := true } := if_neg effect
    rw [printing]
    exact if_pos rfl

namespace Specification

variable (specification : Specification) (includeActions : Bool) (program : String)

theorem command_with_name (name : String) :
    ({ specification with name } : Specification).command includeActions program =
      specification.command includeActions program :=
  rfl

/-- Printing that a search would do anyway does not show in its command. -/
theorem command_withEffect :
    ({ specification with actions := specification.actions.withEffect } :
        Specification).command includeActions program =
      specification.command includeActions program := by
  have actions : ({ specification with actions := specification.actions.withEffect } :
      Specification).actionPrimaries includeActions =
        specification.actionPrimaries includeActions := by
    unfold actionPrimaries
    rw [ActionOptions.withEffect_withEffect]
  unfold command
  rw [actions]
  rfl

theorem limited_with_name (name : String) :
    ({ specification with name } : Specification).limited =
      { specification.limited with name := truncate name Limit.name } :=
  rfl

/-- The saved form of a specification has the command of the specification within its limits. -/
theorem command_canonical (name : String) :
    (specification.canonical name).command includeActions program =
      specification.limited.command includeActions program :=
  calc (specification.canonical name).command includeActions program
    _ = ({ specification with name } : Specification).limited.command includeActions program :=
      command_withEffect _ includeActions program
    _ = specification.limited.command includeActions program := by
      rw [limited_with_name, command_with_name]

end Specification

/-! ## Commands of loaded specifications -/

namespace Storage.Contract

variable {State : Type} {storage : Storage State} {contract : storage.Contract} {state : State}
  {catalog : Catalog}

/-- What a save leaves is loaded by the name in its record, and by the slug unless that ends in a
dash. -/
theorem Holds.load_entry (holds : contract.Holds state catalog) {specification : Specification}
    {name? : Option String} {name : String} (names : Catalog.Names specification name? name)
    (found : catalog.lookup (ofName name) = some (specification.canonical name)) :
    storage.load state name = .ok (some (specification.canonical name)) ∧
      ((ofName name).toList.getLast? ≠ some '-' →
        storage.load state (ofName name) = .ok (some (specification.canonical name))) := by
  constructor
  · rw [holds.load, holds.find?_of_kept found]
    rw [Specification.canonical_name, names.truncate_eq]
  · intro undashed
    rw [holds.load_of_solid (Text.Slug.trim_ofName_ne_empty name),
      (Text.Slug.ofName_ofName_eq_iff name).mpr undashed, found]

/-- A specification that was saved and is loaded again has the command of the specification within
its limits, and that of the specification itself if only its name is too long. -/
theorem saved_command_eq (reached : contract.Reached state) (specification : Specification)
    {name? : Option String} (accepted : ∀ name, name? = some name → trim name ≠ "") :
    ∃ entry after document, storage.save specification name? state = (.ok entry, after) ∧
      storage.load after entry.name = .ok (some document) ∧
      (entry.slug.toList.getLast? ≠ some '-' →
        storage.load after entry.slug = .ok (some document)) ∧
      (∀ includeActions program, document.command includeActions program =
        specification.limited.command includeActions program) ∧
      ((∀ field ∈ Specification.schema.fields, field.key ≠ "specName" →
          Specification.Within field.kind (field.get specification)) →
        ∀ includeActions program, document.command includeActions program =
          specification.command includeActions program) := by
  obtain ⟨catalog, holds⟩ := reached.exists_holds
  rcases Catalog.names_or_blank specification name? with ⟨name, names⟩ | ⟨name, given, blank⟩
  · obtain ⟨after, saved, holdsAfter⟩ := holds.save names
    obtain ⟨byName, bySlug⟩ := holdsAfter.load_entry names (Finmap.lookup_insert _)
    refine ⟨_, after, specification.canonical name, saved, byName, bySlug, ?_, ?_⟩
    · intro includeActions program
      exact specification.command_canonical includeActions program name
    · intro within includeActions program
      rw [specification.command_canonical includeActions program name,
        Specification.limited_eq_of_within within, Specification.command_with_name]
  · exact absurd blank (accepted name given)

theorem saved_command_eq_report :
    ∃ entry after document,
      Documents.storage.save {} (some "My report") {} = (.ok entry, after) ∧
      Documents.storage.load after entry.name = .ok (some document) ∧
      ∀ includeActions program, document.command includeActions program =
        ({} : Specification).command includeActions program := by
  have accepted (name : String) (given : some "My report" = some name) : trim name ≠ "" := by
    cases given
    decide
  obtain ⟨entry, after, document, saved, loaded, -, -, same⟩ :=
    saved_command_eq Documents.contract_empty.reached {} accepted
  refine ⟨entry, after, document, saved, loaded, same ?_⟩
  intro field listed _
  exact Specification.Within.fresh field listed

end Storage.Contract

end FileSearch
