import FileSearch.Proofs.Store.Basic
import FileSearch.Store.Request

/-!
# What storages promise

The documents of a storage are a map from slugs, and in sound states no operation on the slug of a
name fails. Everything else about stores is derived from these promises.
-/

set_option autoImplicit false

namespace FileSearch

open Text.Slug (ofName)

/-- The promises of a storage: in which states they hold, which documents these have, and what the
operations find and leave. -/
structure Storage.Contract {State : Type} (storage : Storage State) where
  Sound : State → Prop
  get? : State → String → Option String
  slugs_spec : ∀ {state}, Sound state → ∃ slugs, storage.slugs state = .ok slugs ∧ slugs.Nodup ∧
    ∀ slug, slug ∈ slugs ↔ (get? state slug).isSome = true
  read_spec : ∀ {state}, Sound state → ∀ name,
    storage.read state (ofName name) = .ok (get? state (ofName name))
  write_spec : ∀ {state}, Sound state → ∀ name document,
    ∃ after, storage.write (ofName name) document state = (.ok (), after) ∧ Sound after ∧
      ∀ slug, get? after slug = if slug = ofName name then some document else get? state slug
  delete_spec : ∀ {state}, Sound state → ∀ name,
    ∃ after, storage.delete (ofName name) state =
        (.ok (get? state (ofName name)).isSome, after) ∧ Sound after ∧
      ∀ slug, get? after slug = if slug = ofName name then none else get? state slug

namespace Storage.Contract

variable {State : Type} {storage : Storage State}

/-- Promises for all documents that there are, also for those whose slugs no name stands for. -/
structure Complete (contract : storage.Contract) : Prop where
  read_stored : ∀ {state slug}, contract.Sound state → (contract.get? state slug).isSome = true →
    storage.read state slug = .ok (contract.get? state slug)
  delete_stored : ∀ {state slug}, contract.Sound state →
    (contract.get? state slug).isSome = true →
    ∃ after, storage.delete slug state = (.ok true, after) ∧ contract.Sound after ∧
      ∀ key, contract.get? after key = if key = slug then none else contract.get? state key

/-- An empty state, in which the promises hold. -/
structure Empty (contract : storage.Contract) (state : State) : Prop where
  sound : contract.Sound state
  get?_eq_none : ∀ slug, contract.get? state slug = none

/-- The states that requests lead to from an empty one. -/
def Reached (contract : storage.Contract) (state : State) : Prop :=
  ∃ initial requests, contract.Empty initial ∧ (storage.answers initial requests).2 = state

theorem Empty.reached {contract : storage.Contract} {state : State}
    (empty : contract.Empty state) : contract.Reached state :=
  ⟨state, [], empty, rfl⟩

theorem deleteSlug_spec (contract : storage.Contract) {state : State}
    (sound : contract.Sound state) (name : String) :
    ∃ after, storage.deleteSlug (ofName name) state =
        (.ok (contract.get? state (ofName name)).isSome, after) ∧ contract.Sound after ∧
      ∀ slug, contract.get? after slug =
        if slug = ofName name then none else contract.get? state slug := by
  obtain ⟨after, deleted, soundAfter, rest⟩ := contract.delete_spec sound name
  refine ⟨after, ?_, soundAfter, rest⟩
  rw [deleteSlug, deleted]
  rfl

end Storage.Contract

end FileSearch
