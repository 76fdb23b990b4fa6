import FileSearch.Proofs.Lookup
import FileSearch.Proofs.Store.Contract
import FileSearch.Store.Memory

/-!
# Documents in memory

Writing and deleting a document change what is found under its slug and nothing else, so documents
in memory are a storage that keeps its promises.
-/

set_option autoImplicit false

namespace FileSearch

namespace Documents

theorem get?_empty (slug : String) : ({} : Documents).get? slug = none :=
  rfl

theorem mem_slugs_iff {documents : Documents} {slug : String} :
    slug ∈ documents.slugs ↔ (documents.get? slug).isSome = true := by
  rw [get?, List.lookup_isSome_iff, slugs, List.mem_map]
  simp only [beq_iff_eq]
  constructor
  · rintro ⟨entry, member, rfl⟩
    exact ⟨entry, member, rfl⟩
  · rintro ⟨entry, member, same⟩
    exact ⟨entry, member, same.symm⟩

theorem get?_erase (documents : Documents) (slug key : String) :
    (documents.erase slug).get? key = if key = slug then none else documents.get? key := by
  have kept := Lookup.lookup_filter documents.entries (· != slug) key
  rw [get?, erase, kept, get?]
  by_cases same : key = slug <;> simp [same]

theorem get?_insert (documents : Documents) (slug document key : String) :
    (documents.insert slug document).get? key =
      if key = slug then some document else documents.get? key := by
  change ((slug, document) :: (documents.erase slug).entries).lookup key = _
  rw [List.lookup_cons]
  by_cases found : key = slug
  · rw [if_pos found, beq_iff_eq.mpr found]
  · have other := documents.get?_erase slug key
    rw [if_neg found] at other ⊢
    rw [beq_eq_false_iff_ne.mpr found]
    exact other

/-- Documents in memory keep the promises of a storage in all their states. -/
def contract : storage.Contract where
  Sound _ := True
  get? := get?
  slugs_spec {documents} _ :=
    ⟨documents.slugs, rfl, documents.distinct, fun _ => mem_slugs_iff⟩
  read_spec _ _ := rfl
  write_spec {documents} _ _ _ := ⟨_, rfl, trivial, documents.get?_insert _ _⟩
  delete_spec {documents} _ _ := ⟨_, rfl, trivial, documents.get?_erase _⟩

theorem contract_complete : contract.Complete where
  read_stored _ _ := rfl
  delete_stored {documents slug} _ stored := by
    refine ⟨documents.erase slug, ?_, trivial, documents.get?_erase slug⟩
    change (Except.ok (documents.get? slug).isSome, documents.erase slug) = _
    rw [show (documents.get? slug).isSome = true from stored]

theorem contract_empty : contract.Empty {} :=
  ⟨trivial, get?_empty⟩

end Documents

end FileSearch
