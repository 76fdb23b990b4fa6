import FileSearch.Store.Storage

/-!
# Documents in memory

A collection of documents is a list of bindings with distinct slugs.
-/

set_option autoImplicit false

namespace FileSearch

/-- Documents under distinct slugs. -/
structure Documents where
  entries : List (String × String) := []
  distinct : (entries.map Prod.fst).Nodup := by simp
  deriving Repr

namespace Documents

def slugs (documents : Documents) : List String :=
  documents.entries.map Prod.fst

def get? (documents : Documents) (slug : String) : Option String :=
  documents.entries.lookup slug

/-- Bindings without the one of a slug have distinct slugs. -/
theorem nodup_filter (documents : Documents) (slug : String) :
    ((documents.entries.filter fun entry => entry.1 != slug).map Prod.fst).Nodup :=
  documents.distinct.sublist (List.filter_sublist.map Prod.fst)

def erase (documents : Documents) (slug : String) : Documents where
  entries := documents.entries.filter fun entry => entry.1 != slug
  distinct := documents.nodup_filter slug

/-- The documents with a new one, which replaces the one with its slug. -/
def insert (documents : Documents) (slug document : String) : Documents where
  entries := (slug, document) :: (documents.erase slug).entries
  distinct := by
    rw [List.map_cons, List.nodup_cons]
    refine ⟨?_, documents.nodup_filter slug⟩
    simp [erase]

/-- Documents in memory as a storage. No operation on them fails. -/
def storage : Storage Documents where
  root := Path.ofText "memory"
  slugs documents := .ok documents.slugs
  read documents slug := .ok (documents.get? slug)
  write slug document documents := (.ok (), documents.insert slug document)
  delete slug documents := (.ok (documents.get? slug).isSome, documents.erase slug)

end Documents

end FileSearch
