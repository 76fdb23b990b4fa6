import FileSearch.Files.Path
import FileSearch.Store.Error

/-!
# Storages of documents

A storage keeps documents under slugs. What it keeps them in is the type of its states.
-/

set_option autoImplicit false

namespace FileSearch

/-- A storage with states of some type. An operation that fails may have changed the state. -/
structure Storage (State : Type) where
  /-- The path that the locations of documents begin with. -/
  root : Path
  /-- The slugs of all documents, in no particular order. -/
  slugs : State → Except FileError (List String)
  /-- The document with a slug, if there is one. -/
  read : State → String → Except FileError (Option String)
  /-- Creates or replaces the document with a slug. -/
  write : String → String → State → Except FileError Unit × State
  /-- Deletes the document with a slug. Says whether there was one. -/
  delete : String → State → Except FileError Bool × State

namespace Storage

/-- The ending of the names of documents. -/
def ending : String := ".json"

/-- Where the document with a slug is, or would be. -/
def location {State : Type} (storage : Storage State) (slug : String) : Path :=
  storage.root.join (Path.ofText (slug ++ ending))

end Storage

end FileSearch
