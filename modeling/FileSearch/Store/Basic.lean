import FileSearch.Files.Tree
import FileSearch.Specification.Document
import FileSearch.Store.Storage
import FileSearch.Text.Slug

/-!
# Saved specifications

A store keeps specifications as documents, under slugs of their names. A specification is found by
its slug first and by its name otherwise.
-/

set_option autoImplicit false

namespace FileSearch

structure SavedEntry where
  name : String
  slug : String
  path : Path
  deriving DecidableEq, Repr

namespace SavedEntry

/-- The order of saved specifications in lists: by name, then by slug. -/
def comesBefore (left right : SavedEntry) : Bool :=
  left.name < right.name || (left.name == right.name && left.slug ≤ right.slug)

end SavedEntry

namespace Specification

/-- The name of a specification that is saved without one. -/
def unnamed : String := "Unnamed"

/-- The name to save a specification under: the given one, or else its own. A given name must not be
blank. -/
def savedName? (specification : Specification) (name? : Option String) : Option String :=
  match name? with
  | some name => if (Text.trim name).isEmpty then none else some (Text.trim name)
  | none =>
    let name := Text.trim specification.name
    some (if name.isEmpty then unnamed else name)

/-- The form in which a specification is saved under a name: within its limits, and with an action.
-/
def canonical (specification : Specification) (name : String) : Specification :=
  let limited := { specification with name }.limited
  { limited with actions := limited.actions.withEffect }

end Specification

namespace Storage

variable {State : Type}

def specification? (storage : Storage State) (state : State) (slug : String) :
    Option Specification :=
  match storage.read state slug with
  | .ok (some document) => (Specification.ofDocument document).toOption
  | _ => none

/-- The entry for a slug. A specification without a name is listed under its slug. -/
def saved? (storage : Storage State) (state : State) (slug : String) :
    Option SavedEntry :=
  (storage.specification? state slug).map fun specification =>
    let name := Text.trim specification.name
    { name := if name.isEmpty then slug else name
      slug := slug
      path := storage.location slug }

/-- The specifications that can be read, in order. -/
def list (storage : Storage State) (state : State) : Except StoreError (List SavedEntry) :=
  match storage.slugs state with
  | .error error => .error (.file error)
  | .ok slugs =>
    .ok ((slugs.filterMap (storage.saved? state)).mergeSort SavedEntry.comesBefore)

def findName (storage : Storage State) (state : State) (name : String) :
    Except StoreError (Option String) := do
  let entries ← storage.list state
  return (entries.find? fun entry => entry.name == name).map SavedEntry.slug

def resolve (storage : Storage State) (state : State) (nameOrSlug : String) :
    Except StoreError (Option String) :=
  let name := Text.trim nameOrSlug
  if name.isEmpty then .ok none
  else
    let slug := Text.Slug.ofName name
    if (storage.specification? state slug).isSome then .ok (some slug)
    else storage.findName state name

def load (storage : Storage State) (state : State) (nameOrSlug : String) :
    Except StoreError (Option Specification) := do
  return (← storage.resolve state nameOrSlug).bind (storage.specification? state)

/-- Saves a specification under a name, or else under its own. -/
def save (storage : Storage State) (specification : Specification) (name? : Option String)
    (state : State) : Except StoreError SavedEntry × State :=
  match specification.savedName? name? with
  | none => (.error (.invalidName ""), state)
  | some name =>
    let canonical := specification.canonical name
    let slug := Text.Slug.ofName canonical.name
    match storage.write slug canonical.document state with
    | (.error error, state) => (.error (.file error), state)
    | (.ok (), state) =>
      (.ok { name := canonical.name, slug := slug, path := storage.location slug }, state)

def deleteSlug (storage : Storage State) (slug : String) (state : State) :
    Except StoreError Bool × State :=
  let (result, state) := storage.delete slug state
  (result.mapError .file, state)

/-- Removes the specification that a name or slug stands for. A document under the slug is removed
even if it cannot be read. -/
def remove (storage : Storage State) (nameOrSlug : String) (state : State) :
    Except StoreError Bool × State :=
  let name := Text.trim nameOrSlug
  if name.isEmpty then (.ok false, state)
  else
    match storage.deleteSlug (Text.Slug.ofName name) state with
    | (.ok false, state) =>
      match storage.findName state name with
      | .ok (some slug) => storage.deleteSlug slug state
      | .ok none => (.ok false, state)
      | .error error => (.error error, state)
    | other => other

/-- Saves the specification in a file, under a name or else under its own. -/
def importFrom (storage : Storage State) (tree : FileTree) (path : Path) (name? : Option String)
    (state : State) : Except StoreError SavedEntry × State :=
  match tree.readText path with
  | .error error => (.error (.file error), state)
  | .ok document =>
    match Specification.ofDocument document with
    | .error error => (.error (.document error), state)
    | .ok specification => storage.save specification name? state

end Storage

end FileSearch
