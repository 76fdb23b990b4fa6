import FileSearch.Store.Basic

/-!
# Requests to stores

What can be asked of a store, and what it answers, as data. The history of a store is a list of
requests, each of which sees the state that the ones before it have left.
-/

set_option autoImplicit false

namespace FileSearch

inductive Request where
  | save (specification : Specification) (name? : Option String)
  /-- The files that there are when a specification is imported need not be those of the store. -/
  | importFrom (files : FileTree) (path : Path) (name? : Option String)
  | load (nameOrSlug : String)
  | remove (nameOrSlug : String)
  | list

inductive Answer where
  | saved (entry : SavedEntry)
  | loaded (specification? : Option Specification)
  /-- Whether there was something to remove. -/
  | removed (existed : Bool)
  | listed (entries : List SavedEntry)
  | failed (error : StoreError)
  deriving DecidableEq

def Answer.ofResult {α : Type} (answer : α → Answer) : Except StoreError α → Answer
  | .ok value => answer value
  | .error error => .failed error

namespace Storage

variable {State : Type}

/-- The answer to a request, and the state after it. Only saving, importing and removing lead to
another state. -/
def answer (storage : Storage State) (state : State) : Request → Answer × State
  | .save specification name? =>
    (storage.save specification name? state).map (.ofResult .saved) id
  | .importFrom files path name? =>
    (storage.importFrom files path name? state).map (.ofResult .saved) id
  | .load nameOrSlug => (.ofResult .loaded (storage.load state nameOrSlug), state)
  | .remove nameOrSlug => (storage.remove nameOrSlug state).map (.ofResult .removed) id
  | .list => (.ofResult .listed (storage.list state), state)

def answers (storage : Storage State) (state : State) : List Request → List Answer × State
  | [] => ([], state)
  | request :: rest =>
    let (first, state) := storage.answer state request
    let (others, state) := storage.answers state rest
    (first :: others, state)

end Storage

end FileSearch
