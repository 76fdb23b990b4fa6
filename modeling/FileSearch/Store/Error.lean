import FileSearch.Files.Error
import FileSearch.Json.Error
import FileSearch.Text.Escaped

/-!
# Why a store fails
-/

set_option autoImplicit false

namespace FileSearch

/-- The causes for which an operation of a store fails. -/
inductive StoreError where
  | file (cause : FileError)
  | document (cause : Json.Error)
  | invalidName (name : String)
  | notFound (name : String)
  deriving DecidableEq, Repr

def StoreError.message : StoreError → String
  | file cause => "IO error: " ++ cause.message
  | document cause => "JSON error: " ++ cause.message
  | invalidName name => "invalid specification name: " ++ Text.escaped name
  | notFound name => "specification not found: " ++ name

end FileSearch
