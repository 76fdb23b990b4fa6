import FileSearch.Unicode.LetterCase

/-!
# Report formats

The forms in which reports are given, and their names.
-/

set_option autoImplicit false

namespace FileSearch

inductive Format where
  | text
  | json
  | markdown
  deriving DecidableEq, Repr

namespace Format

def name : Format → String
  | text => "text"
  | json => "json"
  | markdown => "markdown"

/-- The format with a name, in any letter case. -/
def ofName? (name : String) : Option Format :=
  match Unicode.lowercase name with
  | "text" => some text
  | "json" => some json
  | "markdown" => some markdown
  | "md" => some markdown
  | _ => none

def unknownMessage (name : String) : String :=
  "unknown output format: " ++ name

end Format

end FileSearch
