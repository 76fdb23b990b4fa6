import FileSearch.Text.Blank

/-!
# Lists written in one line of text

How the free-text fields that hold several items are cut: at a separator, at commas and spaces, at
blanks, or at semicolons and line ends. Items are trimmed and empty ones dropped, so a list never
holds a blank item.
-/

set_option autoImplicit false

namespace FileSearch.Text

/-- The trimmed, non-empty pieces of a list of characters cut at every separator. -/
def pieces (isSeparator : Char → Bool) (cs : List Char) : List (List Char) :=
  ((cs.splitOnP isSeparator).map trimChars).filter (fun piece => !piece.isEmpty)

def items (text : String) (separator : Char) : List String :=
  (pieces (· == separator) text.toList).map String.ofList

/-- The items of a list of name patterns, which may use commas, spaces or both. -/
def patterns (text : String) : List String :=
  (items text ',').flatMap fun item => items item ' '

/-- The terms of a search text: its maximal runs of characters that are not blank. -/
def terms (text : String) : List String :=
  ((text.toList.splitOnP isBlank).filter (fun run => !run.isEmpty)).map String.ofList

/-- Whether a character ends one start location and begins the next. -/
def separatesLocations (c : Char) : Bool :=
  c == ';' || c == '\n' || c == '\r'

/-- The start locations of a search. A field without any stands for the current directory. -/
def startLocations (text : String) : List String :=
  match (pieces separatesLocations text.toList).map String.ofList with
  | [] => ["."]
  | locations => locations

end FileSearch.Text
