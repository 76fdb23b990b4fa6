import FileSearch.Command.Criteria
import FileSearch.Pattern.Reader
import FileSearch.Pattern.Search
import FileSearch.Text.Occurrence

/-!
# Looking for a search text in contents

The three ways of comparing a search text with the contents of a file.
-/

set_option autoImplicit false

namespace FileSearch

namespace Content

/-- A text in the form in which it is compared. -/
def comparable (ignoreCase : Bool) (text : String) : List Char :=
  if ignoreCase then Unicode.lowercaseChars text.toList else text.toList

/-- Whether every term occurs somewhere in the contents. -/
def containsAll (contents : String) (terms : List String) (ignoreCase : Bool) : Bool :=
  let contents := comparable ignoreCase contents
  terms.all fun term => Text.occursIn (comparable ignoreCase term) contents

def hasAllWords (contents : String) (terms : List String) (ignoreCase : Bool) : Bool :=
  let words := (Text.terms contents).map (comparable ignoreCase)
  terms.all fun term => words.contains (comparable ignoreCase term)

/-- Whether a pattern is found in the contents. An invalid one is not found anywhere. -/
def matchesPattern (contents pattern : String) (ignoreCase : Bool) : Bool :=
  match Pattern.ofText? pattern.toList { ignoreCase } with
  | some pattern => pattern.isFoundIn contents.toList
  | none => false

end Content

/-- Whether contents are what a specification looks for. Terms are taken from the trimmed search
text, a pattern is the search text as it is. -/
def Specification.acceptsContents (specification : Specification) (contents : String) : Bool :=
  let options := specification.text
  let terms := options.terms (Text.trim specification.searchText)
  match options.mode with
  | .contains => Content.containsAll contents terms (!options.matchCase)
  | .wholeWord => Content.hasAllWords contents terms (!options.matchCase)
  | .regularExpression =>
    Content.matchesPattern contents specification.searchText (!options.matchCase)

end FileSearch
