import FileSearch.Specification.Options
import FileSearch.Text.Blank

/-!
# Specifications

A specification describes a search as a person edits it: free texts, switches and groups of
options. Each group takes part only if its switch is on.
-/

set_option autoImplicit false

namespace FileSearch

/-- A search, as it is edited and stored. -/
structure Specification where
  name : String := ""
  startLocation : String := "."
  searchText : String := ""
  includePatterns : String := ""
  excludePatterns : String := ""
  includeSubdirectories : Bool := true
  includeHidden : Bool := false
  followLinks : Bool := false
  stayOnSameFilesystem : Bool := false
  enableText : Bool := true
  enableNames : Bool := false
  enableTimes : Bool := false
  enableSizes : Bool := false
  enableTypes : Bool := false
  enableOwnership : Bool := false
  enableTraversal : Bool := false
  enableActions : Bool := true
  text : TextOptions := {}
  names : NameOptions := {}
  times : TimeOptions := {}
  sizes : SizeOptions := {}
  types : TypeOptions := {}
  ownership : OwnershipOptions := {}
  traversal : TraversalOptions := {}
  actions : ActionOptions := {}
  deriving DecidableEq, Repr

namespace Specification

/-- Whether the matches of a search are narrowed down by their contents. -/
def readsContents (specification : Specification) : Bool :=
  specification.enableText && specification.text.searchInContents
    && !(Text.trim specification.searchText).isEmpty

end Specification

end FileSearch
