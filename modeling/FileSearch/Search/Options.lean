/-!
# How a search is carried out
-/

set_option autoImplicit false

namespace FileSearch

structure SearchOptions where
  /-- Whether the actions of the specification take part, or matches are only printed. -/
  includeActions : Bool := true
  /-- Whether the output of the search program is kept as a list of matches. -/
  capture : Bool := false
  /-- Whether matches are narrowed down by contents if the specification asks for it. -/
  filterContent : Bool := true
  deriving DecidableEq, Repr

namespace SearchOptions

/-- Collects matches and does nothing else with them. -/
def collecting : SearchOptions where
  includeActions := false
  capture := true

def choosingActions (options : SearchOptions) (included : Bool) : SearchOptions :=
  { options with includeActions := included }

/-- Options with or without narrowing down by contents. -/
def choosingFilter (options : SearchOptions) (filter : Bool) : SearchOptions :=
  { options with filterContent := filter }

end SearchOptions

end FileSearch
