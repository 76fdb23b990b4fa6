import FileSearch.Config.Document
import FileSearch.Json.Value
import FileSearch.Search.Result
import FileSearch.Store.Basic

/-!
# Reports

What the program has to tell. A report is made first and given a form afterwards.
-/

set_option autoImplicit false

namespace FileSearch

/-- What the program has to tell. -/
inductive Report where
  | result (result : SearchResult)
  | command (command : List String)
  | savedList (saved : List SavedEntry) (directory : Path)
  | specification (specification : Specification) (command : List String)
  /-- A configuration, the file that it is from, and the directory of saved specifications. -/
  | config (config : Config) (path : Option Path) (specs : Except ConfigError Path)
  | message (text : String)
  | error (text : String)

/-- The names of the groups of options that are switched on. -/
def Specification.groupNames (specification : Specification) : List String :=
  [(specification.enableText, "text"), (specification.enableNames, "name/path"),
    (specification.enableTimes, "time"), (specification.enableSizes, "size"),
    (specification.enableTypes, "type"), (specification.enableOwnership, "permissions"),
    (specification.enableTraversal, "traversal"),
    (specification.enableActions, "actions")].filterMap
      fun (enabled, name) => if enabled then some name else none

namespace Report

def lines (texts : List String) : String :=
  "\n".intercalate texts

def dashIfBlank (text : String) : String :=
  if (Text.trim text).isEmpty then "-" else text

def listed (names : List String) : String :=
  ", ".intercalate names

end Report

end FileSearch
