import FileSearch.CommandText.Quoted
import FileSearch.Report.Basic

/-!
# Reports in Markdown
-/

set_option autoImplicit false

namespace FileSearch.Report

def codeMark : String :=
  String.singleton (Char.ofNat 96)

/-- Code within a line. -/
def code (text : String) : String :=
  codeMark ++ text ++ codeMark

/-- Lines of code for the shell. -/
def shellBlock (text : String) : String :=
  let fence := codeMark ++ codeMark ++ codeMark
  lines [fence ++ "sh", text, fence]

/-- A row of a table with two columns. -/
def row (left right : String) : String :=
  "| " ++ left ++ " | " ++ right ++ " |"

/-- The result of a search: the command, a summary and a list of the matches. -/
def markdownOfResult (result : SearchResult) : String :=
  lines ([
    "## Search Results\n",
    "**Command:** " ++ code (CommandText.render result.command) ++ "\n",
    "Found " ++ toString result.found.length ++ " match(es), " ++ result.status ++ "\n"]
      ++ result.found.map fun path => "- " ++ code path.display)

/-- Saved specifications as a table. -/
def markdownOfSaved (saved : List SavedEntry) (directory : Path) : String :=
  if saved.isEmpty then
    "## No saved specifications\n\nDirectory: " ++ code directory.display
  else
    lines (["## Saved Specifications\n", row "Name" "Slug", "|------|------|"]
      ++ saved.map fun entry => row entry.name (code entry.slug))

/-- A specification under a heading of its name. -/
def markdownOfSpecification (specification : Specification) (command : List String) : String :=
  lines [
    "## " ++ dashIfBlank specification.name ++ "\n",
    "**Start:** " ++ code (dashIfBlank specification.startLocation) ++ "\n",
    "**Text:** " ++ dashIfBlank specification.searchText ++ "\n",
    "**Groups:** " ++ listed specification.groupNames ++ "\n",
    shellBlock (CommandText.render command)]

/-- A configuration as a table. -/
def markdownOfConfig (config : Config) (path : Option Path) (specs : Except ConfigError Path) :
    String :=
  lines (["## Configuration\n"]
    ++ path.toList.map (fun path => "**File:** " ++ code path.display ++ "\n")
    ++ [
      row "Key" "Value",
      "|-----|-------|",
      row "search.program" (code config.program),
      row "search.capture_matches" (Config.flagText config.captureMatches),
      row "search.filter_content" (Config.flagText config.filterContent),
      row "search.default_format" config.defaultFormat.name]
    ++ specs.toOption.toList.map fun directory =>
      row "storage.specs_dir" (code directory.display))

def asMarkdown : Report → String
  | result outcome => markdownOfResult outcome
  | command words => shellBlock (CommandText.render words)
  | savedList saved directory => markdownOfSaved saved directory
  | specification shown words => markdownOfSpecification shown words
  | config settings path specs => markdownOfConfig settings path specs
  | message text => text
  | error text => "> **Error:** " ++ text

end FileSearch.Report
