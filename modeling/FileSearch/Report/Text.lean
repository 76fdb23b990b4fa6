import FileSearch.CommandText.Quoted
import FileSearch.Report.Basic

/-!
# Reports as plain text
-/

set_option autoImplicit false

namespace FileSearch.Report

/-- A text with blanks behind it, up to a number of characters. -/
def padded (width : Nat) (text : String) : String :=
  text ++ String.ofList (List.replicate (width - text.length) ' ')

/-- Saved specifications in two columns. The first one is as wide as the name with the most
bytes. -/
def textOfSaved (saved : List SavedEntry) (directory : Path) : String :=
  if saved.isEmpty then "No saved specifications in " ++ directory.display
  else
    let width := (saved.map fun entry => entry.name.utf8ByteSize).foldl max 0
    lines (("Saved specifications (" ++ directory.display ++ ")")
      :: String.ofList (List.replicate 22 '-')
      :: saved.map fun entry => "  " ++ padded width entry.name ++ "  " ++ entry.slug)

/-- A specification, one line for each of the texts that a person edits first. -/
def textOfSpecification (specification : Specification) (command : List String) : String :=
  lines [
    "Name:      " ++ dashIfBlank specification.name,
    "Start:     " ++ dashIfBlank specification.startLocation,
    "Text:      " ++ dashIfBlank specification.searchText,
    "Include:   " ++ dashIfBlank specification.includePatterns,
    "Exclude:   " ++ dashIfBlank specification.excludePatterns,
    "Groups:    " ++ listed specification.groupNames,
    "Command:   " ++ CommandText.render command]

/-- A configuration in the manner of its document. -/
def textOfConfig (config : Config) (path : Option Path) (specs : Except ConfigError Path) :
    String :=
  lines (path.toList.map (fun path => "# " ++ path.display) ++ [
    "[search]",
    "program = \"" ++ config.program ++ "\"",
    "capture_matches = " ++ Config.flagText config.captureMatches,
    "filter_content = " ++ Config.flagText config.filterContent,
    "default_format = \"" ++ config.defaultFormat.name ++ "\"",
    "",
    "[storage]",
    match specs with
    | .ok directory => "specs_dir = \"" ++ directory.display ++ "\""
    | .error cause => "# specs_dir unavailable: " ++ cause.message])

def asText : Report → String
  | result outcome => lines (outcome.found.map Path.display)
  | command words => CommandText.render words
  | savedList saved directory => textOfSaved saved directory
  | specification shown words => textOfSpecification shown words
  | config settings path specs => textOfConfig settings path specs
  | message text => text
  | error text => "Error: " ++ text

end FileSearch.Report
