import FileSearch.CommandText.Quoted
import FileSearch.Report.Basic

/-!
# Reports in JSON

A path that is no text cannot stand in a JSON document: a report with such a path becomes one about
that error.
-/

set_option autoImplicit false

namespace FileSearch.Report

open Json (Value Layout)

/-- The message about a path that is no text. -/
def pathNotText : String := "path contains invalid UTF-8 characters"

def textList (texts : List String) : Value :=
  .list (texts.map .text)

def pathValue? (path : Path) : Option Value :=
  path.toText?.map .text

def resultValue? (result : SearchResult) : Option Value :=
  if result.found.all fun path => path.toText?.isSome then some (SearchResult.schema.write result)
  else none

def savedValue? (saved : SavedEntry) : Option Value :=
  (pathValue? saved.path).map fun path =>
    .object [("name", .text saved.name), ("slug", .text saved.slug), ("path", path)]

/-- Saved specifications and their directory. -/
def savedListValue? (saved : List SavedEntry) (directory : Path) : Option Value := do
  let directory ← pathValue? directory
  let saved ← saved.mapM savedValue?
  return .object [("directory", directory), ("specifications", .list saved)]

def configValue? (config : Config) (path : Option Path) (specs : Except ConfigError Path) :
    Option Value := do
  let path ← path.elim (some .null) pathValue?
  let storage ← config.specsDirectory?.elim (some []) fun directory =>
    (pathValue? directory).map fun directory => [("specs_dir", directory)]
  let specs ← specs.toOption.elim (some .null) pathValue?
  let search := Value.object [
    ("program", .text config.program),
    ("capture_matches", .boolean config.captureMatches),
    ("filter_content", .boolean config.filterContent),
    ("default_format", .text config.defaultFormat.name)]
  return .object [
    ("path", path),
    ("config", .object [("search", search), ("storage", .object storage)]),
    ("specs_dir", specs)]

/-- A short text under a key, on one line. -/
def note (key text : String) : String :=
  (Value.object [(key, .text text)]).document .compact

/-- A document of a value, or else of the error that there is none. -/
def documentOr (layout : Layout) (value? : Option Value) : String :=
  match value? with
  | some value => value.document layout
  | none => note "error" pathNotText

def asJson (layout : Layout) : Report → String
  | result outcome => documentOr layout (resultValue? outcome)
  | command words =>
    let rendered := CommandText.render words
    (Value.object [("command", textList words), ("rendered", .text rendered)]).document layout
  | savedList saved directory => documentOr layout (savedListValue? saved directory)
  | specification shown _ => (Specification.schema.write shown).document layout
  | config settings path specs => documentOr layout (configValue? settings path specs)
  | message text => note "message" text
  | error text => note "error" text

end FileSearch.Report
