import FileSearch.Files.Path
import FileSearch.Json.Schema

/-!
# Results of searches
-/

set_option autoImplicit false

namespace FileSearch

structure SearchResult where
  /-- The exit code of the command, 128 and the number of the signal that killed it, or -1 if it
  did not run. -/
  exitCode : Int32 := 0
  /-- The paths that were found, in the order in which they were printed. -/
  found : List Path := []
  /-- The argument vector of the command. -/
  command : List String := []
  /-- Whether the search was cancelled. -/
  cancelled : Bool := false
  deriving DecidableEq, Repr

namespace SearchResult

/-- The exit code of a command that did not run. -/
def notRun : Int32 := -1

/-- The result of a command that did not run. -/
def failure (command : List String) : SearchResult where
  exitCode := notRun
  command := command

/-- Whether a search ran to its end without an error. -/
def succeeded (result : SearchResult) : Bool :=
  result.exitCode == 0 && !result.cancelled

/-- The exit code in words. -/
def exitText (result : SearchResult) : String :=
  "exit code " ++ toString result.exitCode.toInt

/-- How a search ended, in words. -/
def status (result : SearchResult) : String :=
  if result.cancelled then "cancelled (" ++ result.exitText ++ ")" else result.exitText

/-- Signed integers of 32 bits. -/
def exitCodeKind : Json.Kind Int32 where
  read text := (Json.readInteger Int32.minValue.toInt Int32.maxValue.toInt .signed32 text).map
    fun (value, rest) => (Int32.ofInt value, rest)
  write code := .integer code.toInt
  limit := id

/-- Lists of paths. A path that is not UTF-8 has no form of its own. -/
def pathsKind : Json.Kind (List Path) where
  read text := (Json.readList (Json.readTextAs .path) text).map
    fun (texts, rest) => (texts.map Path.ofText, rest)
  write paths := .list (paths.map fun path => .text path.display)
  limit := id

def textsKind : Json.Kind (List String) where
  read := Json.readList Json.readText
  write texts := .list (texts.map .text)
  limit := id

def schema : Json.Schema SearchResult where
  name := "ExecutionResult"
  initial := {}
  fields := [
    .mandatory "exit_code" exitCodeKind exitCode fun value result =>
      { result with exitCode := value },
    .mandatory "matches" pathsKind found fun value result => { result with found := value },
    .mandatory "command" textsKind command fun value result => { result with command := value },
    .flag "cancelled" cancelled fun value result => { result with cancelled := value }]

def ofDocument (document : String) : Except Json.Error SearchResult :=
  schema.readDocument document

end SearchResult

end FileSearch
