import FileSearch.Json.Schema

/-!
# Choices

A field that offers a fixed list of options is stored as the position of the option in that list.
Positions that name no option stand for the usual one, so that a document from a program that knows
more options can still be read.
-/

set_option autoImplicit false

namespace FileSearch

/-- A type whose values are the options of a field. -/
class Choice (β : Type) where
  /-- The options in the order of their positions. -/
  options : List β
  /-- The option that unknown positions stand for. -/
  usual : β

namespace Choice

variable {β : Type} [Choice β]

def ofOrdinal (position : Nat) : β :=
  (options (β := β))[position]?.getD usual

def ordinal [BEq β] (option : β) : Nat :=
  options.idxOf option

/-- Options as values of fields. -/
def kind (β : Type) [Choice β] [BEq β] : Json.Kind β where
  read text := (Json.readOrdinal text).map fun (position, rest) => (ofOrdinal position, rest)
  write option := .integer (ordinal option)
  limit := id

end Choice

/-- An optional field that offers options. -/
def Json.Field.choice {α β : Type} [Choice β] [BEq β] (key : String) (get : α → β)
    (set : β → α → α) : Json.Field α :=
  .optional key (Choice.kind β) get set

/-- How the search text is compared with names and contents. -/
inductive MatchMode where
  | contains
  | wholeWord
  | regularExpression
  deriving DecidableEq, Repr

instance : Choice MatchMode where
  options := [.contains, .wholeWord, .regularExpression]
  usual := .contains

/-- The test that selects the directories a search does not enter. -/
inductive PathTest where
  | name
  | iname
  | path
  | ipath
  | regex
  | iregex
  deriving DecidableEq, Repr

instance : Choice PathTest where
  options := [.name, .iname, .path, .ipath, .regex, .iregex]
  usual := .path

/-- The word of a search command that makes a prune test. -/
def PathTest.flag : PathTest → String
  | .name => "-name"
  | .iname => "-iname"
  | .path => "-path"
  | .ipath => "-ipath"
  | .regex => "-regex"
  | .iregex => "-iregex"

/-- The time windows that are offered. -/
inductive Period where
  | anyTime
  | pastDay
  | pastWeek
  | pastMonth
  | pastSixMonths
  | pastYear
  | pastSixYears
  | customRange
  deriving DecidableEq, Repr

instance : Choice Period where
  options := [.anyTime, .pastDay, .pastWeek, .pastMonth, .pastSixMonths, .pastYear,
    .pastSixYears, .customRange]
  usual := .anyTime

/-- The length of a window in days, for windows that have one. -/
def Period.days? : Period → Option Nat
  | .anyTime => none
  | .pastDay => some 1
  | .pastWeek => some 7
  | .pastMonth => some 30
  | .pastSixMonths => some 182
  | .pastYear => some 365
  | .pastSixYears => some 2190
  | .customRange => none

/-- How permission bits are compared. -/
inductive BitComparison where
  | exact
  | allBits
  | anyBit
  deriving DecidableEq, Repr

instance : Choice BitComparison where
  options := [.exact, .allBits, .anyBit]
  usual := .exact

/-- Which symbolic links a search follows. -/
inductive LinkMode where
  | physical
  | commandLine
  | everywhere
  deriving DecidableEq, Repr

instance : Choice LinkMode where
  options := [.physical, .commandLine, .everywhere]
  usual := .physical

/-- The word of a search command that sets which links are followed. -/
def LinkMode.flag : LinkMode → String
  | .physical => "-P"
  | .commandLine => "-H"
  | .everywhere => "-L"

inductive Warnings where
  | unchanged
  | on
  | off
  deriving DecidableEq, Repr

instance : Choice Warnings where
  options := [.unchanged, .on, .off]
  usual := .unchanged

/-- The word of a search command that turns warnings on or off. -/
def Warnings.flag? : Warnings → Option String
  | .unchanged => none
  | .on => some "-warn"
  | .off => some "-nowarn"

/-- How a command is run for the matches: from which directory, and with or without a question. -/
inductive ExecMode where
  | exec
  | execDir
  | ok
  | okDir
  deriving DecidableEq, Repr

instance : Choice ExecMode where
  options := [.exec, .execDir, .ok, .okDir]
  usual := .exec

/-- The word of a search command that runs a command. -/
def ExecMode.flag : ExecMode → String
  | .exec => "-exec"
  | .execDir => "-execdir"
  | .ok => "-ok"
  | .okDir => "-okdir"

end FileSearch
