import FileSearch.Command.Actions
import FileSearch.Command.Criteria

/-!
# Search commands

The command that carries out a specification: a program, start locations, options for walking
directories, and one expression of criteria and actions.
-/

set_option autoImplicit false

namespace FileSearch

open Command (Primary Criterion)

def defaultProgram : String := "find"

structure SearchCommand where
  program : String
  startLocations : List String
  traversal : List Primary
  /-- The test for directories that are not entered. -/
  prune? : Option Primary
  criteria : List Criterion
  actions : List Primary
  deriving Repr

namespace TraversalOptions

/-- An option with a switched text as its operand, if the text is active. -/
def operand (switched : Switched) (word : String) : List Primary :=
  switched.active?.toList.map (.unary word)

/-- The option that bounds the depth of a search. Without a bound of its own, a search that leaves
subdirectories out goes one level deep. -/
def depthBound (options : TraversalOptions) (recurse : Bool) : List Primary :=
  match options.maxDepth.active? with
  | some depth => [.unary "-maxdepth" depth]
  | none => if recurse then [] else [.unary "-maxdepth" "1"]

def primaries (options : TraversalOptions) (recurse : Bool) : List Primary :=
  [.bare options.linkMode.flag]
    ++ options.warningMode.flag?.toList.map .bare
    ++ Primary.flag options.depthFirst "-depth" ++ Primary.flag options.stayOnFilesystem "-xdev"
    ++ Primary.flag options.assumeNoLeaf "-noleaf"
    ++ Primary.flag options.ignoreReaddirRace "-ignore_readdir_race"
    ++ Primary.flag options.dayStart "-daystart"
    ++ operand options.filesFrom
      (if options.filesFromNullSeparated then "-files0-from" else "-files-from")
    ++ operand options.filesystemType "-fstype" ++ operand options.linkCount "-links"
    ++ operand options.sameFile "-samefile" ++ operand options.inode "-inum"
    ++ options.depthBound recurse ++ operand options.minDepth "-mindepth"

end TraversalOptions

namespace Specification

/-- The options for walking directories. The group of traversal options, where it is switched on,
takes the place of the simple switches. -/
def traversalPrimaries (specification : Specification) : List Primary :=
  if specification.enableTraversal then
    specification.traversal.primaries specification.includeSubdirectories
  else
    .bare (if specification.followLinks then "-L" else "-P")
      :: (Primary.flag specification.stayOnSameFilesystem "-xdev"
        ++ (if specification.includeSubdirectories then [] else [.unary "-maxdepth" "1"]))

/-- The test for directories that are not entered. -/
def prune? (specification : Specification) : Option Primary :=
  if specification.enableNames then
    specification.names.prune.active?.map (.unary specification.names.pruneTest.flag)
  else none

/-- The actions of a specification, with printing where nothing else would be done. -/
def actionPrimaries (specification : Specification) (includeActions : Bool) : List Primary :=
  if includeActions && specification.enableActions then
    match specification.actions.withEffect.selected with
    | [] => [.bare "-print"]
    | actions => actions
  else [.bare "-print"]

/-- The command that carries out a specification, with or without its actions. -/
def command (specification : Specification) (includeActions : Bool)
    (program : String := defaultProgram) : SearchCommand where
  program := program
  startLocations := Text.startLocations specification.startLocation
  traversal := specification.traversalPrimaries
  prune? := specification.prune?
  criteria := specification.criteria
  actions := specification.actionPrimaries includeActions

end Specification

namespace SearchCommand

def criteriaWords (command : SearchCommand) : List String :=
  command.criteria.flatMap Criterion.words

def actionWords (command : SearchCommand) : List String :=
  command.actions.flatMap Primary.words

/-- The words of the expression. With directories to leave out, the criteria and actions become the
alternative to leaving out. -/
def expressionWords (command : SearchCommand) : List String :=
  match command.prune? with
  | none => command.criteriaWords ++ command.actionWords
  | some test =>
    let guarded :=
      if command.criteria.isEmpty then [] else "(" :: (command.criteriaWords ++ [")"])
    "(" :: (test.words ++ "-prune" :: "-o" :: (guarded ++ command.actionWords ++ [")"]))

def arguments (command : SearchCommand) : List String :=
  command.program :: (command.startLocations ++ command.traversal.flatMap Primary.words
    ++ command.expressionWords)

end SearchCommand

end FileSearch
