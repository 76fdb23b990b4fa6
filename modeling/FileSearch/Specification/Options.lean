import FileSearch.Specification.Choice

/-!
# Option groups

The options of a search, in groups that are switched on and off as a whole. A group's defaults are
those of a search that nobody has edited.
-/

set_option autoImplicit false

namespace FileSearch

/-- A text and the switch that decides whether it takes part in a search. -/
structure Switched where
  enabled : Bool := false
  text : String := ""
  deriving DecidableEq, Repr

/-- The text, if it is switched on and not empty. -/
def Switched.active? (switched : Switched) : Option String :=
  if switched.enabled && !switched.text.isEmpty then some switched.text else none

structure TextOptions where
  mode : MatchMode := .contains
  matchCase : Bool := false
  searchInContents : Bool := true
  searchInFileNames : Bool := true
  allowMultipleTerms : Bool := false
  treatBinaryAsText : Bool := false
  deriving DecidableEq, Repr

/-- Patterns for names and paths, and the directories that are not entered. -/
structure NameOptions where
  name : Switched := {}
  iname : Switched := {}
  path : Switched := {}
  ipath : Switched := {}
  regex : Switched := {}
  iregex : Switched := {}
  lname : Switched := {}
  ilname : Switched := {}
  prune : Switched := {}
  pruneDirectoriesOnly : Bool := true
  pruneTest : PathTest := .path
  deriving DecidableEq, Repr

/-- A text for each of the three times of a file. -/
structure PerTime where
  modified : Switched := {}
  accessed : Switched := {}
  changed : Switched := {}
  deriving DecidableEq, Repr

/-- When a file was modified, accessed or changed. -/
structure TimeOptions where
  preset : Period := .anyTime
  includeModified : Bool := true
  includeCreated : Bool := false
  includeAccessed : Bool := false
  customFrom : String := ""
  customTo : String := ""
  days : PerTime := {}
  minutes : PerTime := {}
  used : Switched := {}
  newerThanFile : PerTime := {}
  newerThanTime : PerTime := {}
  deriving DecidableEq, Repr

structure SizeOptions where
  min : Switched := {}
  max : Switched := {}
  exact : Switched := {}
  rangeInclusive : Bool := true
  includeZeroByte : Bool := true
  treatDirectoriesAsFiles : Bool := false
  useDecimalUnits : Bool := false
  emptyEnabled : Bool := false
  deriving DecidableEq, Repr

/-- What kind of file is wanted. -/
structure TypeOptions where
  types : Switched := {}
  xtypes : Switched := {}
  extensions : Switched := {}
  extensionCaseInsensitive : Bool := true
  detectors : Switched := {}
  deriving DecidableEq, Repr

structure OwnershipOptions where
  permissions : Switched := {}
  readable : Bool := false
  writable : Bool := false
  executable : Bool := false
  permissionMatch : BitComparison := .exact
  user : Switched := {}
  uid : Switched := {}
  group : Switched := {}
  gid : Switched := {}
  noUser : Bool := false
  noGroup : Bool := false
  deriving DecidableEq, Repr

/-- How directories are walked, and which file system objects are reached. -/
structure TraversalOptions where
  linkMode : LinkMode := .physical
  warningMode : Warnings := .unchanged
  depthFirst : Bool := false
  stayOnFilesystem : Bool := false
  assumeNoLeaf : Bool := false
  ignoreReaddirRace : Bool := false
  dayStart : Bool := false
  maxDepth : Switched := {}
  minDepth : Switched := {}
  filesFrom : Switched := {}
  filesFromNullSeparated : Bool := false
  filesystemType : Switched := {}
  linkCount : Switched := {}
  sameFile : Switched := {}
  inode : Switched := {}
  deriving DecidableEq, Repr

/-- What is done with each match. -/
structure ActionOptions where
  print : Bool := true
  print0 : Bool := false
  ls : Bool := false
  deleteMatches : Bool := false
  quitEarly : Bool := false
  exec : Switched := {}
  execUsePlus : Bool := false
  execVariant : ExecMode := .exec
  fprint : Switched := {}
  fprintAppend : Bool := false
  fprint0 : Switched := {}
  fprint0Append : Bool := false
  fls : Switched := {}
  flsAppend : Bool := false
  printf : Switched := {}
  fprintf : Switched := {}
  fprintfAppend : Bool := false
  fprintfFormat : String := ""
  deriving DecidableEq, Repr

/-- Whether some directories are not entered. -/
def NameOptions.prunes (options : NameOptions) : Bool :=
  options.prune.active?.isSome

/-- Whether any action is selected. Stopping early does not count, since by itself it shows
nothing. -/
def ActionOptions.hasEffect (options : ActionOptions) : Bool :=
  options.print || options.print0 || options.ls || options.deleteMatches || options.exec.enabled
    || options.fprint.enabled || options.fprint0.enabled || options.fls.enabled
    || options.printf.enabled || options.fprintf.enabled

/-- Options with printing selected if nothing else is. -/
def ActionOptions.withEffect (options : ActionOptions) : ActionOptions :=
  if options.hasEffect then options else { options with print := true }

end FileSearch
