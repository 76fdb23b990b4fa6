import FileSearch.Command.Expression
import FileSearch.Specification.Basic
import FileSearch.Text.Split

/-!
# The criteria of a specification

What a specification asks of a match: one list of criteria for each group, in the order in which
the command tests them. A group that is switched off asks nothing.
-/

set_option autoImplicit false

namespace FileSearch

open Command (Primary Criterion)

/-- The test with a switched text as its operand, if the text is active. -/
def Switched.test (switched : Switched) (word : String) : List Criterion :=
  switched.active?.toList.map fun text => .must (.unary word text)

/-- The test without operands, if it is switched on. -/
def Command.Criterion.flag (enabled : Bool) (word : String) : List Criterion :=
  if enabled then [.must (.bare word)] else []

/-- Matches whose names, and the names of the directories above them, do not begin with a point. -/
def Command.Criterion.visible : List Criterion :=
  [.mustNot (.unary "-name" ".*"), .mustNot (.unary "-path" "*/.*")]

/-- Matches with a name like one of some patterns, and like none of some others. -/
def Command.Criterion.named (includes excludes : String) : List Criterion :=
  alternatives ((Text.patterns includes).map (.unary "-name"))
    ++ (Text.patterns excludes).map fun pattern => .mustNot (.unary "-name" pattern)

def NameOptions.criteria (options : NameOptions) : List Criterion :=
  options.name.test "-name" ++ options.iname.test "-iname"
    ++ options.path.test "-path" ++ options.ipath.test "-ipath"
    ++ options.regex.test "-regex" ++ options.iregex.test "-iregex"
    ++ options.lname.test "-lname" ++ options.ilname.test "-ilname"

/-- The test of a match's name or path that looks for a term. -/
def TextOptions.nameTest (options : TextOptions) (term : String) : Primary :=
  match options.mode with
  | .contains => .unary (if options.matchCase then "-name" else "-iname") ("*" ++ term ++ "*")
  | .wholeWord => .unary (if options.matchCase then "-name" else "-iname") term
  | .regularExpression =>
    .unary (if options.matchCase then "-regex" else "-iregex") (".*" ++ term ++ ".*")

/-- The terms of a trimmed search text: the text itself, or each of its words. -/
def TextOptions.terms (options : TextOptions) (searchText : String) : List String :=
  if options.allowMultipleTerms then Text.terms searchText else [searchText]

def TextOptions.criteria (options : TextOptions) (searchText : String) : List Criterion :=
  let trimmed := Text.trim searchText
  if trimmed.isEmpty || !options.searchInFileNames then []
  else (options.terms trimmed).map fun term => .must (options.nameTest term)

namespace TimeOptions

/-- The letters of the times that the preset speaks of. -/
def presetTimes (options : TimeOptions) : List String :=
  (if options.includeModified then ["m"] else [])
    ++ (if options.includeCreated then ["c"] else [])
    ++ (if options.includeAccessed then ["a"] else [])

/-- The criteria of a time between two dates, where a blank date sets no bound. -/
def rangeCriteria (options : TimeOptions) (time : String) : List Criterion :=
  let word := "-newer" ++ time ++ "t"
  let after := Text.trim options.customFrom
  let before := Text.trim options.customTo
  (if after.isEmpty then [] else [.must (.unary word after)])
    ++ (if before.isEmpty then [] else [.mustNot (.unary word before)])

def presetCriteria (options : TimeOptions) : List Criterion :=
  match options.preset.days? with
  | some days =>
    options.presetTimes.map fun time =>
      .must (.unary ("-" ++ time ++ "time") ("-" ++ toString days))
  | none =>
    if options.preset = .customRange then options.presetTimes.flatMap options.rangeCriteria else []

def criteria (options : TimeOptions) : List Criterion :=
  options.presetCriteria
    ++ options.days.modified.test "-mtime" ++ options.days.accessed.test "-atime"
    ++ options.days.changed.test "-ctime"
    ++ options.minutes.modified.test "-mmin" ++ options.minutes.accessed.test "-amin"
    ++ options.minutes.changed.test "-cmin"
    ++ options.used.test "-used"
    ++ options.newerThanFile.modified.test "-newer"
    ++ options.newerThanFile.accessed.test "-anewer"
    ++ options.newerThanFile.changed.test "-cnewer"
    ++ options.newerThanTime.modified.test "-newermt"
    ++ options.newerThanTime.accessed.test "-newerat"
    ++ options.newerThanTime.changed.test "-newerct"

end TimeOptions

namespace SizeOptions

/-- Whether a size says by itself whether it is a lower or an upper bound. -/
def isSigned (size : String) : Bool :=
  size.toList.head? == some '+' || size.toList.head? == some '-'

/-- The active text of a bound, trimmed, with a sign in front if it has none. -/
def bound? (bound : Switched) (sign : String) : Option String :=
  let size := Text.trim bound.text
  if bound.enabled && !size.isEmpty then some (if isSigned size then size else sign ++ size)
  else none

def exactSize? (options : SizeOptions) : Option String :=
  let size := Text.trim options.exact.text
  if options.exact.enabled && !size.isEmpty then some size else none

/-- The criteria of the size options. An exact size takes the place of bounds, and bounds take the
place of the test for emptiness. -/
def criteria (options : SizeOptions) : List Criterion :=
  let size (operand : String) : Criterion := .must (.unary "-size" operand)
  let bounds := (bound? options.min "+").toList ++ (bound? options.max "-").toList
  (match options.exactSize? with
    | some exact => [size exact]
    | none =>
      if bounds.isEmpty then Criterion.flag options.emptyEnabled "-empty" else bounds.map size)
    ++ (if options.includeZeroByte then [] else [.mustNot (.unary "-size" "0")])

end SizeOptions

namespace TypeOptions

def letters (text : String) : List Char :=
  text.toList.filter fun c => !Text.isBlank c && c != ','

/-- The criterion that some kind of file is one of those listed, if the list is switched on. -/
def letterCriteria (listed : Switched) (word : String) : List Criterion :=
  if listed.enabled then
    Criterion.alternatives ((letters listed.text).map fun letter =>
      .unary word (String.singleton letter))
  else []

def criteria (options : TypeOptions) : List Criterion :=
  letterCriteria options.types "-type" ++ letterCriteria options.xtypes "-xtype"
    ++ (if options.extensions.enabled then
        Criterion.alternatives ((Text.patterns options.extensions.text).map fun extension =>
          .unary (if options.extensionCaseInsensitive then "-iname" else "-name")
            ("*." ++ extension))
      else [])

end TypeOptions

/-- The mark in front of permission bits. -/
def BitComparison.mark : BitComparison → String
  | .exact => ""
  | .allBits => "-"
  | .anyBit => "/"

def OwnershipOptions.criteria (options : OwnershipOptions) : List Criterion :=
  Criterion.flag options.readable "-readable" ++ Criterion.flag options.writable "-writable"
    ++ Criterion.flag options.executable "-executable"
    ++ (options.permissions.active?.toList.map fun bits =>
        .must (.unary "-perm" (options.permissionMatch.mark ++ bits)))
    ++ options.user.test "-user" ++ options.uid.test "-uid"
    ++ options.group.test "-group" ++ options.gid.test "-gid"
    ++ Criterion.flag options.noUser "-nouser" ++ Criterion.flag options.noGroup "-nogroup"

def Specification.criteria (specification : Specification) : List Criterion :=
  (if specification.includeHidden then [] else Criterion.visible)
    ++ Criterion.named specification.includePatterns specification.excludePatterns
    ++ (if specification.enableNames then specification.names.criteria else [])
    ++ (if specification.enableText then specification.text.criteria specification.searchText
      else [])
    ++ (if specification.enableTimes then specification.times.criteria else [])
    ++ (if specification.enableSizes then specification.sizes.criteria else [])
    ++ (if specification.enableTypes then specification.types.criteria else [])
    ++ (if specification.enableOwnership then specification.ownership.criteria else [])

end FileSearch
