import FileSearch.Command.Expression
import FileSearch.Proofs.Text.Stretch
import FileSearch.Specification.Basic
import Mathlib.Tactic.MkIffOfInductiveProp

/-!
# What specifications want

What a specification asks of a file, in terms of the tests that hold of it: the word and the operand
of each test, and for which options it has to hold. Nothing here is said by means of the criteria
that a command is made of.
-/

set_option autoImplicit false

namespace FileSearch

open Command (Primary)
open Text (HasWord ListsPattern isBlank trim)

/-! ## Switched texts -/

/-- A text takes part: it is switched on, and not blank. -/
def Switched.Applies (switched : Switched) : Prop :=
  switched.enabled = true ∧ ∃ c ∈ switched.text.toList, isBlank c = false

/-- The test of a switched text holds, where the text takes part as it stands. -/
def Switched.Passes (switched : Switched) (word : String) (holds : Primary → Bool) : Prop :=
  switched.enabled = true → switched.text ≠ "" → holds (.unary word switched.text) = true

/-! ## Names and paths -/

@[mk_iff]
structure NameOptions.Wants (options : NameOptions) (holds : Primary → Bool) : Prop where
  name : options.name.Passes "-name" holds
  iname : options.iname.Passes "-iname" holds
  path : options.path.Passes "-path" holds
  ipath : options.ipath.Passes "-ipath" holds
  regex : options.regex.Passes "-regex" holds
  iregex : options.iregex.Passes "-iregex" holds
  lname : options.lname.Passes "-lname" holds
  ilname : options.ilname.Passes "-ilname" holds

/-- The test that selects directories to leave out. -/
inductive PathTest.Word : PathTest → String → Prop where
  | name : Word .name "-name"
  | iname : Word .iname "-iname"
  | path : Word .path "-path"
  | ipath : Word .ipath "-ipath"
  | regex : Word .regex "-regex"
  | iregex : Word .iregex "-iregex"

/-! ## Search texts -/

namespace TextOptions

/-- What is looked for: a search text that is not blank, without the blanks at its ends, or each of
its words. -/
inductive LooksFor (options : TextOptions) (searchText : String) : String → Prop where
  | whole : options.allowMultipleTerms = false →
      (∃ c ∈ searchText.toList, isBlank c = false) → LooksFor options searchText (trim searchText)
  | word {word : String} : options.allowMultipleTerms = true → HasWord searchText word →
      LooksFor options searchText word

/-- The test that looks for a term in a name, or in a path if the term is an expression. -/
inductive TestsFor (options : TextOptions) (term : String) : Primary → Prop where
  | contains : options.mode = .contains → options.matchCase = true →
      TestsFor options term (.unary "-name" ("*" ++ term ++ "*"))
  | containsAnyCase : options.mode = .contains → options.matchCase = false →
      TestsFor options term (.unary "-iname" ("*" ++ term ++ "*"))
  | wholeWord : options.mode = .wholeWord → options.matchCase = true →
      TestsFor options term (.unary "-name" term)
  | wholeWordAnyCase : options.mode = .wholeWord → options.matchCase = false →
      TestsFor options term (.unary "-iname" term)
  | expression : options.mode = .regularExpression → options.matchCase = true →
      TestsFor options term (.unary "-regex" (".*" ++ term ++ ".*"))
  | expressionAnyCase : options.mode = .regularExpression → options.matchCase = false →
      TestsFor options term (.unary "-iregex" (".*" ++ term ++ ".*"))

def Wants (options : TextOptions) (searchText : String) (holds : Primary → Bool) : Prop :=
  options.searchInFileNames = true → ∀ term, options.LooksFor searchText term →
    ∃ test, options.TestsFor term test ∧ holds test = true

end TextOptions

/-! ## Times -/

/-- The age in days that a window of time ends at, as a test is given it. -/
inductive Period.Window : Period → String → Prop where
  | pastDay : Window .pastDay "-1"
  | pastWeek : Window .pastWeek "-7"
  | pastMonth : Window .pastMonth "-30"
  | pastSixMonths : Window .pastSixMonths "-182"
  | pastYear : Window .pastYear "-365"
  | pastSixYears : Window .pastSixYears "-2190"

/-- The preset of the options speaks of a time. -/
inductive TimeOptions.Speaks (options : TimeOptions) : String → Prop where
  | modified : options.includeModified = true → Speaks options "m"
  | created : options.includeCreated = true → Speaks options "c"
  | accessed : options.includeAccessed = true → Speaks options "a"

@[mk_iff]
structure TimeOptions.Wants (options : TimeOptions) (holds : Primary → Bool) : Prop where
  window : ∀ days, options.preset.Window days → ∀ time, options.Speaks time →
    holds (.unary ("-" ++ time ++ "time") days) = true
  after : options.preset = .customRange → trim options.customFrom ≠ "" →
    ∀ time, options.Speaks time →
      holds (.unary ("-newer" ++ time ++ "t") (trim options.customFrom)) = true
  before : options.preset = .customRange → trim options.customTo ≠ "" →
    ∀ time, options.Speaks time →
      holds (.unary ("-newer" ++ time ++ "t") (trim options.customTo)) = false
  daysModified : options.days.modified.Passes "-mtime" holds
  daysAccessed : options.days.accessed.Passes "-atime" holds
  daysChanged : options.days.changed.Passes "-ctime" holds
  minutesModified : options.minutes.modified.Passes "-mmin" holds
  minutesAccessed : options.minutes.accessed.Passes "-amin" holds
  minutesChanged : options.minutes.changed.Passes "-cmin" holds
  used : options.used.Passes "-used" holds
  newerModified : options.newerThanFile.modified.Passes "-newer" holds
  newerAccessed : options.newerThanFile.accessed.Passes "-anewer" holds
  newerChanged : options.newerThanFile.changed.Passes "-cnewer" holds
  modifiedAfter : options.newerThanTime.modified.Passes "-newermt" holds
  accessedAfter : options.newerThanTime.accessed.Passes "-newerat" holds
  changedAfter : options.newerThanTime.changed.Passes "-newerct" holds

/-! ## Sizes -/

namespace SizeOptions

def HasSign (size : String) : Prop :=
  ∃ rest, size = "+" ++ rest ∨ size = "-" ++ rest

/-- How a bound is written: a trimmed text that has a sign keeps it, and another gets the sign. -/
inductive Operand (sign text : String) : String → Prop where
  | kept : HasSign (trim text) → Operand sign text (trim text)
  | signed : ¬ HasSign (trim text) → Operand sign text (sign ++ trim text)

/-- An exact size takes the place of bounds, and bounds that of emptiness. -/
@[mk_iff]
structure Wants (options : SizeOptions) (holds : Primary → Bool) : Prop where
  exact : options.exact.Applies → holds (.unary "-size" (trim options.exact.text)) = true
  atLeast : ¬ options.exact.Applies → options.min.Applies →
    ∃ size, Operand "+" options.min.text size ∧ holds (.unary "-size" size) = true
  atMost : ¬ options.exact.Applies → options.max.Applies →
    ∃ size, Operand "-" options.max.text size ∧ holds (.unary "-size" size) = true
  empty : ¬ options.exact.Applies → ¬ options.min.Applies → ¬ options.max.Applies →
    options.emptyEnabled = true → holds (.bare "-empty") = true
  filled : options.includeZeroByte = false → holds (.unary "-size" "0") = false

end SizeOptions

/-! ## Kinds of files -/

namespace TypeOptions

/-- A text lists a kind of file by a character that is neither a blank nor a comma. -/
@[mk_iff]
structure ListsKind (text : String) (kind : Char) : Prop where
  listed : kind ∈ text.toList
  solid : isBlank kind = false
  noComma : kind ≠ ','

/-- The file is of one of the listed kinds, if the list is switched on and lists any. -/
def IsListed (listed : Switched) (word : String) (holds : Primary → Bool) : Prop :=
  listed.enabled = true → (∃ kind, ListsKind listed.text kind) →
    ∃ kind, ListsKind listed.text kind ∧ holds (.unary word (String.singleton kind)) = true

@[mk_iff]
structure Wants (options : TypeOptions) (holds : Primary → Bool) : Prop where
  types : IsListed options.types "-type" holds
  xtypes : IsListed options.xtypes "-xtype" holds
  extensions : options.extensions.enabled = true →
    (∃ extension, ListsPattern options.extensions.text extension) →
      ∃ extension, ListsPattern options.extensions.text extension ∧
        holds (.unary (if options.extensionCaseInsensitive then "-iname" else "-name")
          ("*." ++ extension)) = true

end TypeOptions

/-! ## Permissions and owners -/

namespace OwnershipOptions

/-- Permission bits with the mark that says how they are compared. -/
inductive Marked (options : OwnershipOptions) : String → Prop where
  | exact : options.permissionMatch = .exact → Marked options options.permissions.text
  | allBits : options.permissionMatch = .allBits →
      Marked options ("-" ++ options.permissions.text)
  | anyBit : options.permissionMatch = .anyBit → Marked options ("/" ++ options.permissions.text)

@[mk_iff]
structure Wants (options : OwnershipOptions) (holds : Primary → Bool) : Prop where
  readable : options.readable = true → holds (.bare "-readable") = true
  writable : options.writable = true → holds (.bare "-writable") = true
  executable : options.executable = true → holds (.bare "-executable") = true
  permissions : options.permissions.enabled = true → options.permissions.text ≠ "" →
    ∃ bits, options.Marked bits ∧ holds (.unary "-perm" bits) = true
  user : options.user.Passes "-user" holds
  uid : options.uid.Passes "-uid" holds
  group : options.group.Passes "-group" holds
  gid : options.gid.Passes "-gid" holds
  noUser : options.noUser = true → holds (.bare "-nouser") = true
  noGroup : options.noGroup = true → holds (.bare "-nogroup") = true

end OwnershipOptions

/-! ## Specifications -/

namespace Specification

/-- What a specification asks of a file. -/
@[mk_iff]
structure Wants (specification : Specification) (holds : Primary → Bool) : Prop where
  visible : specification.includeHidden = false →
    holds (.unary "-name" ".*") = false ∧ holds (.unary "-path" "*/.*") = false
  included : (∃ pattern, ListsPattern specification.includePatterns pattern) →
    ∃ pattern, ListsPattern specification.includePatterns pattern ∧
      holds (.unary "-name" pattern) = true
  excluded : ∀ pattern, ListsPattern specification.excludePatterns pattern →
    holds (.unary "-name" pattern) = false
  names : specification.enableNames = true → specification.names.Wants holds
  text : specification.enableText = true → specification.text.Wants specification.searchText holds
  times : specification.enableTimes = true → specification.times.Wants holds
  sizes : specification.enableSizes = true → specification.sizes.Wants holds
  types : specification.enableTypes = true → specification.types.Wants holds
  ownership : specification.enableOwnership = true → specification.ownership.Wants holds

/-- The file is a directory that the search leaves out. -/
structure LeavesOut (specification : Specification) (holds : Primary → Bool) : Prop where
  enabled : specification.enableNames = true
  pruneEnabled : specification.names.prune.enabled = true
  pruneText : specification.names.prune.text ≠ ""
  test : ∃ word, specification.names.pruneTest.Word word ∧
    holds (.unary word specification.names.prune.text) = true

end Specification

end FileSearch
