import FileSearch.Specification.Basic

/-!
# Specifications as documents

The fields of a specification and of its option groups: their keys in order, and the limits of the
texts. Reading, writing and cutting to the limits all follow from these lists.
-/

set_option autoImplicit false

namespace FileSearch

open Json (Schema Layout)

namespace Limit

/-- The most bytes of a display name. -/
def name : Nat := 127

/-- The most bytes of a path. -/
def path : Nat := 4095

/-- The most bytes of a search text, a pattern or a format. -/
def text : Nat := 255

/-- The most bytes of a size or a custom date. -/
def size : Nat := 31

/-- The most bytes of a short number or a set of letters. -/
def short : Nat := 15

/-- The most bytes of a depth. -/
def depth : Nat := 7

/-- The most bytes of a point in time. -/
def timestamp : Nat := 63

/-- The most bytes of the name of an account or a file system type. -/
def account : Nat := 63

/-- The most bytes of the number of an account or an inode. -/
def number : Nat := 31

/-- The most bytes of a command that is run for matches. -/
def command : Nat := 511

end Limit

def TextOptions.schema : Schema TextOptions where
  name := "TextSearchOptions"
  initial := {}
  fields := [
    .choice "mode" (·.mode) fun value options => { options with mode := value },
    .flag "matchCase" (·.matchCase) fun value options => { options with matchCase := value },
    .flag "searchInContents" (·.searchInContents)
      fun value options => { options with searchInContents := value },
    .flag "searchInFileNames" (·.searchInFileNames)
      fun value options => { options with searchInFileNames := value },
    .flag "allowMultipleTerms" (·.allowMultipleTerms)
      fun value options => { options with allowMultipleTerms := value },
    .flag "treatBinaryAsText" (·.treatBinaryAsText)
      fun value options => { options with treatBinaryAsText := value }]

def NameOptions.schema : Schema NameOptions where
  name := "NamePathOptions"
  initial := {}
  fields := [
    .flag "nameEnabled" (·.name.enabled)
      fun value options => { options with name.enabled := value },
    .flag "inameEnabled" (·.iname.enabled)
      fun value options => { options with iname.enabled := value },
    .flag "pathEnabled" (·.path.enabled)
      fun value options => { options with path.enabled := value },
    .flag "ipathEnabled" (·.ipath.enabled)
      fun value options => { options with ipath.enabled := value },
    .flag "regexEnabled" (·.regex.enabled)
      fun value options => { options with regex.enabled := value },
    .flag "iregexEnabled" (·.iregex.enabled)
      fun value options => { options with iregex.enabled := value },
    .flag "lnameEnabled" (·.lname.enabled)
      fun value options => { options with lname.enabled := value },
    .flag "ilnameEnabled" (·.ilname.enabled)
      fun value options => { options with ilname.enabled := value },
    .flag "pruneEnabled" (·.prune.enabled)
      fun value options => { options with prune.enabled := value },
    .flag "pruneDirectoriesOnly" (·.pruneDirectoriesOnly)
      fun value options => { options with pruneDirectoriesOnly := value },
    .choice "pruneTest" (·.pruneTest) fun value options => { options with pruneTest := value },
    .text "namePattern" Limit.text (·.name.text)
      fun value options => { options with name.text := value },
    .text "inamePattern" Limit.text (·.iname.text)
      fun value options => { options with iname.text := value },
    .text "pathPattern" Limit.text (·.path.text)
      fun value options => { options with path.text := value },
    .text "ipathPattern" Limit.text (·.ipath.text)
      fun value options => { options with ipath.text := value },
    .text "regexPattern" Limit.text (·.regex.text)
      fun value options => { options with regex.text := value },
    .text "iregexPattern" Limit.text (·.iregex.text)
      fun value options => { options with iregex.text := value },
    .text "lnamePattern" Limit.text (·.lname.text)
      fun value options => { options with lname.text := value },
    .text "ilnamePattern" Limit.text (·.ilname.text)
      fun value options => { options with ilname.text := value },
    .text "prunePattern" Limit.text (·.prune.text)
      fun value options => { options with prune.text := value }]

def TimeOptions.schema : Schema TimeOptions where
  name := "TimeFilterOptions"
  initial := {}
  fields := [
    .choice "preset" (·.preset) fun value options => { options with preset := value },
    .flag "includeModified" (·.includeModified)
      fun value options => { options with includeModified := value },
    .flag "includeCreated" (·.includeCreated)
      fun value options => { options with includeCreated := value },
    .flag "includeAccessed" (·.includeAccessed)
      fun value options => { options with includeAccessed := value },
    .text "customFrom" Limit.size (·.customFrom)
      fun value options => { options with customFrom := value },
    .text "customTo" Limit.size (·.customTo)
      fun value options => { options with customTo := value },
    .flag "useMTime" (·.days.modified.enabled)
      fun value options => { options with days.modified.enabled := value },
    .flag "useATime" (·.days.accessed.enabled)
      fun value options => { options with days.accessed.enabled := value },
    .flag "useCTime" (·.days.changed.enabled)
      fun value options => { options with days.changed.enabled := value },
    .flag "useMMin" (·.minutes.modified.enabled)
      fun value options => { options with minutes.modified.enabled := value },
    .flag "useAMin" (·.minutes.accessed.enabled)
      fun value options => { options with minutes.accessed.enabled := value },
    .flag "useCMin" (·.minutes.changed.enabled)
      fun value options => { options with minutes.changed.enabled := value },
    .flag "useUsed" (·.used.enabled) fun value options => { options with used.enabled := value },
    .flag "useNewer" (·.newerThanFile.modified.enabled)
      fun value options => { options with newerThanFile.modified.enabled := value },
    .flag "useANewer" (·.newerThanFile.accessed.enabled)
      fun value options => { options with newerThanFile.accessed.enabled := value },
    .flag "useCNewer" (·.newerThanFile.changed.enabled)
      fun value options => { options with newerThanFile.changed.enabled := value },
    .flag "useNewermt" (·.newerThanTime.modified.enabled)
      fun value options => { options with newerThanTime.modified.enabled := value },
    .flag "useNewerat" (·.newerThanTime.accessed.enabled)
      fun value options => { options with newerThanTime.accessed.enabled := value },
    .flag "useNewerct" (·.newerThanTime.changed.enabled)
      fun value options => { options with newerThanTime.changed.enabled := value },
    .text "mtime" Limit.short (·.days.modified.text)
      fun value options => { options with days.modified.text := value },
    .text "atime" Limit.short (·.days.accessed.text)
      fun value options => { options with days.accessed.text := value },
    .text "ctime" Limit.short (·.days.changed.text)
      fun value options => { options with days.changed.text := value },
    .text "mmin" Limit.short (·.minutes.modified.text)
      fun value options => { options with minutes.modified.text := value },
    .text "amin" Limit.short (·.minutes.accessed.text)
      fun value options => { options with minutes.accessed.text := value },
    .text "cmin" Limit.short (·.minutes.changed.text)
      fun value options => { options with minutes.changed.text := value },
    .text "used" Limit.short (·.used.text)
      fun value options => { options with used.text := value },
    .text "newer" Limit.path (·.newerThanFile.modified.text)
      fun value options => { options with newerThanFile.modified.text := value },
    .text "anewer" Limit.path (·.newerThanFile.accessed.text)
      fun value options => { options with newerThanFile.accessed.text := value },
    .text "cnewer" Limit.path (·.newerThanFile.changed.text)
      fun value options => { options with newerThanFile.changed.text := value },
    .text "newermt" Limit.timestamp (·.newerThanTime.modified.text)
      fun value options => { options with newerThanTime.modified.text := value },
    .text "newerat" Limit.timestamp (·.newerThanTime.accessed.text)
      fun value options => { options with newerThanTime.accessed.text := value },
    .text "newerct" Limit.timestamp (·.newerThanTime.changed.text)
      fun value options => { options with newerThanTime.changed.text := value }]

def SizeOptions.schema : Schema SizeOptions where
  name := "SizeFilterOptions"
  initial := {}
  fields := [
    .flag "minEnabled" (·.min.enabled) fun value options => { options with min.enabled := value },
    .flag "maxEnabled" (·.max.enabled) fun value options => { options with max.enabled := value },
    .flag "exactEnabled" (·.exact.enabled)
      fun value options => { options with exact.enabled := value },
    .flag "rangeInclusive" (·.rangeInclusive)
      fun value options => { options with rangeInclusive := value },
    .flag "includeZeroByte" (·.includeZeroByte)
      fun value options => { options with includeZeroByte := value },
    .flag "treatDirectoriesAsFiles" (·.treatDirectoriesAsFiles)
      fun value options => { options with treatDirectoriesAsFiles := value },
    .flag "useDecimalUnits" (·.useDecimalUnits)
      fun value options => { options with useDecimalUnits := value },
    .flag "emptyEnabled" (·.emptyEnabled)
      fun value options => { options with emptyEnabled := value },
    .text "minSpec" Limit.size (·.min.text)
      fun value options => { options with min.text := value },
    .text "maxSpec" Limit.size (·.max.text)
      fun value options => { options with max.text := value },
    .text "exactSpec" Limit.size (·.exact.text)
      fun value options => { options with exact.text := value }]

def TypeOptions.schema : Schema TypeOptions where
  name := "TypeFilterOptions"
  initial := {}
  fields := [
    .flag "typeEnabled" (·.types.enabled)
      fun value options => { options with types.enabled := value },
    .flag "xtypeEnabled" (·.xtypes.enabled)
      fun value options => { options with xtypes.enabled := value },
    .flag "useExtensions" (·.extensions.enabled)
      fun value options => { options with extensions.enabled := value },
    .flag "extensionCaseInsensitive" (·.extensionCaseInsensitive)
      fun value options => { options with extensionCaseInsensitive := value },
    .flag "useDetectors" (·.detectors.enabled)
      fun value options => { options with detectors.enabled := value },
    .text "typeLetters" Limit.short (·.types.text)
      fun value options => { options with types.text := value },
    .text "xtypeLetters" Limit.short (·.xtypes.text)
      fun value options => { options with xtypes.text := value },
    .text "extensions" Limit.text (·.extensions.text)
      fun value options => { options with extensions.text := value },
    .text "detectorTags" Limit.text (·.detectors.text)
      fun value options => { options with detectors.text := value }]

def OwnershipOptions.schema : Schema OwnershipOptions where
  name := "PermissionOwnershipOptions"
  initial := {}
  fields := [
    .flag "permEnabled" (·.permissions.enabled)
      fun value options => { options with permissions.enabled := value },
    .flag "readable" (·.readable) fun value options => { options with readable := value },
    .flag "writable" (·.writable) fun value options => { options with writable := value },
    .flag "executable" (·.executable) fun value options => { options with executable := value },
    .choice "permMode" (·.permissionMatch)
      fun value options => { options with permissionMatch := value },
    .text "permSpec" Limit.short (·.permissions.text)
      fun value options => { options with permissions.text := value },
    .flag "userEnabled" (·.user.enabled)
      fun value options => { options with user.enabled := value },
    .flag "uidEnabled" (·.uid.enabled) fun value options => { options with uid.enabled := value },
    .flag "groupEnabled" (·.group.enabled)
      fun value options => { options with group.enabled := value },
    .flag "gidEnabled" (·.gid.enabled) fun value options => { options with gid.enabled := value },
    .flag "noUser" (·.noUser) fun value options => { options with noUser := value },
    .flag "noGroup" (·.noGroup) fun value options => { options with noGroup := value },
    .text "user" Limit.account (·.user.text)
      fun value options => { options with user.text := value },
    .text "uid" Limit.number (·.uid.text)
      fun value options => { options with uid.text := value },
    .text "group" Limit.account (·.group.text)
      fun value options => { options with group.text := value },
    .text "gid" Limit.number (·.gid.text)
      fun value options => { options with gid.text := value }]

def TraversalOptions.schema : Schema TraversalOptions where
  name := "TraversalFilesystemOptions"
  initial := {}
  fields := [
    .choice "symlinkMode" (·.linkMode) fun value options => { options with linkMode := value },
    .choice "warningMode" (·.warningMode)
      fun value options => { options with warningMode := value },
    .flag "depthFirst" (·.depthFirst) fun value options => { options with depthFirst := value },
    .flag "stayOnFilesystem" (·.stayOnFilesystem)
      fun value options => { options with stayOnFilesystem := value },
    .flag "assumeNoLeaf" (·.assumeNoLeaf)
      fun value options => { options with assumeNoLeaf := value },
    .flag "ignoreReaddirRace" (·.ignoreReaddirRace)
      fun value options => { options with ignoreReaddirRace := value },
    .flag "dayStart" (·.dayStart) fun value options => { options with dayStart := value },
    .flag "maxDepthEnabled" (·.maxDepth.enabled)
      fun value options => { options with maxDepth.enabled := value },
    .flag "minDepthEnabled" (·.minDepth.enabled)
      fun value options => { options with minDepth.enabled := value },
    .flag "filesFromEnabled" (·.filesFrom.enabled)
      fun value options => { options with filesFrom.enabled := value },
    .flag "filesFromNullSeparated" (·.filesFromNullSeparated)
      fun value options => { options with filesFromNullSeparated := value },
    .flag "fstypeEnabled" (·.filesystemType.enabled)
      fun value options => { options with filesystemType.enabled := value },
    .flag "linksEnabled" (·.linkCount.enabled)
      fun value options => { options with linkCount.enabled := value },
    .flag "sameFileEnabled" (·.sameFile.enabled)
      fun value options => { options with sameFile.enabled := value },
    .flag "inumEnabled" (·.inode.enabled)
      fun value options => { options with inode.enabled := value },
    .text "maxDepth" Limit.depth (·.maxDepth.text)
      fun value options => { options with maxDepth.text := value },
    .text "minDepth" Limit.depth (·.minDepth.text)
      fun value options => { options with minDepth.text := value },
    .text "filesFrom" Limit.path (·.filesFrom.text)
      fun value options => { options with filesFrom.text := value },
    .text "fsType" Limit.account (·.filesystemType.text)
      fun value options => { options with filesystemType.text := value },
    .text "linkCount" Limit.short (·.linkCount.text)
      fun value options => { options with linkCount.text := value },
    .text "sameFile" Limit.path (·.sameFile.text)
      fun value options => { options with sameFile.text := value },
    .text "inode" Limit.number (·.inode.text)
      fun value options => { options with inode.text := value }]

def ActionOptions.schema : Schema ActionOptions where
  name := "ActionOptions"
  initial := {}
  fields := [
    .flag "print" (·.print) fun value options => { options with print := value },
    .flag "print0" (·.print0) fun value options => { options with print0 := value },
    .flag "ls" (·.ls) fun value options => { options with ls := value },
    .flag "deleteMatches" (·.deleteMatches)
      fun value options => { options with deleteMatches := value },
    .flag "quitEarly" (·.quitEarly) fun value options => { options with quitEarly := value },
    .flag "execEnabled" (·.exec.enabled)
      fun value options => { options with exec.enabled := value },
    .flag "execUsePlus" (·.execUsePlus) fun value options => { options with execUsePlus := value },
    .choice "execVariant" (·.execVariant)
      fun value options => { options with execVariant := value },
    .flag "fprintEnabled" (·.fprint.enabled)
      fun value options => { options with fprint.enabled := value },
    .flag "fprintAppend" (·.fprintAppend)
      fun value options => { options with fprintAppend := value },
    .flag "fprint0Enabled" (·.fprint0.enabled)
      fun value options => { options with fprint0.enabled := value },
    .flag "fprint0Append" (·.fprint0Append)
      fun value options => { options with fprint0Append := value },
    .flag "flsEnabled" (·.fls.enabled) fun value options => { options with fls.enabled := value },
    .flag "flsAppend" (·.flsAppend) fun value options => { options with flsAppend := value },
    .flag "printfEnabled" (·.printf.enabled)
      fun value options => { options with printf.enabled := value },
    .flag "fprintfEnabled" (·.fprintf.enabled)
      fun value options => { options with fprintf.enabled := value },
    .flag "fprintfAppend" (·.fprintfAppend)
      fun value options => { options with fprintfAppend := value },
    .text "execCommand" Limit.command (·.exec.text)
      fun value options => { options with exec.text := value },
    .text "fprintFile" Limit.path (·.fprint.text)
      fun value options => { options with fprint.text := value },
    .text "fprint0File" Limit.path (·.fprint0.text)
      fun value options => { options with fprint0.text := value },
    .text "flsFile" Limit.path (·.fls.text)
      fun value options => { options with fls.text := value },
    .text "printfFormat" Limit.text (·.printf.text)
      fun value options => { options with printf.text := value },
    .text "fprintfFile" Limit.path (·.fprintf.text)
      fun value options => { options with fprintf.text := value },
    .text "fprintfFormat" Limit.text (·.fprintfFormat)
      fun value options => { options with fprintfFormat := value }]

def Specification.schema : Schema Specification where
  name := "Specification"
  initial := {}
  fields := [
    .text "specName" Limit.name (·.name)
      fun value specification => { specification with name := value },
    .text "startLocation" Limit.path (·.startLocation)
      fun value specification => { specification with startLocation := value },
    .text "searchText" Limit.text (·.searchText)
      fun value specification => { specification with searchText := value },
    .text "includePatterns" Limit.text (·.includePatterns)
      fun value specification => { specification with includePatterns := value },
    .text "excludePatterns" Limit.text (·.excludePatterns)
      fun value specification => { specification with excludePatterns := value },
    .flag "includeSubdirectories" (·.includeSubdirectories)
      fun value specification => { specification with includeSubdirectories := value },
    .flag "includeHidden" (·.includeHidden)
      fun value specification => { specification with includeHidden := value },
    .flag "followSymlinks" (·.followLinks)
      fun value specification => { specification with followLinks := value },
    .flag "stayOnSameFilesystem" (·.stayOnSameFilesystem)
      fun value specification => { specification with stayOnSameFilesystem := value },
    .flag "enableTextSearch" (·.enableText)
      fun value specification => { specification with enableText := value },
    .flag "enableNamePathTests" (·.enableNames)
      fun value specification => { specification with enableNames := value },
    .flag "enableTimeFilters" (·.enableTimes)
      fun value specification => { specification with enableTimes := value },
    .flag "enableSizeFilters" (·.enableSizes)
      fun value specification => { specification with enableSizes := value },
    .flag "enableTypeFilters" (·.enableTypes)
      fun value specification => { specification with enableTypes := value },
    .flag "enablePermissionOwnership" (·.enableOwnership)
      fun value specification => { specification with enableOwnership := value },
    .flag "enableTraversalFilters" (·.enableTraversal)
      fun value specification => { specification with enableTraversal := value },
    .flag "enableActionOptions" (·.enableActions)
      fun value specification => { specification with enableActions := value },
    .group "textOptions" TextOptions.schema (·.text)
      fun value specification => { specification with text := value },
    .group "namePathOptions" NameOptions.schema (·.names)
      fun value specification => { specification with names := value },
    .group "timeOptions" TimeOptions.schema (·.times)
      fun value specification => { specification with times := value },
    .group "sizeOptions" SizeOptions.schema (·.sizes)
      fun value specification => { specification with sizes := value },
    .group "typeOptions" TypeOptions.schema (·.types)
      fun value specification => { specification with types := value },
    .group "permissionOptions" OwnershipOptions.schema (·.ownership)
      fun value specification => { specification with ownership := value },
    .group "traversalOptions" TraversalOptions.schema (·.traversal)
      fun value specification => { specification with traversal := value },
    .group "actionOptions" ActionOptions.schema (·.actions)
      fun value specification => { specification with actions := value }]

namespace Specification

def ofDocument (document : String) : Except Json.Error Specification :=
  schema.readDocument document

/-- The document of a specification, for people: one field on each line, and a line end behind
it. -/
def document (specification : Specification) : String :=
  (schema.write specification).document .pretty ++ "\n"

/-- A specification with every text cut to its limit. -/
def limited (specification : Specification) : Specification :=
  schema.limit specification

end Specification

end FileSearch
