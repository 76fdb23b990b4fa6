import FileSearch.CommandLine.Invocation
import FileSearch.CommandLine.Outcome

/-!
# Carrying out invocations

The commands of the program, as functions from the files that there are to outcomes.
-/

set_option autoImplicit false

namespace FileSearch.CommandLine

/-- Where the program runs: the environment, and what commands do there. -/
structure Setting where
  environment : Environment
  programs : Programs

namespace Source

/-- The specification with what takes the place of parts of it. -/
def replace (source : Source) (specification : Specification) : Specification :=
  { specification with
    startLocation := source.start?.getD specification.startLocation
    searchText := source.text?.getD specification.searchText }

def readFile (tree : FileTree) (file : String) : Except Failure Specification :=
  match tree.readText (Path.ofText file) with
  | .error _ => .error (.reading file)
  | .ok document => (Specification.ofDocument document).mapError fun _ => .notSpecification file

/-- The saved specification that a name or slug stands for. -/
def loadSaved (storage : Storage FileTree) (tree : FileTree) (name : String) :
    Except Failure Specification :=
  match storage.load tree name with
  | .error cause => .error (.store cause)
  | .ok none => .error (.store (.notFound name))
  | .ok (some specification) => .ok specification

/-- The specification that a command is about. Opening the store makes its directory. -/
def load (source : Source) (environment : Environment) (config : Config) (tree : FileTree) :
    Except Failure Specification × FileTree :=
  match source.file?, source.name? with
  | some file, _ => ((readFile tree file).map source.replace, tree)
  | none, some name =>
    match config.openStore environment tree with
    | (.error cause, tree) => (.error (.opening cause), tree)
    | (.ok storage, tree) => ((loadSaved storage tree name).map source.replace, tree)
  | none, none => (.ok (source.replace {}), tree)

def program (source : Source) (config : Config) : String :=
  source.program?.getD config.program

def preview (source : Source) (config : Config) (withoutActions : Bool)
    (specification : Specification) : List String :=
  let specification :=
    if withoutActions then { specification with enableActions := false } else specification
  (specification.command (!withoutActions) (source.program config)).arguments

end Source

def compile (setting : Setting) (format : Format) (verbose : Bool) (source : Source)
    (withoutActions : Bool) (config : Config) (tree : FileTree) : Outcome :=
  match source.load setting.environment config tree with
  | (.error cause, tree) => .failure [] cause tree
  | (.ok specification, tree) =>
    let command := source.preview config withoutActions specification
    let notices := if verbose then [.line (toString command.length ++ " argument(s)")] else []
    .printed notices ((Report.command command).render format) tree

/-- How a search is carried out. Formats other than plain text need the list of matches. -/
def searchOptions (format : Format) (config : Config)
    (withoutActions capture withoutFilter : Bool) : SearchOptions where
  includeActions := !withoutActions
  capture := capture || config.captureMatches || format != .text
  filterContent := !withoutFilter && config.filterContent

/-- What a search tells about itself on the error output. -/
def searchNotices (verbose : Bool) (result : SearchResult) (errors : Bytes) : List Notice :=
  .passedOn errors :: if verbose then
    [.line ("Command: " ++ CommandText.render result.command),
      .summary result.found.length result.status]
  else []

/-- Carries out a search. In plain text the output is passed on or the matches are printed, in other
formats the result is reported. -/
def runSearch (setting : Setting) (format : Format) (verbose : Bool) (source : Source)
    (options : SearchOptions) (config : Config) (tree : FileTree) : Outcome :=
  match source.load setting.environment config tree with
  | (.error cause, tree) => .failure [] cause tree
  | (.ok specification, tree) =>
    let sinks : Sinks := {
      output := if format = .text then some {} else none
      errors := some {} }
    let (result, sinks, tree) :=
      specification.search options (source.program config) setting.programs tree sinks
    let passed := sinks.output.elim [] Sink.received
    let notices := searchNotices verbose result (sinks.errors.elim [] Sink.received)
    if result.cancelled then
      { code := interruptedCode
        output := passed
        notices := notices ++ [.line ((Report.error "search interrupted").render format)]
        tree := tree }
    else
      let report :=
        if format = .text then []
        else Bytes.ofText ((Report.result result).render format ++ "\n")
      { code := result.exitCode, output := passed ++ report, notices := notices, tree := tree }

/-- A message that the program prints. -/
def told (notices : List Notice) (format : Format) (text : String) (tree : FileTree) : Outcome :=
  .printed notices ((Report.message text).render format) tree

def listSaved (storage : Storage FileTree) (notices : List Notice) (format : Format)
    (tree : FileTree) : Outcome :=
  match storage.list tree with
  | .error _ => .failure notices .listing tree
  | .ok saved => .printed notices ((Report.savedList saved storage.root).render format) tree

def showSaved (storage : Storage FileTree) (notices : List Notice) (format : Format)
    (config : Config) (name : String) (tree : FileTree) : Outcome :=
  match Source.loadSaved storage tree name with
  | .error cause => .failure notices cause tree
  | .ok specification =>
    let command := (specification.command true config.program).arguments
    .printed notices ((Report.specification specification command).render format) tree

def importSaved (storage : Storage FileTree) (notices : List Notice) (format : Format)
    (file : String) (name? : Option String) (tree : FileTree) : Outcome :=
  match storage.importFrom tree (Path.ofText file) name? tree with
  | (.error _, tree) => .failure notices (.importing file) tree
  | (.ok saved, tree) =>
    told notices format ("Saved '" ++ saved.name ++ "' to " ++ saved.path.display) tree

/-- Writes a saved specification to a file, or else to the output. -/
def exportSaved (storage : Storage FileTree) (notices : List Notice) (format : Format)
    (name : String) (output? : Option String) (tree : FileTree) : Outcome :=
  match Source.loadSaved storage tree name, output? with
  | .error cause, _ => .failure notices cause tree
  | .ok specification, none =>
    { output := Bytes.ofText specification.document, notices := notices, tree := tree }
  | .ok specification, some file =>
    match tree.write (Path.ofText file) (Bytes.ofText specification.document) with
    | .error _ => .failure notices (.writing file) tree
    | .ok tree =>
      told notices format ("Exported '" ++ specification.name ++ "' to " ++ file) tree

def removeSaved (storage : Storage FileTree) (notices : List Notice) (format : Format)
    (name : String) (tree : FileTree) : Outcome :=
  match storage.remove name tree with
  | (.error cause, tree) => .failure notices (.store cause) tree
  | (.ok false, tree) => .failure notices (.store (.notFound name)) tree
  | (.ok true, tree) => told notices format ("Removed '" ++ name ++ "'") tree

/-- Opens the store of saved specifications and goes on with it. -/
def withStore (setting : Setting) (verbose : Bool) (config : Config) (tree : FileTree)
    (goOn : Storage FileTree → List Notice → FileTree → Outcome) : Outcome :=
  match config.openStore setting.environment tree with
  | (.error cause, tree) => .failure [] (.opening cause) tree
  | (.ok storage, tree) =>
    let notices := if verbose then [.line ("Specifications: " ++ storage.root.display)] else []
    goOn storage notices tree

def createConfig (setting : Setting) (format : Format) (force : Bool) (tree : FileTree) :
    Outcome :=
  match setting.environment.configLocation? with
  | none => .failure [] .noConfigDirectory tree
  | some path =>
    if tree.hasPath path && !force then .failure [] (.configExists path) tree
    else
      match ({} : Config).save setting.environment tree with
      | (.error _, tree) => .failure [] .creatingConfig tree
      | (.ok path, tree) => told [] format ("Created config at: " ++ path.display) tree

def showConfig (setting : Setting) (format : Format) (config : Config) (tree : FileTree) :
    Outcome :=
  let path := setting.environment.configLocation?.filter tree.hasPath
  let report := Report.config config path (config.specsDirectory setting.environment)
  .printed [] (report.render format) tree

/-- Shows where the configuration is, or would be. -/
def showConfigPath (setting : Setting) (tree : FileTree) : Outcome :=
  match setting.environment.configLocation? with
  | none => .failure [] .noConfigDirectory tree
  | some path =>
    let state := if tree.hasPath path then "active" else "would be"
    .printed [] ("Config (" ++ state ++ "): " ++ path.display) tree

/-- Loads the configuration and goes on with it. -/
def withConfig (setting : Setting) (tree : FileTree) (goOn : Config → Outcome) : Outcome :=
  match Config.load setting.environment tree with
  | .error cause => .failure [] (.config cause) tree
  | .ok config => goOn config

namespace Task

def perform (setting : Setting) (format : Format) (verbose : Bool) (tree : FileTree) :
    Task → Outcome
  | run source withoutActions capture withoutFilter =>
    withConfig setting tree fun config =>
      runSearch setting format verbose source
        (searchOptions format config withoutActions capture withoutFilter) config tree
  | compile source withoutActions =>
    withConfig setting tree fun config =>
      CommandLine.compile setting format verbose source withoutActions config tree
  | listSaved =>
    withConfig setting tree fun config =>
      withStore setting verbose config tree fun storage notices tree =>
        CommandLine.listSaved storage notices format tree
  | showSaved name =>
    withConfig setting tree fun config =>
      withStore setting verbose config tree fun storage notices tree =>
        CommandLine.showSaved storage notices format config name tree
  | importSaved file name? =>
    withConfig setting tree fun config =>
      withStore setting verbose config tree fun storage notices tree =>
        CommandLine.importSaved storage notices format file name? tree
  | exportSaved name output? =>
    withConfig setting tree fun config =>
      withStore setting verbose config tree fun storage notices tree =>
        CommandLine.exportSaved storage notices format name output? tree
  | removeSaved name =>
    withConfig setting tree fun config =>
      withStore setting verbose config tree fun storage notices tree =>
        CommandLine.removeSaved storage notices format name tree
  | createConfig force => CommandLine.createConfig setting format force tree
  | showConfig => withConfig setting tree fun config =>
      CommandLine.showConfig setting format config tree
  | showConfigPath => CommandLine.showConfigPath setting tree

end Task

namespace Invocation

/-- The format of reports: the one that is asked for, or else the configured one. A configuration
that cannot be read has its defaults here. -/
def format (invocation : Invocation) (setting : Setting) (tree : FileTree) : Format :=
  invocation.format?.getD
    ((Config.load setting.environment tree).toOption.getD {}).defaultFormat

def perform (invocation : Invocation) (setting : Setting) (tree : FileTree) : Outcome :=
  invocation.task.perform setting (invocation.format setting tree) invocation.verbose tree

end Invocation

/-- Carries out what the arguments of the program ask for. -/
def perform (setting : Setting) (arguments : List String) (tree : FileTree) : Outcome :=
  match Invocation.ofArguments arguments with
  | .ok invocation => invocation.perform setting tree
  | .error (.version name) => .printed [] (name ++ " " ++ version) tree
  | .error .help => { tree }
  | .error .usage => { code := usageCode, tree }

end FileSearch.CommandLine
