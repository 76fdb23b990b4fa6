import FileSearch.Command.Basic
import FileSearch.Files.Error
import FileSearch.Files.Path
import FileSearch.Report.Format
import FileSearch.Text.Blank

/-!
# Configurations

What a user has settled for all searches, and where the files of the program are: those depend on
the environment of the program.
-/

set_option autoImplicit false

namespace FileSearch

/-- What a user has settled for all searches. -/
structure Config where
  /-- The search program. -/
  program : String := defaultProgram
  /-- Whether matches are collected rather than passed on. -/
  captureMatches : Bool := false
  /-- Whether collected matches are narrowed down by contents. -/
  filterContent : Bool := true
  /-- The format of reports, where none is asked for. -/
  defaultFormat : Format := .text
  /-- The directory of saved specifications, if it is not the usual one. -/
  specsDirectory? : Option Path := none
  deriving DecidableEq, Repr

/-- The causes for which an operation on configurations fails. -/
inductive ConfigError where
  | file (cause : FileError)
  /-- A file holds no configuration. -/
  | unreadable
  /-- A configuration has a path that is no text. -/
  | unwritable
  /-- There is no directory for configurations. -/
  | noDirectory
  deriving DecidableEq, Repr

def ConfigError.message : ConfigError → String
  | file cause => "IO error: " ++ cause.message
  | unreadable => "TOML parse error"
  | unwritable => "TOML serialize error"
  | noDirectory => "path error: could not determine config directory"

/-- What the environment of a program says about the places of files. A variable that is not set is
empty. -/
structure Environment where
  /-- The home directory. -/
  home : String := ""
  /-- The home directory of the account, where the environment names none. -/
  accountHome? : Option Path := none
  /-- The directory for configurations of all programs. It counts only if it is absolute. -/
  configHome : String := ""
  /-- The file with the configuration of this program. It counts only if it is not blank. -/
  configFile : String := ""
  deriving Repr

namespace Environment

/-- The home directory of the user. -/
def home? (environment : Environment) : Option Path :=
  if environment.home.isEmpty then environment.accountHome?
  else some (Path.ofText environment.home)

/-- The directory for configurations of all programs. -/
def configDirectory? (environment : Environment) : Option Path :=
  let directory := Path.ofText environment.configHome
  if directory.isAbsolute then some directory
  else environment.home?.map (·.join (Path.ofText ".config"))

def appDirectory? (environment : Environment) : Option Path :=
  environment.configDirectory?.map (·.join (Path.ofText "ckfind"))

def configLocation? (environment : Environment) : Option Path :=
  if (Text.trim environment.configFile).isEmpty then
    environment.appDirectory?.map (·.join (Path.ofText "config.toml"))
  else some (Path.ofText environment.configFile)

end Environment

/-- The directory of saved specifications. -/
def Config.specsDirectory (config : Config) (environment : Environment) :
    Except ConfigError Path :=
  match config.specsDirectory? with
  | some directory => .ok directory
  | none =>
    match environment.appDirectory? with
    | some directory => .ok (directory.join (Path.ofText "specs"))
    | none => .error .noDirectory

end FileSearch
