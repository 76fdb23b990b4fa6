import FileSearch.Config.Document
import FileSearch.Files.Tree
import FileSearch.Store.Directory

/-!
# Access to configurations

Reading and writing the file with the configuration, and opening the store that it names.
-/

set_option autoImplicit false

namespace FileSearch

namespace Config

def readFrom (tree : FileTree) (path : Path) : Except ConfigError Config :=
  match tree.readText path with
  | .error error => .error (.file error)
  | .ok document =>
    match ofDocument? document with
    | some config => .ok config
    | none => .error .unreadable

/-- The configuration of the user. Without a file it has its defaults. -/
def load (environment : Environment) (tree : FileTree) : Except ConfigError Config :=
  match environment.configLocation? with
  | some path => if tree.hasPath path then readFrom tree path else .ok {}
  | none => .ok {}

/-- Writes a file, after making the directory for it and those above. -/
def writeFile (path : Path) (document? : Option String) (tree : FileTree) :
    Except ConfigError Unit × FileTree :=
  let made :=
    match path.parent? with
    | some parent => tree.ensureDirectory parent
    | none => (.ok (), tree)
  match made, document? with
  | (.error error, tree), _ => (.error (.file error), tree)
  | (.ok (), tree), none => (.error .unwritable, tree)
  | (.ok (), tree), some document =>
    match tree.write path (Bytes.ofText document) with
    | .ok written => (.ok (), written)
    | .error error => (.error (.file error), tree)

/-- Writes a configuration to the file of the user. Gives the path of the file. -/
def save (config : Config) (environment : Environment) (tree : FileTree) :
    Except ConfigError Path × FileTree :=
  match environment.configLocation? with
  | none => (.error .noDirectory, tree)
  | some path =>
    let (result, tree) := writeFile path config.document? tree
    (result.map fun _ => path, tree)

end Config

/-- The causes for which a store cannot be opened. -/
inductive OpenError where
  | config (cause : ConfigError)
  | store (cause : StoreError)
  deriving DecidableEq, Repr

def OpenError.message : OpenError → String
  | config cause => "config error: " ++ cause.message
  | store cause => "store error: " ++ cause.message

def Directory.openStore (root : Path) (tree : FileTree) :
    Except StoreError (Storage FileTree) × FileTree :=
  let (made, tree) := tree.ensureDirectory root
  ((made.map fun _ => storage root).mapError .file, tree)

/-- Opens the store of saved specifications. -/
def Config.openStore (config : Config) (environment : Environment) (tree : FileTree) :
    Except OpenError (Storage FileTree) × FileTree :=
  match config.specsDirectory environment with
  | .error error => (.error (.config error), tree)
  | .ok root =>
    let (opened, tree) := Directory.openStore root tree
    (opened.mapError .store, tree)

end FileSearch
