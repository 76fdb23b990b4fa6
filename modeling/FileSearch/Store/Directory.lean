import FileSearch.Files.Tree
import FileSearch.Store.Storage

/-!
# Documents in a directory

One file for each document, directly in a directory.
-/

set_option autoImplicit false

namespace FileSearch

namespace Directory

/-- The ending of the names of documents, without its point. -/
def extension : Bytes := Bytes.ofText "json"

/-- The slug of the document that a file of a name holds. -/
def slug? (name : Bytes) : Option String :=
  match Path.splitExtension name with
  | (stem, some ending) => if ending == extension then stem.toText? else none
  | _ => none

/-- The slugs of the documents in a directory. A directory that does not exist holds none. -/
def slugs (root : Path) (tree : FileTree) : Except FileError (List String) :=
  match tree.list root with
  | .ok names =>
    .ok ((names.filter fun name => tree.hasFile (root.join name)).filterMap slug?)
  | .error .notFound => .ok []
  | .error error => .error error

def read (tree : FileTree) (path : Path) : Except FileError (Option String) :=
  match tree.readText path with
  | .ok text => .ok (some text)
  | .error .notFound => .ok none
  | .error error => .error error

def write (root path : Path) (document : String) (tree : FileTree) :
    Except FileError Unit × FileTree :=
  match tree.ensureDirectory root with
  | (.error error, tree) => (.error error, tree)
  | (.ok (), tree) =>
    match tree.write path (Bytes.ofText document) with
    | .ok written => (.ok (), written)
    | .error error => (.error error, tree)

/-- Deletes a file. Says whether there was one. -/
def delete (path : Path) (tree : FileTree) : Except FileError Bool × FileTree :=
  match tree.remove path with
  | .ok removed => (.ok true, removed)
  | .error .notFound => (.ok false, tree)
  | .error error => (.error error, tree)

def location (root : Path) (slug : String) : Path :=
  root.join (Path.ofText (slug ++ Storage.ending))

def storage (root : Path) : Storage FileTree where
  root := root
  slugs := slugs root
  read tree slug := read tree (location root slug)
  write slug := write root (location root slug)
  delete slug := delete (location root slug)

end Directory

end FileSearch
