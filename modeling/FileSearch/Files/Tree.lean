import FileSearch.Files.Error
import FileSearch.Files.Path

/-!
# Trees of files

What a path leads to. A tree holds a node for each location below the root, and a location is the
list of names on the way there. Links are followed where they lead. Files have permissions, and a
file that may be written may also be read.
-/

set_option autoImplicit false

namespace FileSearch

/-- The names from the root to a place. -/
abbrev Location := List Bytes

/-- What the program may do with a file. -/
inductive Access where
  | none
  | reading
  | full
  deriving DecidableEq, Repr

/-- What stands at a location. -/
inductive Node where
  | file (contents : Bytes) (executable : Bool) (access : Access := .full)
  | directory
  | link (target : Path)
  deriving DecidableEq, Repr

/-- Files, directories and links, and the directory that relative paths begin in. -/
structure FileTree where
  /-- What stands where. Nothing stands twice at a location. -/
  nodes : List (Location × Node) := []
  distinct : (nodes.map Prod.fst).Nodup := by simp
  workingDirectory : Location := []
  deriving DecidableEq, Repr

namespace FileTree

/-- The node at a location. The root is a directory. -/
def node? (tree : FileTree) (location : Location) : Option Node :=
  if location.isEmpty then some .directory else tree.nodes.lookup location

/-- A tree with the nodes at some of its locations only. -/
def restrict (tree : FileTree) (keeps : Location → Bool) : FileTree where
  nodes := tree.nodes.filter fun entry => keeps entry.1
  distinct := tree.distinct.sublist (List.filter_sublist.map Prod.fst)
  workingDirectory := tree.workingDirectory

/-- A tree without the node at a location. -/
def erase (tree : FileTree) (location : Location) : FileTree :=
  tree.restrict (· != location)

/-- A tree with a node at a location, in place of the one that was there. -/
def insert (tree : FileTree) (location : Location) (node : Node) : FileTree where
  nodes := (location, node) :: (tree.erase location).nodes
  distinct := by
    rw [List.map_cons, List.nodup_cons]
    exact ⟨by simp [erase, restrict], (tree.erase location).distinct⟩
  workingDirectory := tree.workingDirectory

/-- The names of what stands directly below a location. -/
def children (tree : FileTree) (location : Location) : List Bytes :=
  tree.nodes.filterMap fun entry =>
    if entry.1.length = location.length + 1 && location.isPrefixOf entry.1 then entry.1.getLast?
    else none

/-- The most bytes of a name. -/
def maxName : Nat := 255

/-- The most bytes of a path. -/
def maxPath : Nat := 4095

/-- How many links are followed on the way of one path. -/
def maxLinks : Nat := 40

/-- Where steps lead from a place: to a location, at which there may be nothing. All but the last
step have to lead to directories. A link is followed, except as the last step where that is not
asked for. -/
def walk (tree : FileTree) (followLast : Bool) (links : Nat) (place : Location) :
    List Bytes → Except FileError Location
  | [] => .ok place
  | name :: rest =>
    match tree.node? place with
    | none => .error .notFound
    | some .directory =>
      if name == [Path.point] then walk tree followLast links place rest
      else if name == [Path.point, Path.point] then walk tree followLast links place.dropLast rest
      else if maxName < name.length then .error .nameTooLong
      else
        match tree.node? (place ++ [name]), links with
        | some (.link target), links =>
          if rest.isEmpty && !followLast then .ok (place ++ [name])
          else match links with
            | 0 => .error .tooManyLinks
            | links + 1 =>
              walk tree followLast links (if Path.isAbsolute target then [] else place)
                (Path.steps target ++ rest)
        | _, links => walk tree followLast links (place ++ [name]) rest
    | some _ => .error .notADirectory
termination_by steps => (links, steps.length)

def locate (tree : FileTree) (followLast : Bool) (path : Path) : Except FileError Location :=
  if path.contains 0 then .error .nulByte
  else if path.isEmpty then .error .notFound
  else if maxPath < path.length then .error .nameTooLong
  else tree.walk followLast maxLinks (if path.isAbsolute then [] else tree.workingDirectory)
    path.steps

/-- What a path leads to, if anything. -/
def find? (tree : FileTree) (path : Path) : Option Node :=
  match tree.locate true path with
  | .ok location => tree.node? location
  | .error _ => none

/-- Whether a path leads anywhere. -/
def hasPath (tree : FileTree) (path : Path) : Bool :=
  (tree.find? path).isSome

def hasFile (tree : FileTree) (path : Path) : Bool :=
  match tree.find? path with
  | some (.file ..) => true
  | _ => false

def hasDirectory (tree : FileTree) (path : Path) : Bool :=
  tree.find? path == some .directory

def read (tree : FileTree) (path : Path) : Except FileError Bytes := do
  match tree.node? (← tree.locate true path) with
  | some (.file _ _ .none) => throw .permissionDenied
  | some (.file contents _ _) => return contents
  | some .directory => throw .isADirectory
  | _ => throw .notFound

/-- The contents of a file that holds text. -/
def readText (tree : FileTree) (path : Path) : Except FileError String := do
  match (← tree.read path).toText? with
  | some text => return text
  | none => throw .notText

/-- The names in a directory. -/
def list (tree : FileTree) (path : Path) : Except FileError (List Bytes) := do
  let location ← tree.locate true path
  match tree.node? location with
  | some .directory => return tree.children location
  | some _ => throw .notADirectory
  | none => throw .notFound

/-- A tree in which a file has the given contents. The file is made if there is none, with all
permissions. -/
def write (tree : FileTree) (path : Path) (contents : Bytes) : Except FileError FileTree := do
  let location ← tree.locate true path
  match tree.node? location with
  | some .directory => throw .isADirectory
  | some (.file _ executable .full) => return tree.insert location (.file contents executable)
  | some (.file ..) => throw .permissionDenied
  | _ => return tree.insert location (.file contents false)

/-- A tree without a file or link. -/
def remove (tree : FileTree) (path : Path) : Except FileError FileTree := do
  let location ← tree.locate false path
  match tree.node? location with
  | some .directory => throw .isADirectory
  | some _ => return tree.erase location
  | none => throw .notFound

def makeDirectory (tree : FileTree) (path : Path) : Except FileError FileTree := do
  let trimmed := (path.reverse.dropWhile (· == Path.slash)).reverse
  let location ← tree.locate false (if trimmed.isEmpty then path else trimmed)
  if (tree.node? location).isSome then throw .alreadyExists
  return tree.insert location .directory

/-- A tree in which a path leads to a directory, with the directories above it, which are made
where they are missing. If that fails at some directory, those above it have been made. `fuel`
bounds the number of directories. -/
def makeDirectories (tree : FileTree) : Nat → Path → Except FileError Unit × FileTree
  | 0, _ => (.ok (), tree)
  | fuel + 1, path =>
    match path.parent? with
    | none => (.ok (), tree)
    | some parent =>
      let settle (tree : FileTree) (error : FileError) : Except FileError Unit × FileTree :=
        if tree.hasDirectory path then (.ok (), tree) else (.error error, tree)
      match tree.makeDirectory path with
      | .ok made => (.ok (), made)
      | .error .notFound =>
        if parent.isEmpty then (.error .notFound, tree)
        else match makeDirectories tree fuel parent with
          | (.error error, tree) => (.error error, tree)
          | (.ok (), tree) =>
            match tree.makeDirectory path with
            | .ok made => (.ok (), made)
            | .error error => settle tree error
      | .error error => settle tree error

/-- Makes the directory of a path and those above it. -/
def ensureDirectory (tree : FileTree) (path : Path) : Except FileError Unit × FileTree :=
  tree.makeDirectories (path.length + 1) path

end FileTree

end FileSearch
