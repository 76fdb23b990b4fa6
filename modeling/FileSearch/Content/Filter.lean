import FileSearch.Content
import FileSearch.Files.Tree

/-!
# Narrowing down matches by contents

Of the paths that a search has found, those remain whose files hold the search text. Paths that
lead to no file remain as well: there is nothing to look into.
-/

set_option autoImplicit false

namespace FileSearch

namespace FileTree

/-- How many leading bytes show whether a file is binary. -/
def sampleSize : Nat := 1024

/-- Whether a file looks binary: one of its leading bytes is zero. A file that cannot be read does
not. -/
def isBinary (tree : FileTree) (path : Path) : Bool :=
  match tree.read path with
  | .ok contents => (contents.take sampleSize).contains 0
  | .error _ => false

/-- The contents of a file as text, with replacement marks for what is not UTF-8. -/
def readLossy (tree : FileTree) (path : Path) : Except FileError String :=
  (tree.read path).map Bytes.toTextLossy

end FileTree

namespace Specification

/-- Whether a file is what a specification looks for. A binary file is not, unless binary files
count as text, and neither is one that cannot be read. -/
def acceptsFile (specification : Specification) (tree : FileTree) (path : Path) : Bool :=
  (specification.text.treatBinaryAsText || !tree.isBinary path)
    && match tree.readLossy path with
      | .ok contents => specification.acceptsContents contents
      | .error _ => false

def filterPaths (specification : Specification) (tree : FileTree) (paths : List Path) :
    List Path :=
  paths.filter fun path => !tree.hasFile path || specification.acceptsFile tree path

end Specification

end FileSearch
