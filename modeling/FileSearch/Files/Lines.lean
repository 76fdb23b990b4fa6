import FileSearch.Files.Path

/-!
# Paths, one on each line

Search programs print the paths that they find on lines of their own.
-/

set_option autoImplicit false

namespace FileSearch.Path

def lineEnd : UInt8 := 0x0A

/-- The byte that may stand before the end of a line. -/
def carriageReturn : UInt8 := 0x0D

/-- A line without the carriage return at its end, if it has one. -/
def dropCarriageReturn (line : Bytes) : Bytes :=
  if line.getLast? == some carriageReturn then line.dropLast else line

/-- The paths in an output. One carriage return is dropped from the end of each line, and lines that
are empty then are left out. -/
def ofLines (output : Bytes) : List Path :=
  ((output.splitOnP (· == lineEnd)).map dropCarriageReturn).filter fun line => !line.isEmpty

/-- Paths on lines of their own. -/
def toLines (paths : List Path) : Bytes :=
  paths.flatMap (· ++ [lineEnd])

end FileSearch.Path
