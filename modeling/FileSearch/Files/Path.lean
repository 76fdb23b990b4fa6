import FileSearch.Text.Bytes

/-!
# Paths

A path is a byte string: names with slashes between them. A path stays as it is written, so two
paths can lead to the same place and still differ.
-/

set_option autoImplicit false

namespace FileSearch

abbrev Path := Bytes

namespace Path

/-- The byte between two names. -/
def slash : UInt8 := 0x2F

def point : UInt8 := 0x2E

def ofText (text : String) : Path :=
  Bytes.ofText text

/-- A path for display. What is not UTF-8 is replaced. -/
def display (path : Path) : String :=
  Bytes.toTextLossy path

/-- Whether a path begins at the root. -/
def isAbsolute (path : Path) : Bool :=
  path.head? == some slash

/-- A path continued by another, which replaces it if it is absolute. -/
def join (base next : Path) : Path :=
  if next.isAbsolute || base.isEmpty then next
  else if base.getLast? == some slash then base ++ next
  else base ++ slash :: next

/-- The steps of a path: its names, and a step in place if a slash ends it. -/
def steps (path : Path) : List Bytes :=
  let names := (path.splitOnP (· == slash)).filter fun name => !name.isEmpty
  if path.getLast? == some slash then names ++ [[point]] else names

/-- A path in reverse without slashes and steps in place at its end. -/
def trimReversed : Path → Path
  | [] => []
  | c :: rest =>
    if c == slash then if rest.isEmpty then [slash] else trimReversed rest
    else match rest with
      | d :: before =>
        if c == point && d == slash then
          if before.isEmpty then [slash] else trimReversed before
        else c :: rest
      | [] => [c]

/-- The path of the directory that holds what a path leads to. The root and the empty path have
none. -/
def parent? (path : Path) : Option Path :=
  let trimmed := trimReversed path.reverse
  if trimmed.isEmpty || trimmed == [slash] then none
  else some (trimReversed (trimmed.dropWhile (· != slash))).reverse

/-- The parts of a name before and behind its last point. A name that begins with its only point
has no second part. -/
def splitExtension (name : Bytes) : Bytes × Option Bytes :=
  let extension := (name.reverse.takeWhile (· != point)).reverse
  let before := (name.reverse.dropWhile (· != point)).drop 1
  if before.isEmpty then (name, none) else (before.reverse, some extension)

end Path

end FileSearch
