import FileSearch.Pattern.Bracket

/-!
# Reading patterns

The reader of a pattern's text. A text that follows no rule is no pattern.
-/

set_option autoImplicit false

namespace FileSearch.Pattern

/-- A part of a pattern and how deep parts are nested in it. -/
structure Part where
  pattern : TextPattern
  depth : Nat

/-- An element of a sequence: a part, or a setting of flags, which cannot be repeated. -/
inductive Element where
  | part (part : Part)
  | setting

def Element.part? : Element → Option Part
  | part inner => some inner
  | setting => none

/-- How deep parts may be nested. -/
def maxDepth : Nat := 250

/-- A group that has not been closed yet, with what has been read of it, newest first. -/
structure Group where
  /-- The flags in force outside the group. -/
  outerFlags : Flags
  alternatives : List Part
  elements : List Element

def greatestDepth (parts : List Part) : Nat :=
  (parts.map Part.depth).foldl max 0

namespace Group

/-- A group that holds nothing yet. -/
def start (outerFlags : Flags) : Group :=
  ⟨outerFlags, [], []⟩

def add (group : Group) (element : Element) : Group :=
  { group with elements := element :: group.elements }

/-- A group with one more part that holds no others. -/
def addLeaf (group : Group) (pattern : TextPattern) : Group :=
  group.add (.part ⟨pattern, 0⟩)

/-- The alternative that is being read. -/
def current (group : Group) : Part :=
  let parts := group.elements.reverse.filterMap Element.part?
  ⟨sequenceOf (parts.map Part.pattern),
    greatestDepth parts + (if group.elements.length < 2 then 0 else 1)⟩

/-- A group with a new alternative. -/
def branch (group : Group) : Group :=
  { group with alternatives := group.current :: group.alternatives, elements := [] }

def contents (group : Group) : Part :=
  match group.alternatives.reverse with
  | [] => group.current
  | first :: rest =>
    let parts := rest ++ [group.current]
    ⟨eitherOf first.pattern (parts.map Part.pattern), greatestDepth (first :: parts) + 1⟩

/-- A group whose last element is a part that is repeated. -/
def repeatLast? (group : Group) (least : Nat) (most : Option Nat) : Option Group :=
  match group.elements with
  | .part part :: rest =>
    some { group with
      elements := .part ⟨.repeated part.pattern least most, part.depth + 1⟩ :: rest }
  | _ => none

end Group

/-- The greatest number of repetitions that can be asked for. -/
def maxCount : Nat := 4294967295

def readDigits (flags : Flags) (text : List Char) : List Char × List Char :=
  match text with
  | [] => ([], [])
  | c :: rest =>
    if c.isDigit then
      let (digits, rest) := readDigits flags (flags.skip rest)
      (c :: digits, rest)
    else ([], c :: rest)
termination_by text.length
decreasing_by
  have shorter := flags.skip_length_le rest
  simp only [List.length_cons]
  omega

/-- A number of repetitions, which may be missing, with blanks around it. -/
def readCount (flags : Flags) (text : List Char) : Option (Option Nat × List Char) :=
  let (digits, rest) := readDigits flags (Text.dropBlanks text)
  let rest := flags.skip (Text.dropBlanks rest)
  if digits.isEmpty then some (none, rest)
  else
    let count := digits.foldl (fun value c => value * 10 + (c.toNat - '0'.toNat)) 0
    if count ≤ maxCount then some (some count, rest) else none

/-- The rest of a text behind a mark for shorter readings first, which changes nothing here. -/
def dropLazyMark : List Char → List Char
  | '?' :: rest => rest
  | text => text

/-- Bounds of a repetition, behind the opening brace. -/
def readBounds (flags : Flags) (text : List Char) : Option (Nat × Option Nat × List Char) := do
  let (least?, rest) ← readCount flags (flags.skip text)
  match rest with
  | ',' :: rest =>
    match flags.skip rest with
    | '}' :: rest => return (← least?, none, dropLazyMark (flags.skip rest))
    | rest => do
      let least ← least?
      let (most?, rest) ← readCount flags rest
      let most ← most?
      match rest with
      | '}' :: rest =>
        if least ≤ most then return (least, some most, dropLazyMark (flags.skip rest)) else none
      | _ => none
  | '}' :: rest => do
    let count ← least?
    return (count, some count, dropLazyMark (flags.skip rest))
  | _ => none

/-- Whether a character can be part of a group's name. -/
def isNameChar (first : Bool) (c : Char) : Bool :=
  c == '_' || Unicode.isAlphabetic c
    || (!first && (c == '.' || c == '[' || c == ']' || Unicode.isNumeric c))

/-- A group's name, up to the bracket that ends it. -/
def readName (text : List Char) : Option (List Char × List Char) :=
  match text.takeWhile (· != '>'), text.dropWhile (· != '>') with
  | first :: name, _ :: rest =>
    if isNameChar true first && name.all (isNameChar false) then some (first :: name, rest)
    else none
  | _, _ => none

/-- Flags at the front of a group, up to the mark behind them: the flags, whether any is set or
cleared, that mark, and the rest. `negative` tells whether the mark for clearing has been read,
`dangling` whether it has just been read. -/
def readFlags (negative dangling : Bool) (seen : List Char) (flags : Flags) :
    List Char → Option (Flags × Bool × Char × List Char)
  | [] => none
  | c :: rest =>
    if c = ':' || c = ')' then
      if dangling then none else some (flags, !seen.isEmpty, c, rest)
    else if c = '-' then
      if negative then none else readFlags true true seen flags rest
    else if seen.contains c then none
    else do readFlags negative false (c :: seen) (← flags.set? c (!negative)) rest

/-- What an opening parenthesis begins. -/
inductive Opening where
  /-- A setting of flags for the rest of the group around it. -/
  | setting (flags : Flags)
  /-- A group, the flags inside it, and its name if it has one. -/
  | group (flags : Flags) (name : Option (List Char))

/-- What an opening parenthesis begins, by what is behind it. Looking around is not offered. -/
def readOpening (flags : Flags) (text : List Char) : Option (Opening × List Char) :=
  match flags.skip text with
  | '?' :: '=' :: _ => none
  | '?' :: '!' :: _ => none
  | '?' :: '<' :: '=' :: _ => none
  | '?' :: '<' :: '!' :: _ => none
  | '?' :: '<' :: rest => (readName rest).map fun (name, rest) => (.group flags name, rest)
  | '?' :: 'P' :: '<' :: rest => (readName rest).map fun (name, rest) => (.group flags name, rest)
  | '?' :: rest => do
    let (inner, any, mark, rest) ← readFlags false false [] flags rest
    if mark = ':' then return (.group inner none, rest)
    else if any then return (.setting inner, rest)
    else none
  | rest => some (.group flags none, rest)

/-- A pattern that has been read in part: the flags in force, the innermost group, the groups
around it, and the names of groups. -/
structure Reading where
  flags : Flags
  group : Group
  outer : List Group
  names : List (List Char)

namespace Reading

/-- A reading with one more part that holds no others. -/
def addLeaf (reading : Reading) (pattern : TextPattern) : Reading :=
  { reading with group := reading.group.addLeaf pattern }

def repeatLast? (reading : Reading) (least : Nat) (most : Option Nat) : Option Reading :=
  (reading.group.repeatLast? least most).map fun group => { reading with group }

/-- A reading behind the front of a group or a setting of flags. No two groups have one name. -/
def enter? (reading : Reading) : Opening → Option Reading
  | .setting flags => some { reading with flags, group := reading.group.add .setting }
  | .group flags name =>
    if name.any reading.names.contains then none
    else some {
      flags
      group := .start reading.flags
      outer := reading.group :: reading.outer
      names := name.toList ++ reading.names }

def leave? (reading : Reading) : Option Reading :=
  match reading.outer with
  | [] => none
  | around :: outer =>
    let contents := reading.group.contents
    some { reading with
      flags := reading.group.outerFlags
      group := around.add (.part ⟨contents.pattern, contents.depth + 1⟩)
      outer }

/-- The pattern of a reading that has come to the end of the text. -/
def finish? (reading : Reading) : Option TextPattern :=
  if !reading.outer.isEmpty then none
  else
    let contents := reading.group.contents
    if contents.depth ≤ maxDepth then some contents.pattern else none

/-- A reading with one more part that is neither a group nor a repetition, at the front of a
text. -/
def readLeaf (reading : Reading) (c : Char) (rest : List Char) : Option (Reading × List Char) :=
  let flags := reading.flags
  match c with
  | '[' => do
    let (nested, rest) ← Bracket.read flags rest
    return ({ reading with group := reading.group.add (.part ⟨.step nested.set, nested.depth⟩) },
      rest)
  | '.' => do return (reading.addLeaf (.step (← flags.point?)), rest)
  | '^' => some (reading.addLeaf (.check flags.lineStart), rest)
  | '$' => some (reading.addLeaf (.check flags.lineEnd), rest)
  | '\\' => do
    match ← Escape.read flags rest with
    | (.literal c, rest) => return (reading.addLeaf (.step (flags.literal c)), rest)
    | (.oneOf set, rest) => return (reading.addLeaf (.step set), rest)
    | (.check place, rest) => return (reading.addLeaf (.check place), rest)
  | c => some (reading.addLeaf (.step (flags.literal c)), rest)

/-- A reading one part further, at the front of a text. -/
def advance (reading : Reading) (c : Char) (rest : List Char) : Option (Reading × List Char) :=
  match c with
  | '(' => do
    let (opening, rest) ← readOpening reading.flags rest
    return (← reading.enter? opening, rest)
  | ')' => do return (← reading.leave?, rest)
  | '|' => some ({ reading with group := reading.group.branch }, rest)
  | '?' => do return (← reading.repeatLast? 0 (some 1), dropLazyMark rest)
  | '*' => do return (← reading.repeatLast? 0 none, dropLazyMark rest)
  | '+' => do return (← reading.repeatLast? 1 none, dropLazyMark rest)
  | '{' => do
    let (least, most, rest) ← readBounds reading.flags rest
    return (← reading.repeatLast? least most, rest)
  | c => reading.readLeaf c rest

/-- The pattern of a reading and the rest of its text. Each part takes at least one character, so
`fuel` only has to be the length of the text. -/
def finishText? : Nat → Reading → List Char → Option TextPattern
  | fuel, reading, text =>
    match fuel, reading.flags.skip text with
    | _, [] => reading.finish?
    | 0, _ => none
    | fuel + 1, c :: rest => do
      let (reading, rest) ← reading.advance c rest
      finishText? fuel reading rest

end Reading

/-- The pattern that a text describes, if it describes one. -/
def ofText? (text : List Char) (flags : Flags) : Option TextPattern :=
  Reading.finishText? text.length ⟨flags, .start flags, [], []⟩ text

end FileSearch.Pattern
